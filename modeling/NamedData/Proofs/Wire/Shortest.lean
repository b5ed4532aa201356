import NamedData.Proofs.Wire.Normal

/-!
# Nothing is written longer than it was read

Writers take the shortest form of every number, leave out what goes without saying, and write no tails.
So what is written for a value is no longer than the element that it was read from (`Condenses`), nor
than the elements that a grammar takes for it (`Grammar.CondensedBy`). Headers are where this needs an
argument: a shorter value has a length whose form is no longer (`length_number_le`).
-/

namespace NamedData.Wire

open Element (concat)

variable {α : Type} {type : UInt64}

/-! ## Numbers and headers -/

/-- The length of the shortest form by the number. -/
theorem length_number (n : UInt64) : (number n).length =
    if n.toNat < 253 then 1
    else if n.toNat < UInt16.size then 3
    else if n.toNat < UInt32.size then 5
    else 9 := by
  unfold number
  repeat' split
  all_goals rfl

/-- A header has from one to nine bytes for each of its numbers. -/
theorem length_element_bounds (type : UInt64) (value : Bytes) :
    value.length + 2 ≤ (element type value).length
      ∧ (element type value).length ≤ value.length + 18 := by
  have hnumber (n : UInt64) : 1 ≤ (number n).length ∧ (number n).length ≤ 9 := by
    rw [length_number]
    grind
  have htype := hnumber type
  have hlength := hnumber (UInt64.ofNat value.length)
  rw [element, header, List.length_append, List.length_append]
  omega

/-- No form of a number is shorter than the shortest form of a number up to it. -/
theorem length_number_le {m n : UInt64} {form : Bytes} (h : NumberForm n form) (hle : m ≤ n) :
    (number m).length ≤ form.length := by
  have hnat : m.toNat ≤ n.toNat := UInt64.le_iff_toNat_le.1 hle
  rw [length_number]
  cases h with
  | narrow hn =>
    rw [if_pos (by omega)]
    exact Nat.le_of_eq (Bytes.length_bigEndian _ _).symm
  | wide hwidth hn =>
    rw [List.length_cons, Bytes.length_bigEndian]
    rcases Reader.wideWidth?_eq_some hwidth with rfl | rfl | rfl
    · have hlt : n.toNat < UInt16.size := hn
      grind
    · have hlt : n.toNat < UInt32.size := hn
      grind
    · grind

/-- The forms of a number that are equally long are the same. -/
theorem NumberForm.eq_of_length_eq {n : UInt64} {form other : Bytes} (h : NumberForm n form)
    (hother : NumberForm n other) (hlength : form.length = other.length) : form = other := by
  cases h with
  | narrow =>
    cases hother with
    | narrow => rfl
    | wide hwidth =>
      simp only [List.length_cons, Bytes.length_bigEndian] at hlength
      have hwide := Reader.wideWidth?_eq_some hwidth
      omega
  | @wide first width hfirst =>
    cases hother with
    | narrow =>
      simp only [List.length_cons, Bytes.length_bigEndian] at hlength
      have hwide := Reader.wideWidth?_eq_some hfirst
      omega
    | @wide first' width' hfirst' =>
      simp only [List.length_cons, Bytes.length_bigEndian] at hlength
      obtain rfl := Nat.succ.inj hlength
      -- the marker is told by the width that it announces
      have hmarker : first = first' := by
        unfold Reader.wideWidth? at hfirst hfirst'
        grind
      rw [hmarker]

/-- An element is written for a value in no more bytes than an element of this type has whose value is
at least as long. -/
theorem length_element_le {e : Element} {value : Bytes} (htype : e.type = type)
    (hle : value.length ≤ e.value.length) : (element type value).length ≤ e.bytes.length := by
  obtain ⟨head, ⟨htypeForm, hlengthForm⟩, hsize, hbytes⟩ := e.isElement
  have hlength : UInt64.ofNat value.length ≤ UInt64.ofNat e.value.length := by
    rw [UInt64.le_iff_toNat_le, UInt64.toNat_ofNat_of_lt' hsize,
      UInt64.toNat_ofNat_of_lt' (Nat.lt_of_le_of_lt hle hsize)]
    exact hle
  have htypeLe := length_number_le htypeForm (UInt64.le_of_eq htype.symm)
  have hlengthLe := length_number_le hlengthForm hlength
  rw [hbytes, element, header]
  simp only [List.length_append]
  omega

/-- A number is written as a value of at most the length that it was read from. -/
theorem HoldsInteger.length_encode_le {e : Element} {n : UInt64} (h : HoldsInteger e n) :
    (Integer.encode n).length ≤ e.value.length :=
  Integer.length_encode_le (Integer.decode_eq_ok_iff.2 h)

/-! ## Fields -/

/-- Of some elements as many come before the rest as there must be for what is written. -/
def HasRoom (es : List Element) (written : Bytes) (rest : List Element) : Prop :=
  written.length + (concat rest).length ≤ (concat es).length

namespace HasRoom

variable {es es₁ rest : List Element} {written written' : Bytes}

theorem length_le (h : HasRoom es written rest) : written.length ≤ (concat es).length :=
  Nat.le_of_add_right_le h

theorem nil : HasRoom es [] es :=
  Nat.le_of_eq (Nat.zero_add _)

theorem cons {e : Element} (h : written.length ≤ e.bytes.length) : HasRoom (e :: es) written es := by
  rw [HasRoom, Element.concat_cons, List.length_append]
  exact Nat.add_le_add_right h _

theorem append (h : HasRoom es written es₁) (h' : HasRoom es₁ written' rest) :
    HasRoom es (written ++ written') rest := by
  unfold HasRoom at *
  rw [List.length_append]
  omega

/-- There is room for less. -/
theorem mono (h : HasRoom es written rest) (hle : written'.length ≤ written.length) :
    HasRoom es written' rest :=
  Nat.le_trans (Nat.add_le_add_right hle _) h

end HasRoom

/-- What is written for a value is no longer than an element of the type that has the value. -/
def Condenses (type : UInt64) (P : Element → α → Prop) (write : α → Bytes) : Prop :=
  ∀ ⦃e : Element⦄ ⦃a : α⦄, e.type = type → P e a → (write a).length ≤ e.bytes.length

/-- What is written for a value has room among the elements that a grammar takes for it. -/
def Grammar.CondensedBy (g : Grammar α) (write : α → Bytes) : Prop :=
  ∀ ⦃es : List Element⦄ ⦃a : α⦄ ⦃rest : List Element⦄, g es a rest → HasRoom es (write a) rest

/-- A value that may be missing, and is not written then. -/
def writeOption (write : α → Bytes) : Option α → Bytes
  | none => []
  | some a => write a

/-- The elements of a value have room for what is written. -/
theorem HasRoom.element_le {e : Element} {es rest : List Element} {written : Bytes}
    (h : HasRoom es written rest) (htype : e.type = type) (hvalue : HoldsElements e es) :
    (element type written).length ≤ e.bytes.length := by
  refine length_element_le htype ?_
  rw [hvalue]
  exact h.length_le

theorem Grammar.CondensedBy.contains {g : Grammar α} {write : α → Bytes} (h : g.CondensedBy write) :
    Condenses type (Contains g) fun a => element type (write a) := by
  rintro e a htype ⟨es, rest, hvalue, hg, -⟩
  exact (h hg).element_le htype hvalue

theorem Condenses.required {P : Element → α → Prop} {write : α → Bytes} (h : Condenses type P write) :
    (Required type P).CondensedBy write := by
  rintro _ a rest ⟨e, rfl, htype, hP⟩
  exact .cons (h htype hP)

theorem Condenses.optional {P : Element → α → Prop} {write : α → Bytes} (h : Condenses type P write) :
    (Optional type P).CondensedBy (writeOption write) := by
  rintro es _ rest (⟨htype, hP⟩ | hnone)
  · exact .cons (h htype hP)
  · exact .nil

theorem condenses_integer : Condenses type HoldsInteger (integerElement type) :=
  fun _ _ htype h => length_element_le htype h.length_encode_le

theorem condenses_integer32 :
    Condenses type HoldsInteger32 fun n => integerElement type n.toUInt64 :=
  fun _ _ htype h => condenses_integer htype h

theorem condenses_bytes : Condenses type HoldsBytes (element type) :=
  fun _ _ htype h => length_element_le htype (Nat.le_of_eq (congrArg List.length h))

theorem condenses_text :
    Condenses type HoldsText fun s => element type (Text.Utf8.encode s.toList) :=
  fun _ _ htype h => length_element_le htype (Nat.le_of_eq (congrArg List.length h.symm))

section

variable {es rest : List Element} {n : Option UInt64}

theorem hasRoom_integer (h : Optional type HoldsInteger es n rest) :
    HasRoom es (integerElement? type n) rest := by
  cases n <;> exact condenses_integer.optional h

theorem hasRoom_integer32 {n : Option UInt32} (h : Optional type HoldsInteger32 es n rest) :
    HasRoom es (integer32Element? type n) rest := by
  cases n <;> exact condenses_integer32.optional h

theorem hasRoom_text {s : Option String} : Optional type HoldsText es s rest →
    HasRoom es (match s with
      | none => []
      | some s => element type (Text.Utf8.encode s.toList)) rest := by
  intro h
  cases s <;> exact condenses_text.optional h

/-- A duration that was read is a number of milliseconds. -/
theorem hasRoom_millis (h : Optional type HoldsInteger es n rest) :
    HasRoom es (integerElement? type
      ((n.map Time.Duration.ofMillis).map Time.Duration.saturatedMillis)) rest := by
  have hmillis : (n.map Time.Duration.ofMillis).map Time.Duration.saturatedMillis = n := by
    cases n with
    | none => rfl
    | some n => exact congrArg some (Time.Duration.saturatedMillis_ofMillis n)
  rw [hmillis]
  exact hasRoom_integer h

/-- A code that is left out where it is the one that is taken if there is none. -/
theorem hasRoom_code {β : Type} [DecidableEq β] {ofCode : UInt64 → β} {code : β → UInt64} {initial : β}
    (hcode : ∀ n, code (ofCode n) = n) (h : Optional type HoldsInteger es n rest) :
    HasRoom es (if (n.map ofCode).getD initial = initial then []
      else integerElement type (code ((n.map ofCode).getD initial))) rest := by
  have hroom := condenses_integer.optional h
  cases n with
  | none => exact hroom.mono (by rw [Option.map_none, Option.getD_none, if_pos rfl]; exact Nat.le_refl _)
  | some n =>
    rw [Option.map_some, Option.getD_some, hcode]
    split
    · exact hroom.mono (Nat.zero_le _)
    · exact hroom

end

/-! ## Names and key locators -/

theorem length_componentElement_le (e : Element) :
    (componentElement e.component).length ≤ e.bytes.length := by
  rw [componentElement, Element.component, ComponentType.code_ofCode]
  exact length_element_le rfl (Nat.le_refl _)

/-- Elements one by one. -/
theorem hasRoom_flatMap {write : α → Bytes} {f : Element → α}
    (h : ∀ e, (write (f e)).length ≤ e.bytes.length) (es : List Element) :
    HasRoom es ((es.map f).flatMap write) [] := by
  induction es with
  | nil => exact .nil
  | cons e es ih => exact .append (.cons (h e)) ih

theorem condenses_name : Condenses ElementType.name HoldsName nameElement := by
  rintro e _ htype ⟨components, hvalue, rfl⟩
  exact (hasRoom_flatMap length_componentElement_le components).element_le htype hvalue

theorem hasRoom_name {es rest : List Element} {n : Option Name}
    (h : Optional ElementType.name HoldsName es n rest) : HasRoom es (nameElement? n) rest := by
  cases n <;> exact condenses_name.optional h

/-- A name in an element of its own. -/
theorem hasRoom_nestedName {es rest : List Element} {n : Option Name} :
    Optional type (Contains NameField) es n rest → HasRoom es (match n with
      | none => []
      | some n => element type (nameElement n)) rest := by
  have hnested : Condenses type (Contains NameField) fun n => element type (nameElement n) :=
    Grammar.CondensedBy.contains condenses_name.required
  intro h
  cases n <;> exact hnested.optional h

/-- A key locator that is read can be written. -/
theorem KeyLocatorFields.exists_value {es rest : List Element} {k : KeyLocator}
    (h : KeyLocatorFields es k rest) :
    ∃ value, keyLocatorValue k = .ok value ∧ HasRoom es value rest := by
  cases h with
  | name h => exact ⟨_, rfl, condenses_name.required h⟩
  | digest h => exact ⟨_, rfl, condenses_bytes.required h⟩
  | absent => exact ⟨_, rfl, .nil⟩

/-- A key locator that may be missing. -/
theorem exists_keyLocatorElement {es rest : List Element} {found : Option KeyLocator}
    (h : Optional type (Contains KeyLocatorFields) es found rest) :
    ∃ written, keyLocatorElement? type (found.getD .absent) = .ok written
      ∧ HasRoom es written rest := by
  cases h with
  | @some e _ k htype hcontains =>
    obtain ⟨es, after, hvalue, hfields, -⟩ := hcontains
    obtain ⟨value, hwrite, hroom⟩ := hfields.exists_value
    rw [keyLocatorElement?, Option.getD_some, hwrite]
    split
    · exact ⟨_, rfl, .cons (Nat.zero_le _)⟩
    · exact ⟨_, rfl, .cons (hroom.element_le htype hvalue)⟩
  | none => exact ⟨_, rfl, .nil⟩

/-! ## Delegations and control messages -/

theorem condenses_delegation : Condenses ElementType.linkDelegation (Contains DelegationFields)
    delegationElement := by
  rintro e _ htype ⟨es, rest, hvalue, ⟨hpreference, hname⟩, -⟩
  exact ((condenses_integer.required hpreference).append (condenses_name.required hname)).element_le
    htype hvalue

theorem hasRoom_delegations {offset : Nat} {es : List Element} {entries : List Delegation}
    (h : Row (fun _ => IsDelegation) offset es entries) :
    HasRoom es (encodeDelegations ⟨entries⟩) [] := by
  induction h with
  | nil => exact .nil
  | cons hfirst _ ih => exact .append (.cons (condenses_delegation hfirst.1 hfirst.2)) ih

theorem condenses_nack :
    Condenses ElementType.networkNack (Contains NackFields) encodeNack := by
  rintro e _ htype ⟨es, rest, hvalue, ⟨hreason⟩, -⟩
  exact (hasRoom_code NackReason.code_ofCode hreason).element_le htype hvalue

theorem condenses_parameters : Condenses ElementType.controlParameters (Contains ParametersFields)
    encodeParameters := by
  rintro e _ htype ⟨es, rest, hvalue, ⟨hname, hfaceId, huri, hfeature, horigin, hcost, hflags,
    hstrategy, hexpiration⟩, -⟩
  have hcode : ∀ n, (ForwardingFlags.mk n).bits = n := fun _ => rfl
  rw [encodeParameters]
  refine (?_ : HasRoom es _ rest).element_le htype hvalue
  refine .append ?_ (hasRoom_millis hexpiration)
  refine .append ?_ (hasRoom_nestedName hstrategy)
  refine .append ?_ (hasRoom_code hcode hflags)
  refine .append ?_ (hasRoom_integer hcost)
  refine .append ?_ (hasRoom_integer horigin)
  refine .append ?_ (hasRoom_integer hfeature)
  refine .append ?_ (hasRoom_text huri)
  exact .append (hasRoom_name hname) (hasRoom_integer hfaceId)

/-- Parameters that may be missing. -/
theorem hasRoom_parameters {es rest : List Element} {body : Option ControlParameters} :
    Optional ElementType.controlParameters (Contains ParametersFields) es body rest →
      HasRoom es (match body with
        | none => []
        | some p => encodeParameters p) rest := by
  intro h
  cases body <;> exact condenses_parameters.optional h

theorem condenses_response : Condenses ElementType.controlResponse (Contains ResponseFields)
    encodeResponse := by
  rintro e _ htype ⟨es, rest, hvalue, ⟨hcode, htext, hbody⟩, -⟩
  rw [encodeResponse]
  refine (?_ : HasRoom es _ rest).element_le htype hvalue
  refine .append ?_ (hasRoom_parameters hbody)
  exact .append (condenses_integer.required hcode) (condenses_text.required htext)

/-! ## Interests -/

/-- The selectors that an Interest has. -/
def selectorsOf (i : Interest) : Selectors where
  minSuffixComponents := i.minSuffixComponents
  maxSuffixComponents := i.maxSuffixComponents
  keyLocator := i.keyLocator
  exclude := i.exclude
  childSelector := i.childSelector
  mustBeFresh := i.mustBeFresh

/-- What the selectors were read as is what the Interest has. -/
theorem selectorsOf_eq {i : Interest} {s : Selectors}
    (horigin : i.answerOrigin = if s.mustBeFresh then none else some .stale)
    (hothers : { selectorsOf i with mustBeFresh := s.mustBeFresh } = s) : selectorsOf i = s := by
  rw [← hothers, ← mustBeFresh_of_answerOrigin horigin]
  rfl

theorem hasSelectors_eq_false {i : Interest} (h : selectorsOf i = {}) : hasSelectors i = false := by
  simp only [selectorsOf, Selectors.mk.injEq] at h
  obtain ⟨hmin, hmax, hlocator, hexclude, hchild, hfresh⟩ := h
  rw [hasSelectors, hmin, hmax, hlocator, hexclude, hchild, hfresh]
  rfl

section

variable {es rest : List Element}

theorem length_excludeEntryElement_le (e : Element) :
    (excludeEntryElement e.excludeEntry).length ≤ e.bytes.length := by
  rw [Element.excludeEntry]
  split
  · next htype => exact length_element_le htype (Nat.zero_le _)
  · exact length_componentElement_le e

theorem hasRoom_exclude {entries : Option (List ExcludeEntry)}
    (h : Optional ElementType.exclude HoldsEntries es entries rest) :
    HasRoom es (excludeElement? ⟨entries.getD []⟩) rest := by
  cases h with
  | @some e _ entries htype hentries =>
    obtain ⟨items, hvalue, rfl⟩ := hentries
    rw [excludeElement?]
    split
    · exact .cons (Nat.zero_le _)
    · exact .cons ((hasRoom_flatMap length_excludeEntryElement_le items).element_le htype hvalue)
  | none => exact .nil

theorem hasRoom_childSelector {child : Option ChildSelector}
    (h : Optional type HoldsChildSelector es child rest) :
    HasRoom es (integerElement? type (child.map ChildSelector.code)) rest := by
  have hchild : Condenses type HoldsChildSelector fun selector => integerElement type selector.code :=
    fun _ _ htype h => condenses_integer htype h
  cases child <;> exact hchild.optional h

theorem hasRoom_flag {flag : Option Bytes} (h : Optional type HoldsBytes es flag rest) :
    HasRoom es (if flag.isSome then element type [] else []) rest := by
  cases h with
  | some htype _ => exact .cons (length_element_le htype (Nat.zero_le _))
  | none => exact .nil

/-- Selectors that are read can be written. -/
theorem SelectorsFields.exists_value {i : Interest} {s : Selectors} (h : SelectorsFields es s rest)
    (hs : selectorsOf i = s) : ∃ value, selectorsValue i = .ok value ∧ HasRoom es value rest := by
  obtain ⟨hmin, hmax, hlocator, hexclude, hchild, hfresh⟩ := h
  simp only [selectorsOf, Selectors.mk.injEq] at hs
  obtain ⟨rfl, rfl, hkey, hentries, rfl, hdemand⟩ := hs
  obtain ⟨locator, hwrite, hroom⟩ := exists_keyLocatorElement hlocator
  rw [selectorsValue, hkey, hwrite, hentries, hdemand]
  exact ⟨_, rfl, .append (.append (.append (.append (.append (hasRoom_integer32 hmin)
    (hasRoom_integer32 hmax)) hroom) (hasRoom_exclude hexclude)) (hasRoom_childSelector hchild))
    (hasRoom_flag hfresh)⟩

theorem exists_selectorsElement {i : Interest} {found : Option Selectors}
    (h : Optional ElementType.selectors (Contains SelectorsFields) es found rest)
    (hfound : selectorsOf i = found.getD {}) :
    ∃ written, selectorsElement? i = .ok written ∧ HasRoom es written rest := by
  rw [selectorsElement?]
  cases h with
  | @some e _ s htype hcontains =>
    obtain ⟨inner, after, hvalue, hfields, -⟩ := hcontains
    obtain ⟨value, hwrite, hroom⟩ := hfields.exists_value hfound
    rw [hwrite]
    split
    · exact ⟨_, rfl, .cons (hroom.element_le htype hvalue)⟩
    · exact ⟨_, rfl, .cons (Nat.zero_le _)⟩
  | none =>
    rw [hasSelectors_eq_false hfound]
    exact ⟨_, rfl, .nil⟩

theorem hasRoom_link {link : Option Bytes} (h : Optional type IsVerbatim es link rest) :
    HasRoom es (link.getD []) rest := by
  cases h with
  | some htype hbytes => exact .cons (Nat.le_of_eq (congrArg List.length hbytes))
  | none => exact .nil

/-- What follows the name in an Interest that is read can be written. -/
theorem InterestFields.exists_tail {name : Name} {i : Interest} (h : InterestFields name es i rest) :
    ∃ following, interestTail i i.nonce = .ok following ∧ HasRoom es following rest := by
  generalize hi : i = j
  obtain ⟨hselectors, hnonce, hscope, hlifetime, hlink, hselected, hfound⟩ := h
  next found _ _ _ _ _ s =>
  have hs : selectorsOf j = found.getD {} := hfound ▸ hi ▸ selectorsOf_eq rfl rfl
  obtain ⟨selectors, hwrite, hroom⟩ := exists_selectorsElement hselectors hs
  rw [interestTail, hwrite, ← hi]
  exact ⟨_, rfl, .append (.append (.append (.append (.append hroom (condenses_bytes.required hnonce))
    (hasRoom_integer32 hscope)) (hasRoom_millis hlifetime)) (hasRoom_link hlink))
    (hasRoom_integer32 hselected)⟩

end

/-- An Interest that is read with a nonce is encoded in no more bytes, and no random bytes are needed. -/
theorem InterestPacket.exists_encoding {blob : SignedBlob} {i : Interest} (h : InterestPacket blob i)
    (hnonce : i.nonce ≠ []) : ∃ blob',
      (∀ nonceLength random, encodeInterest nonceLength random i = .ok blob')
        ∧ blob'.bytes.length ≤ blob.bytes.length := by
  obtain ⟨htype, hbytes, hvalue, hname, hcomponents, hfields, -, -⟩ := h
  next e name components fields rest =>
  obtain ⟨following, htail, hroom⟩ := hfields.exists_tail
  refine ⟨interestBlob i following, fun nonceLength random => ?_, ?_⟩
  · have hsent : sentNonce nonceLength random i = i.nonce := if_neg (by rwa [List.isEmpty_iff])
    exact encodeInterest_eq_ok_iff.2 ⟨following, hsent ▸ htail, rfl⟩
  · have hfirst : HasRoom (name :: fields) (nameElement i.name) fields :=
      .cons (condenses_name hname ⟨components, hcomponents, hfields.name_eq⟩)
    rw [hbytes]
    exact (hfirst.append hroom).element_le htype hvalue

end NamedData.Wire
