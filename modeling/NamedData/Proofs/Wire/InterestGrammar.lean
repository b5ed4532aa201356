import NamedData.Proofs.Wire.FieldGrammar
import NamedData.Proofs.Wire.Interest

/-!
# The grammar of Interests

An Interest is decoded from exactly the inputs that start with an `InterestPacket`: one element whose
value is the name, the selectors if there are any, the nonce, the other settings as far as they are
there, and a tail. The grammar also tells the values of all fields and the signed range.
-/

namespace NamedData

/-- The selector of a number is the one that has it. -/
theorem ChildSelector.ofCode?_eq_some_iff {code : UInt64} {selector : ChildSelector} :
    ofCode? code = some selector ↔ code = selector.code := by
  unfold ofCode? ChildSelector.code
  cases selector <;> grind

namespace Wire

open Element (concat)

/-! ## The grammar -/

/-- An element as an entry of an exclude. -/
def Element.excludeEntry (e : Element) : ExcludeEntry :=
  if e.type = ElementType.any then .any else .component e.component

/-- An element with the entries of an exclude in it: one element an entry. -/
def HoldsEntries (e : Element) (entries : List ExcludeEntry) : Prop :=
  ∃ es, HoldsElements e es ∧ entries = es.map Element.excludeEntry

/-- An element with the number of a child selector in it. -/
def HoldsChildSelector (e : Element) (selector : ChildSelector) : Prop :=
  HoldsInteger e selector.code

/-- The fields of the selectors. -/
inductive SelectorsFields : Grammar Selectors where
  | mk {es es₁ es₂ es₃ es₄ es₅ rest : List Element} {minSuffix maxSuffix : Option UInt32}
      {locator : Option KeyLocator} {entries : Option (List ExcludeEntry)}
      {child : Option ChildSelector} {fresh : Option Bytes}
      (hmin : Optional ElementType.minSuffixComponents HoldsInteger32 es minSuffix es₁)
      (hmax : Optional ElementType.maxSuffixComponents HoldsInteger32 es₁ maxSuffix es₂)
      (hlocator : Optional ElementType.publisherPublicKeyLocator (Contains KeyLocatorFields)
        es₂ locator es₃)
      (hexclude : Optional ElementType.exclude HoldsEntries es₃ entries es₄)
      (hchild : Optional ElementType.childSelector HoldsChildSelector es₄ child es₅)
      (hfresh : Optional ElementType.mustBeFresh HoldsBytes es₅ fresh rest) :
      SelectorsFields es {
        minSuffixComponents := minSuffix
        maxSuffixComponents := maxSuffix
        keyLocator := locator.getD .absent
        exclude := ⟨entries.getD []⟩
        childSelector := child
        mustBeFresh := fresh.isSome } rest

/-- An element that is kept as it came. -/
def IsVerbatim (e : Element) (bytes : Bytes) : Prop :=
  bytes = e.bytes

/-- What follows the name in an Interest. -/
inductive InterestFields (name : Name) : Grammar Interest where
  | mk {es es₁ es₂ es₃ es₄ es₅ rest : List Element} {found : Option Selectors} {nonce : Bytes}
      {scope selectedDelegation : Option UInt32} {lifetime : Option UInt64} {link : Option Bytes}
      {selectors : Selectors}
      (hselectors : Optional ElementType.selectors (Contains SelectorsFields) es found es₁)
      (hnonce : Required ElementType.nonce HoldsBytes es₁ nonce es₂)
      (hscope : Optional ElementType.scope HoldsInteger32 es₂ scope es₃)
      (hlifetime : Optional ElementType.interestLifetime HoldsInteger es₃ lifetime es₄)
      (hlink : Optional ElementType.data IsVerbatim es₄ link es₅)
      (hselected : Optional ElementType.selectedDelegation HoldsInteger32 es₅ selectedDelegation rest)
      (hfound : selectors = found.getD {}) :
      InterestFields name es {
        name, nonce, scope, selectedDelegation
        minSuffixComponents := selectors.minSuffixComponents
        maxSuffixComponents := selectors.maxSuffixComponents
        keyLocator := selectors.keyLocator
        exclude := selectors.exclude
        childSelector := selectors.childSelector
        answerOrigin := if selectors.mustBeFresh then none else some .stale
        lifetime := lifetime.map Time.Duration.ofMillis
        link := link.getD [] } rest

theorem InterestFields.name_eq {name : Name} {es rest : List Element} {i : Interest}
    (h : InterestFields name es i rest) : i.name = name := by
  cases h
  rfl

/-- The bytes are one Interest. All components of its name but the last are signed. -/
inductive InterestPacket (blob : SignedBlob) (i : Interest) : Prop where
  | mk {e name : Element} {components fields rest : List Element}
      (htype : e.type = ElementType.interest) (hbytes : blob.bytes = e.bytes)
      (hvalue : HoldsElements e (name :: fields))
      (hname : name.type = ElementType.name) (hcomponents : HoldsElements name components)
      (hfields : InterestFields ⟨components.map Element.component⟩ fields i rest)
      (htail : IsTail rest)
      (hsigned : blob.Signs (concat components.dropLast)
        (concat components.getLast?.toList ++ concat fields))

/-! ## The reader -/

namespace Reader

variable {stop : Nat} {type : UInt64}

protected theorem Accepts.optionalInteger32 :
    Accepts stop (optionalInteger32 type) (Optional type HoldsInteger32) := by
  refine ((AcceptsElement.integer type).optional.bind_idle
    (Q := fun found n => found = n.map UInt32.toUInt64) fun found => ?_).congr fun es n rest => ?_
  · cases found with
    | none => exact (Idle.pure none).congr fun n => by rw [eq_comm (a := none), Option.map_eq_none_iff]
    | some wide =>
      refine (Idle.ite (.pure _) (.fail _)).congr fun n => ?_
      split
      · next hlt =>
        have hnarrow : wide.toUInt32.toUInt64 = wide := by
          rw [← UInt64.toNat_inj, UInt32.toNat_toUInt64, UInt64.toNat_toUInt32]
          exact Nat.mod_eq_of_lt hlt
        constructor
        · rintro rfl
          rw [Option.map_some, hnarrow]
        · intro hn
          obtain ⟨m, rfl, rfl⟩ := Option.map_eq_some_iff.1 hn.symm
          rw [UInt32.toUInt32_toUInt64]
      · next hlarge =>
        refine ⟨False.elim, fun hn => ?_⟩
        obtain ⟨m, rfl, rfl⟩ := Option.map_eq_some_iff.1 hn.symm
        exact hlarge m.toNat_lt
  · constructor
    · rintro ⟨_, hfound, rfl⟩
      cases n with
      | none =>
        cases hfound
        exact .none ‹_›
      | some n =>
        cases hfound
        exact .some ‹_› ‹_›
    · rintro (⟨htype, hn⟩ | hnone)
      · exact ⟨_, .some htype hn, rfl⟩
      · exact ⟨_, .none hnone, rfl⟩

namespace AcceptsElement

protected theorem excludeEntry :
    AcceptsElement excludeEntry fun _ e entry => entry = e.excludeEntry := by
  refine (AcceptsElement.any.bind_idle fun p => .pure (if p.1 = ElementType.any then
    ExcludeEntry.any else .component ⟨.ofCode p.1, p.2⟩)).congr fun offset e entry => ?_
  constructor
  · rintro ⟨_, rfl, rfl⟩
    rfl
  · rintro rfl
    exact ⟨_, rfl, rfl⟩

protected theorem entries :
    AcceptsElement (Reader.nested ElementType.exclude (Reader.many Reader.excludeEntry))
      fun _ e entries => e.type = ElementType.exclude ∧ HoldsEntries e entries := by
  refine (AcceptsElement.nested (fun _ => AcceptsElement.excludeEntry.many_map)
    ElementType.exclude).congr fun offset e entries => and_congr_right fun _ => ?_
  constructor
  · rintro ⟨es, rest, hvalue, ⟨-, rfl⟩, -⟩
    exact ⟨es, hvalue, rfl⟩
  · rintro ⟨es, hvalue, rfl⟩
    exact ⟨es, [], hvalue, ⟨rfl, rfl⟩, nofun⟩

protected theorem childSelector : AcceptsElement childSelector fun _ e selector =>
    e.type = ElementType.childSelector ∧ HoldsChildSelector e selector := by
  refine ((AcceptsElement.integer ElementType.childSelector).bind_idle
    (Q := fun code selector => ChildSelector.ofCode? code = some selector) fun code => ?_).congr ?_
  · cases ChildSelector.ofCode? code with
    | some selector => exact (Idle.pure selector).congr fun _ => by rw [Option.some.injEq, eq_comm]
    | none => exact (Idle.fail _).congr fun _ => iff_of_false id (by rintro ⟨⟩)
  intro offset e selector
  constructor
  · rintro ⟨code, ⟨htype, hcode⟩, hselector⟩
    rw [ChildSelector.ofCode?_eq_some_iff] at hselector
    subst hselector
    exact ⟨htype, hcode⟩
  · rintro ⟨htype, hcode⟩
    exact ⟨_, ⟨htype, hcode⟩, ChildSelector.ofCode?_eq_some_iff.2 rfl⟩

end AcceptsElement

protected theorem Accepts.selectors : Accepts stop selectors SelectorsFields := by
  refine (Accepts.optionalInteger32.bind fun minSuffix => Accepts.optionalInteger32.bind fun maxSuffix =>
    (AcceptsElement.nested (fun _ => Accepts.keyLocatorValue)
      ElementType.publisherPublicKeyLocator).optional.bind fun locator =>
    AcceptsElement.entries.optional.bind fun entries =>
    AcceptsElement.childSelector.optional.bind fun child =>
    (AcceptsElement.blob ElementType.mustBeFresh).optional.bind fun fresh => .pure _).congr ?_
  intro es selectors rest
  constructor
  · rintro ⟨minSuffix, es₁, hmin, maxSuffix, es₂, hmax, locator, es₃, hlocator, entries, es₄,
      hexclude, child, es₅, hchild, fresh, es₆, hfresh, rfl, rfl⟩
    exact .mk hmin hmax hlocator hexclude hchild hfresh
  · rintro ⟨hmin, hmax, hlocator, hexclude, hchild, hfresh⟩
    exact ⟨_, _, hmin, _, _, hmax, _, _, hlocator, _, _, hexclude, _, _, hchild, _, _, hfresh,
      rfl, rfl⟩

/-- Of an element that is kept as it came only the bytes are kept. -/
private theorem optional_verbatim_iff {es rest : List Element} {bytes : Option Bytes} :
    Optional type IsVerbatim es bytes rest
      ↔ ∃ p, Optional type (fun e p => p = (e.value, e.bytes)) es p rest ∧ bytes = p.map Prod.snd := by
  constructor
  · rintro (⟨htype, rfl⟩ | hnone)
    · exact ⟨_, .some htype rfl, rfl⟩
    · exact ⟨_, .none hnone, rfl⟩
  · rintro ⟨_, ⟨htype, rfl⟩ | hnone, rfl⟩
    · exact .some htype rfl
    · exact .none hnone

/-- An Interest with the offsets of the components of its name and of the last of them. -/
protected theorem AcceptsElement.interest : AcceptsElement interest fun offset e p =>
    ∃ (name : Element) (components fields rest : List Element), e.type = ElementType.interest
      ∧ HoldsElements e (name :: fields) ∧ name.type = ElementType.name
      ∧ HoldsElements name components
      ∧ InterestFields ⟨components.map Element.component⟩ fields p.1 rest ∧ IsTail rest
      ∧ p.2.1 + (concat components ++ concat fields).length = offset + e.bytes.length
      ∧ p.2.2 = p.2.1 + (concat components.dropLast).length := by
  refine (AcceptsElement.nested (fun stop => AcceptsElement.nameRange.next.bind fun range =>
    (AcceptsElement.nested (fun _ => Accepts.selectors) ElementType.selectors).optional.bind fun found =>
    (AcceptsElement.blob ElementType.nonce).required.bind fun nonce =>
    Accepts.optionalInteger32.bind fun scope =>
    (AcceptsElement.integer ElementType.interestLifetime).optional.bind fun lifetime =>
    (AcceptsElement.verbatim ElementType.data).optional.bind fun link =>
    Accepts.optionalInteger32.bind fun selected => .pure _) ElementType.interest).congr ?_
  intro offset e p
  have hle := e.length_value_le
  constructor
  · rintro ⟨htype, es, rest, hvalue, ⟨_, fields, ⟨name, rfl, hname, components, start, hcomponents,
      hstart, rfl⟩, found, es₁, hselectors, nonce, es₂, hnonce, scope, es₃, hscope, lifetime, es₄,
      hlifetime, link, es₅, hlink, selected, es₆, hselected, rfl, rfl⟩, htail⟩
    refine ⟨name, components, fields, _, htype, hvalue, hname, hcomponents, ?_, htail, ?_, rfl⟩
    · exact .mk hselectors hnonce hscope hlifetime (optional_verbatim_iff.2 ⟨_, hlink, rfl⟩)
        hselected rfl
    · rw [hcomponents] at hstart
      rw [hvalue] at hle
      rw [Element.concat_cons, List.length_append] at hstart hle
      show start + (concat components ++ concat fields).length = _
      rw [List.length_append]
      omega
  · rintro ⟨name, components, fields, rest, htype, hvalue, hname, hcomponents, hfields, htail, hbegin,
      hend⟩
    obtain ⟨i, start, last⟩ := p
    dsimp only at hfields hbegin hend
    subst hend
    obtain ⟨hselectors, hnonce, hscope, hlifetime, hlink, hselected, rfl⟩ := hfields
    obtain ⟨_, hread, rfl⟩ := optional_verbatim_iff.1 hlink
    refine ⟨htype, _, _, hvalue, ⟨_, _, ⟨_, rfl, hname, _, start, hcomponents, ?_, rfl⟩, _, _,
      hselectors, _, _, hnonce, _, _, hscope, _, _, hlifetime, _, _, hread, _, _, hselected, rfl,
      rfl⟩, htail⟩
    rw [hvalue] at hle
    rw [hcomponents]
    rw [List.length_append] at hbegin
    rw [Element.concat_cons, List.length_append] at hle ⊢
    omega

end Reader

/-! ## Decoding -/

/-- A list is all but its last entry and the last one, if there is one. -/
theorem dropLast_append_toList_getLast? {α : Type} (entries : List α) :
    entries.dropLast ++ entries.getLast?.toList = entries := by
  rcases entries.eq_nil_or_concat with rfl | ⟨front, last, rfl⟩
  · rfl
  · rw [List.concat_eq_append, List.dropLast_concat, List.getLast?_concat, Option.toList_some]

theorem Element.concat_dropLast_append (es : List Element) :
    concat es.dropLast ++ concat es.getLast?.toList = concat es := by
  rw [← concat_append, dropLast_append_toList_getLast?]

theorem decodeInterest_eq_ok_iff {input : Bytes} (hsize : input.length < UInt64.size) {i : Interest}
    {blob : SignedBlob} : decodeInterest input = .ok (i, blob)
      ↔ InterestPacket blob i ∧ ∃ rest, input = blob.bytes ++ rest := by
  refine (run_packet_eq_ok_iff .interest hsize).trans ?_
  have hsigns {e name : Element} {components fields : List Element} (hbytes : blob.bytes = e.bytes)
      (hvalue : HoldsElements e (name :: fields)) (hcomponents : HoldsElements name components) :
      blob.Signs (concat components.dropLast) (concat components.getLast?.toList ++ concat fields)
        ↔ blob.signedBegin + (concat components ++ concat fields).length = 0 + e.bytes.length
          ∧ blob.signedEnd = blob.signedBegin + (concat components.dropLast).length := by
    obtain ⟨head, -, -, he⟩ := e.isElement
    obtain ⟨nameHead, -, -, hname⟩ := name.isElement
    have hsplit : blob.bytes = (head ++ nameHead) ++ (concat components.dropLast
        ++ (concat components.getLast?.toList ++ concat fields)) := by
      rw [hbytes, he, hvalue, Element.concat_cons, hname, hcomponents,
        ← Element.concat_dropLast_append components]
      simp only [List.append_assoc]
    rw [SignedBlob.signs_iff hsplit, ← List.append_assoc, Element.concat_dropLast_append, hbytes,
      Nat.zero_add]
  constructor
  · rintro ⟨e, ⟨name, components, fields, rest, htype, hvalue, hname, hcomponents, hfields, htail,
      hrange⟩, hbytes, hinput⟩
    exact ⟨.mk htype hbytes hvalue hname hcomponents hfields htail
      ((hsigns hbytes hvalue hcomponents).2 hrange), hinput⟩
  · rintro ⟨⟨htype, hbytes, hvalue, hname, hcomponents, hfields, htail, hsigned⟩, hinput⟩
    exact ⟨_, ⟨_, _, _, _, htype, hvalue, hname, hcomponents, hfields, htail,
      (hsigns hbytes hvalue hcomponents).1 hsigned⟩, hbytes, hinput⟩

/-! ## Fresh answers -/

/-- The bytes hold an element with selectors in it, and these a demand for fresh answers. -/
def DemandsFresh (bytes : Bytes) : Prop :=
  ∃ (e selectors : Element) (es inner : List Element), bytes = e.bytes ∧ HoldsElements e es
    ∧ selectors ∈ es ∧ selectors.type = ElementType.selectors ∧ HoldsElements selectors inner
    ∧ HasType ElementType.mustBeFresh inner

/-- Of all selectors only the last can be a demand for fresh answers. -/
theorem SelectorsFields.mustBeFresh_iff {es rest : List Element} {s : Selectors}
    (h : SelectorsFields es s rest) (htail : IsTail rest) :
    s.mustBeFresh = true ↔ HasType ElementType.mustBeFresh es := by
  have hnone : ¬ HasType ElementType.mustBeFresh rest := htail.not_hasType rfl
  obtain ⟨hmin, hmax, hlocator, hexclude, hchild, hfresh⟩ := h
  rw [hmin.hasType_iff (by decide), hmax.hasType_iff (by decide), hlocator.hasType_iff (by decide),
    hexclude.hasType_iff (by decide), hchild.hasType_iff (by decide)]
  constructor
  · intro hsome
    obtain ⟨bytes, rfl⟩ := Option.isSome_iff_exists.1 hsome
    obtain ⟨e, he, htype, -⟩ := hfresh.exists_mem
    exact ⟨e, he, htype⟩
  · rintro ⟨e, he, htype⟩
    obtain ⟨bytes, rfl, -⟩ := hfresh.of_mem hnone he htype
    rfl

/-- Answers must be fresh if the selectors say so. -/
theorem mustBeFresh_of_answerOrigin {s : InterestSettings} {fresh : Bool}
    (h : s.answerOrigin = if fresh then none else some .stale) : s.mustBeFresh = fresh := by
  rw [InterestSettings.mustBeFresh, h]
  cases fresh <;> rfl

/-- The selectors of an Interest stand in one place only. -/
theorem InterestFields.exists_selectors {name : Name} {e : Element} {es rest : List Element}
    {i : Interest} (h : InterestFields name es i rest) (htail : IsTail rest) (he : e ∈ es)
    (htype : e.type = ElementType.selectors) :
    ∃ s, Contains SelectorsFields e s ∧ i.mustBeFresh = s.mustBeFresh := by
  have hnone : ¬ HasType ElementType.selectors rest := htail.not_hasType rfl
  obtain ⟨hselectors, hnonce, hscope, hlifetime, hlink, hselected, hfound⟩ := h
  rw [← hselected.hasType_iff (by decide), ← hlink.hasType_iff (by decide),
    ← hlifetime.hasType_iff (by decide), ← hscope.hasType_iff (by decide),
    ← hnonce.hasType_iff (by decide)] at hnone
  obtain ⟨s, rfl, hs⟩ := hselectors.of_mem hnone he htype
  exact ⟨s, hs, hfound ▸ mustBeFresh_of_answerOrigin rfl⟩

theorem InterestFields.mustBeFresh_iff {name : Name} {es rest : List Element} {i : Interest}
    (h : InterestFields name es i rest) (htail : IsTail rest) : i.mustBeFresh = true
      ↔ ∃ selectors ∈ es, selectors.type = ElementType.selectors
        ∧ ∃ inner, HoldsElements selectors inner ∧ HasType ElementType.mustBeFresh inner := by
  constructor
  · intro hdemand
    obtain ⟨hselectors, -, -, -, -, -, hfound⟩ := h
    next found _ _ _ _ _ s =>
    replace hdemand : s.mustBeFresh = true := (mustBeFresh_of_answerOrigin rfl).symm.trans hdemand
    cases found with
    | none =>
      rw [hfound] at hdemand
      cases hdemand
    | some s' =>
      cases hfound
      obtain ⟨e, he, htype, inner, rest, hvalue, hfields, hrest⟩ := hselectors.exists_mem
      exact ⟨e, he, htype, inner, hvalue, (hfields.mustBeFresh_iff hrest).1 hdemand⟩
  · rintro ⟨e, he, htype, inner, hvalue, hfresh⟩
    obtain ⟨s, ⟨inner', rest', hvalue', hfields, hrest⟩, heq⟩ := h.exists_selectors htail he htype
    cases Element.concat_injective (hvalue.symm.trans hvalue')
    exact heq.trans ((hfields.mustBeFresh_iff hrest).2 hfresh)

theorem InterestPacket.mustBeFresh_iff {blob : SignedBlob} {i : Interest}
    (h : InterestPacket blob i) : i.mustBeFresh = true ↔ DemandsFresh blob.bytes := by
  obtain ⟨-, hbytes, hvalue, hname, -, hfields, htail, -⟩ := h
  next e name components fields rest =>
  rw [hfields.mustBeFresh_iff htail]
  constructor
  · rintro ⟨selectors, hmem, hselectors, inner, hinner, hfresh⟩
    exact ⟨e, selectors, _, inner, hbytes, hvalue, List.mem_cons_of_mem name hmem, hselectors, hinner,
      hfresh⟩
  · rintro ⟨e', selectors, es, inner, hbytes', hvalue', hmem, hselectors, hinner, hfresh⟩
    -- bytes are one element only, and its value is cut into elements in one way
    obtain rfl := Element.bytes_injective (hbytes.symm.trans hbytes')
    cases Element.concat_injective (hvalue.symm.trans hvalue')
    rcases List.mem_cons.1 hmem with rfl | hmem
    · rw [hname] at hselectors
      cases hselectors
    · exact ⟨selectors, hmem, hselectors, inner, hinner, hfresh⟩

/-- The inputs within the size limit that are decoded to an Interest are those that start with a
packet of the grammar, which tells the fields and the signed range. The answers must be fresh if and
only if the selectors of the packet hold the demand for it. -/
theorem decodeInterest_iff_packet (config : PacketConfig) (input : Bytes)
    (hsize : input.length ≤ config.maxPacketSize.toNat) (i : Interest) (blob : SignedBlob) :
    ((WireFormat.tlv config).decodeInterest input = .ok (i, blob)
        ↔ InterestPacket blob i ∧ ∃ rest, input = blob.bytes ++ rest)
      ∧ ((WireFormat.tlv config).decodeInterest input = .ok (i, blob) →
        (i.mustBeFresh = true ↔ DemandsFresh blob.bytes)) := by
  have hlt : input.length < UInt64.size := Nat.lt_of_le_of_lt hsize config.maxPacketSize.toNat_lt
  have hiff : (WireFormat.tlv config).decodeInterest input = .ok (i, blob)
      ↔ InterestPacket blob i ∧ ∃ rest, input = blob.bytes ++ rest := by
    show withinSize config decodeInterest input = _ ↔ _
    rw [withinSize_of_le hsize, decodeInterest_eq_ok_iff hlt]
  exact ⟨hiff, fun h => (hiff.1 h).1.mustBeFresh_iff⟩

/-- The bytes of a request for `/a`. The type of the packet and the length of the name are in wide
forms, and unknown elements follow the selectors and the lifetime. -/
def foreignInterestBlob : SignedBlob where
  bytes := [0xfd, 0x00, 0x05, 0x1e, 0x07, 0xfd, 0x00, 0x03, 0x08, 0x01, 0x61, 0x09, 0x07, 0x0d, 0x01,
    0x02, 0x12, 0x00, 0x80, 0x00, 0x0a, 0x04, 0x01, 0x02, 0x03, 0x04, 0x0c, 0x02, 0x03, 0xe8, 0x82, 0x02,
    0xff, 0xff]
  signedBegin := 8
  signedEnd := 8

def foreignInterest : Interest where
  name := ⟨[.generic [0x61]]⟩
  nonce := [1, 2, 3, 4]
  minSuffixComponents := some 2
  lifetime := some ⟨1000000000⟩

/-- What comes after the packet, even the start of another, does not matter. -/
theorem decodeInterest_iff_packet_foreign :
    InterestPacket foreignInterestBlob foreignInterest ∧ DemandsFresh foreignInterestBlob.bytes := by
  have hdecode : (WireFormat.tlv {}).decodeInterest (foreignInterestBlob.bytes ++ [0x05, 0xff])
      = .ok (foreignInterest, foreignInterestBlob) := eq_ok_of_toOption (by decide +kernel)
  obtain ⟨hiff, hfresh⟩ := decodeInterest_iff_packet {} (foreignInterestBlob.bytes ++ [0x05, 0xff])
    (by decide) foreignInterest foreignInterestBlob
  exact ⟨(hiff.1 hdecode).1, (hfresh hdecode).1 rfl⟩

end Wire

end NamedData
