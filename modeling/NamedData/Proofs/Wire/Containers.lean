import NamedData.Proofs.Wire.ControlGrammar
import NamedData.Proofs.Wire.InterestGrammar

/-!
# Containers of fields

A `Container` is a kind of element with fields in it. Its fields have an order, and each is looked for
where the field before it has ended and nowhere else. So the elements of a container fall into those
that are fields and the `trailing` ones, at which no field was found.

Two lists of elements are `Alike` if the same fields are found in both, one after the other, and what
is left may be skipped in the second if it may be skipped in the first. A field that is a container
itself may have been revised as long as it holds what it held. Lists stay alike where something is put
among the trailing elements, where a field is revised, and where the trailing elements are left out.
-/

namespace NamedData.Wire

open Element (concat)

variable {α : Type} {type : UInt64} {types : List UInt64}

/-! ## Types that are known -/

/-- The types that have a name, those of components among them. -/
def ElementType.named : List UInt64 :=
  [0x01, 0x08, interest, data, name, selectors, nonce, scope, interestLifetime, minSuffixComponents,
    maxSuffixComponents, publisherPublicKeyLocator, exclude, childSelector, mustBeFresh, any,
    selectedDelegation, metaInfo, content, signatureInfo, signatureValue, contentType, freshnessPeriod,
    finalBlockId, signatureType, keyLocator, keyLocatorDigest, validityPeriod, notBefore, notAfter,
    linkPreference, linkDelegation, networkNack, nackReason, controlResponse, statusCode, statusText,
    controlParameters, faceId, cost, strategy, flags, expirationPeriod, localControlFeature, origin,
    uri]

/-- A kind of element that has fields, and after them a tail that may be skipped. -/
inductive Container where
  | interest
  | selectors
  | data
  | metaInfo
  | keyLocator
  | signatureInfo
  | nack
  | parameters
  | response
  deriving DecidableEq, Repr

namespace Container

/-- The types of the fields, in the order in which they are read. -/
def fields : Container → List UInt64
  | interest => [ElementType.name, ElementType.selectors, ElementType.nonce, ElementType.scope,
      ElementType.interestLifetime, ElementType.data, ElementType.selectedDelegation]
  | selectors => [ElementType.minSuffixComponents, ElementType.maxSuffixComponents,
      ElementType.publisherPublicKeyLocator, ElementType.exclude, ElementType.childSelector,
      ElementType.mustBeFresh]
  | data => [ElementType.name, ElementType.metaInfo, ElementType.content, ElementType.signatureInfo,
      ElementType.signatureValue]
  | metaInfo => [ElementType.contentType, ElementType.freshnessPeriod, ElementType.finalBlockId]
  | keyLocator => [ElementType.name, ElementType.keyLocatorDigest]
  | signatureInfo => [ElementType.signatureType, ElementType.keyLocator, ElementType.validityPeriod]
  | nack => [ElementType.nackReason]
  | parameters => [ElementType.name, ElementType.faceId, ElementType.uri,
      ElementType.localControlFeature, ElementType.origin, ElementType.cost, ElementType.flags,
      ElementType.strategy, ElementType.expirationPeriod]
  | response => [ElementType.statusCode, ElementType.statusText, ElementType.controlParameters]

/-- The kind of container that a field of the given type is. -/
def child? (c : Container) (type : UInt64) : Option Container :=
  match c with
  | interest => if type = ElementType.selectors then some selectors else none
  | selectors => if type = ElementType.publisherPublicKeyLocator then some keyLocator else none
  | data =>
    if type = ElementType.metaInfo then some metaInfo
    else if type = ElementType.signatureInfo then some signatureInfo
    else none
  | signatureInfo => if type = ElementType.keyLocator then some keyLocator else none
  | response => if type = ElementType.controlParameters then some parameters else none
  | metaInfo | keyLocator | nack | parameters => none

/-- What a container holds. -/
def Value : Container → Type
  | interest => Interest
  | selectors => Selectors
  | data => Data
  | metaInfo => MetaInfo
  | keyLocator => KeyLocator
  | signatureInfo => Signature
  | nack => NetworkNack
  | parameters => ControlParameters
  | response => ControlResponse

/-- An element as a container that holds a value. -/
def Holds : (c : Container) → Element → c.Value → Prop
  | interest => fun e i => ∃ blob, InterestPacket blob i ∧ blob.bytes = e.bytes
  | selectors => Contains SelectorsFields
  | data => fun e d => ∃ blob, DataPacket blob d ∧ blob.bytes = e.bytes
  | metaInfo => Contains MetaInfoFields
  | keyLocator => Contains KeyLocatorFields
  | signatureInfo => fun e s => DescribesScheme e.bytes e s
  | nack => Contains NackFields
  | parameters => Contains ParametersFields
  | response => Contains ResponseFields

/-- The fields of the element are looked at. In the description of a scheme they are if it has a name. -/
def IsOpen (c : Container) (e : Element) : Prop :=
  c = signatureInfo → ∃ (number : Element) (rest : Bytes) (code : UInt64),
    e.value = number.bytes ++ rest ∧ HoldsInteger number code
      ∧ ∀ other, SignatureType.ofCode code ≠ .other other

theorem mem_named_of_mem_fields {c : Container} (h : type ∈ c.fields) : type ∈ ElementType.named := by
  have hall : c.fields.all ElementType.named.contains = true := by
    cases c <;> rfl
  exact List.contains_iff_mem.1 (List.all_eq_true.1 hall type h)

end Container

/-! ## Elements that are fields -/

section Members

variable {P : Element → α → Prop} {x : Element} {es rest : List Element}

theorem Required.mem_cases {a : α} (h : Required type P es a rest)
    (hx : x ∈ es) : (x.type = type ∧ P x a) ∨ x ∈ rest := by
  obtain ⟨e, rfl, htype, ha⟩ := h
  rcases List.mem_cons.1 hx with rfl | hx
  · exact .inl ⟨htype, ha⟩
  · exact .inr hx

theorem Optional.mem_cases {a : Option α} (h : Optional type P es a rest)
    (hx : x ∈ es) : (∃ b, a = Option.some b ∧ x.type = type ∧ P x b) ∨ x ∈ rest := by
  cases h with
  | some htype ha =>
    rcases List.mem_cons.1 hx with rfl | hx
    · exact .inl ⟨_, rfl, htype, ha⟩
    · exact .inr hx
  | none => exact .inr hx

theorem Required.mem_rest {a : α} (h : Required type P es a rest) (hx : x ∈ es) (hne : x.type ≠ type) :
    x ∈ rest :=
  (h.mem_cases hx).resolve_left fun h => hne h.1

theorem Optional.mem_rest {a : Option α} (h : Optional type P es a rest) (hx : x ∈ es)
    (hne : x.type ≠ type) : x ∈ rest :=
  (h.mem_cases hx).resolve_left fun ⟨_, _, htype, _⟩ => hne htype

end Members

/-! ## Trailing elements -/

/-- What is left of some elements when fields of the given types have been looked for in turn. -/
def trailing : List UInt64 → List Element → List Element
  | [], es => es
  | _ :: _, [] => []
  | type :: types, e :: es =>
    if e.type = type then trailing types es else trailing types (e :: es)

section Trailing

variable {e u : Element} {es rest : List Element}

theorem type_ne_of_mem_head? (h : e.type ≠ type) : ∀ x ∈ (e :: es).head?, x.type ≠ type := by
  rintro _ ⟨⟩
  exact h

theorem trailing_cons_of_eq (h : e.type = type) :
    trailing (type :: types) (e :: es) = trailing types es :=
  if_pos h

theorem trailing_of_ne (h : ∀ e ∈ es.head?, e.type ≠ type) :
    trailing (type :: types) es = trailing types es := by
  cases es with
  | nil => cases types <;> rfl
  | cons e es => exact if_neg (h e rfl)

theorem trailing_suffix (types : List UInt64) (es : List Element) : trailing types es <:+ es := by
  induction types generalizing es with
  | nil => exact List.suffix_refl es
  | cons type types ih =>
    cases es with
    | nil => exact List.suffix_refl _
    | cons e es =>
      rw [trailing]
      split
      · exact (ih es).trans (List.suffix_cons e es)
      · exact ih (e :: es)

/-- No field is found behind an element whose type is none of theirs. -/
theorem suffix_trailing (hnone : u.type ∉ types) (before after : List Element) :
    u :: after <:+ trailing types (before ++ u :: after) := by
  induction types generalizing before with
  | nil => exact List.suffix_append before _
  | cons type types ih =>
    rw [List.mem_cons, not_or] at hnone
    obtain ⟨hother, hnone⟩ := hnone
    cases before with
    | nil =>
      rw [List.nil_append, trailing_of_ne (type_ne_of_mem_head? hother)]
      exact ih hnone []
    | cons e before =>
      rw [List.cons_append, trailing]
      split
      · exact ih hnone before
      · exact ih hnone (e :: before)

theorem Required.trailing_eq {P : Element → α → Prop} {a : α} (h : Required type P es a rest) :
    trailing (type :: types) es = trailing types rest := by
  obtain ⟨e, rfl, htype, -⟩ := h
  exact trailing_cons_of_eq htype

theorem Optional.trailing_eq {P : Element → α → Prop} {a : Option α} (h : Optional type P es a rest) :
    trailing (type :: types) es = trailing types rest := by
  cases h with
  | some htype _ => exact trailing_cons_of_eq htype
  | none hother => exact trailing_of_ne hother

end Trailing

/-! ## What the grammars leave -/

theorem IsTail.trailing {es : List Element} (h : IsTail es) (types : List UInt64) :
    IsTail (trailing types es) :=
  fun e he => h e ((trailing_suffix types es).subset he)

section Leave

variable {es rest : List Element}

theorem SelectorsFields.rest_eq {s : Selectors} (h : SelectorsFields es s rest) :
    trailing Container.selectors.fields es = rest := by
  obtain ⟨hmin, hmax, hlocator, hexclude, hchild, hfresh⟩ := h
  rw [Container.fields, hmin.trailing_eq, hmax.trailing_eq, hlocator.trailing_eq, hexclude.trailing_eq,
    hchild.trailing_eq, hfresh.trailing_eq, trailing]

theorem InterestFields.rest_eq {name : Name} {i : Interest} (h : InterestFields name es i rest) :
    trailing (Container.interest.fields.drop 1) es = rest := by
  obtain ⟨hselectors, hnonce, hscope, hlifetime, hlink, hselected, -⟩ := h
  rw [Container.fields, List.drop_one, List.tail_cons, hselectors.trailing_eq, hnonce.trailing_eq,
    hscope.trailing_eq, hlifetime.trailing_eq, hlink.trailing_eq, hselected.trailing_eq, trailing]

theorem MetaInfoFields.rest_eq {m : MetaInfo} (h : MetaInfoFields es m rest) :
    trailing Container.metaInfo.fields es = rest := by
  obtain ⟨hcontentType, hfreshness, hfinal⟩ := h
  rw [Container.fields, hcontentType.trailing_eq, hfreshness.trailing_eq, hfinal.trailing_eq, trailing]

theorem DataFields.rest_eq {unsigned : List Element} {d : Data} (h : DataFields unsigned es d rest) :
    trailing Container.data.fields es = rest := by
  obtain ⟨hname, hmetaInfo, hcontent, ⟨hinfo, -⟩, rfl, hbytes⟩ := h
  rw [Container.fields, hname.trailing_eq, hmetaInfo.trailing_eq, hcontent.trailing_eq,
    trailing_cons_of_eq hinfo, trailing_cons_of_eq hbytes, trailing]

/-- Behind a name a digest is looked for here and not by the grammar, for which it is no tail either. -/
theorem KeyLocatorFields.isTail_trailing {k : KeyLocator} (h : KeyLocatorFields es k rest)
    (htail : IsTail rest) : IsTail (trailing Container.keyLocator.fields es) := by
  rw [Container.fields]
  cases h with
  | name hname =>
    rw [hname.trailing_eq]
    exact htail.trailing _
  | digest hdigest =>
    obtain ⟨e, rfl, htype, -⟩ := hdigest
    rw [trailing_of_ne (type_ne_of_mem_head? (by rw [htype]; decide)), trailing_cons_of_eq htype]
    exact htail.trailing []
  | absent => exact htail.trailing _

theorem NackFields.rest_eq {refusal : NetworkNack} (h : NackFields es refusal rest) :
    trailing Container.nack.fields es = rest := by
  obtain ⟨hreason⟩ := h
  rw [Container.fields, hreason.trailing_eq, trailing]

theorem ParametersFields.rest_eq {p : ControlParameters} (h : ParametersFields es p rest) :
    trailing Container.parameters.fields es = rest := by
  obtain ⟨hname, hfaceId, huri, hfeature, horigin, hcost, hflags, hstrategy, hexpiration⟩ := h
  rw [Container.fields, hname.trailing_eq, hfaceId.trailing_eq, huri.trailing_eq, hfeature.trailing_eq,
    horigin.trailing_eq, hcost.trailing_eq, hflags.trailing_eq, hstrategy.trailing_eq,
    hexpiration.trailing_eq, trailing]

theorem ResponseFields.rest_eq {r : ControlResponse} (h : ResponseFields es r rest) :
    trailing Container.response.fields es = rest := by
  obtain ⟨hcode, htext, hbody⟩ := h
  rw [Container.fields, hcode.trailing_eq, htext.trailing_eq, hbody.trailing_eq, trailing]

theorem HoldsInteger.unique {e : Element} {n n' : UInt64} (h : HoldsInteger e n)
    (h' : HoldsInteger e n') : n = n' :=
  UInt64.toNat_inj.1 (h.2.symm.trans h'.2)

/-- The description of a known scheme, element by element. -/
theorem DescribesScheme.exists_fields {e : Element} {info : Bytes} {s : Signature}
    (h : DescribesScheme info e s) (hopen : Container.signatureInfo.IsOpen e)
    (hvalue : HoldsElements e es) : ∃ number code fields, es = number :: fields
      ∧ number.type = ElementType.signatureType ∧ HoldsInteger number code
      ∧ (∀ other, SignatureType.ofCode code ≠ .other other)
      ∧ SchemeFields info (.ofCode code) (concat fields) s := by
  obtain ⟨-, hnumber, htype, hcode, hfields⟩ := h
  next number code after =>
  obtain ⟨number', after', code', hnumber', hcode', hknown⟩ := hopen rfl
  obtain ⟨rfl, rfl⟩ := Element.unique (hnumber'.symm.trans hnumber)
  cases hcode'.unique hcode
  obtain ⟨fields, rfl, rfl⟩ := Element.exists_cons_of_concat (hvalue.symm.trans hnumber)
  exact ⟨_, _, fields, rfl, htype, hcode, hknown, hfields⟩

theorem SchemeFields.isTail_trailing {info : Bytes} {scheme : SignatureType} {s : Signature}
    (h : SchemeFields info scheme (concat es) s) (hknown : ∀ code, scheme ≠ .other code) :
    IsTail (trailing (Container.signatureInfo.fields.drop 1) es) := by
  generalize hbytes : concat es = bytes at h
  rw [Container.fields, List.drop_one, List.tail_cons]
  cases h with
  | digestSha256 htail =>
    cases Element.concat_injective hbytes
    exact htail.trailing _
  | hmacWithSha256 hk =>
    obtain ⟨es', rest, rfl, ⟨found, hfound, -⟩, htail⟩ := hk
    cases Element.concat_injective hbytes
    rw [hfound.trailing_eq]
    exact htail.trailing _
  | sha256WithRsa hp | sha256WithEcdsa hp =>
    obtain ⟨es', rest, rfl, ⟨es₁, ⟨found, hfound, -⟩, bounds, hbounds, -⟩, htail⟩ := hp
    cases Element.concat_injective hbytes
    rw [hfound.trailing_eq, hbounds.trailing_eq]
    exact htail
  | @other code => exact absurd rfl (hknown code)

theorem InterestPacket.exists_fields {e : Element} {blob : SignedBlob} {i : Interest}
    (h : InterestPacket blob i) (hbytes : blob.bytes = e.bytes) (hvalue : HoldsElements e es) :
    e.type = ElementType.interest ∧ ∃ name components fields rest, es = name :: fields
      ∧ name.type = ElementType.name ∧ HoldsElements name components
      ∧ InterestFields ⟨components.map Element.component⟩ fields i rest ∧ IsTail rest := by
  obtain ⟨htype, hbytes', hparts, hname, hcomponents, hfields, htail, -⟩ := h
  next packet name components fields rest =>
  obtain rfl := Element.bytes_injective (hbytes.symm.trans hbytes')
  cases Element.concat_injective (hvalue.symm.trans hparts)
  exact ⟨htype, name, components, fields, rest, rfl, hname, hcomponents, hfields, htail⟩

theorem DataPacket.exists_fields {e : Element} {blob : SignedBlob} {d : Data}
    (h : DataPacket blob d) (hbytes : blob.bytes = e.bytes) (hvalue : HoldsElements e es) :
    e.type = ElementType.data ∧ ∃ unsigned rest, DataFields unsigned es d rest ∧ IsTail rest := by
  obtain ⟨htype, hbytes', hparts, hfields, htail, -⟩ := h
  next packet signed unsigned rest =>
  obtain rfl := Element.bytes_injective (hbytes.symm.trans hbytes')
  cases Element.concat_injective (hvalue.symm.trans hparts)
  exact ⟨htype, unsigned, rest, hfields, htail⟩

/-- What is left of a container that holds something may be skipped. -/
theorem Container.isTail_trailing {c : Container} {e : Element} {a : c.Value} (h : c.Holds e a)
    (hvalue : HoldsElements e es) (hopen : c.IsOpen e) : IsTail (trailing c.fields es) := by
  have hcontains {β : Type} {g : Grammar β} {b : β} (hb : Contains g e b)
      (hg : ∀ rest, g es b rest → IsTail rest → IsTail (trailing c.fields es)) :
      IsTail (trailing c.fields es) := by
    obtain ⟨_, rest, hes, hfields, htail⟩ := hb
    cases Element.concat_injective (hvalue.symm.trans hes)
    exact hg rest hfields htail
  cases c with
  | interest =>
    obtain ⟨blob, hpacket, hbytes⟩ := h
    obtain ⟨-, name, components, fields, rest, rfl, hname, -, hfields, htail⟩ :=
      hpacket.exists_fields hbytes hvalue
    rw [Container.fields, trailing_cons_of_eq hname]
    exact hfields.rest_eq ▸ htail
  | selectors => exact hcontains h fun _ hfields htail => hfields.rest_eq ▸ htail
  | data =>
    obtain ⟨blob, hpacket, hbytes⟩ := h
    obtain ⟨-, unsigned, rest, hfields, htail⟩ := hpacket.exists_fields hbytes hvalue
    exact hfields.rest_eq ▸ htail
  | metaInfo => exact hcontains h fun _ hfields htail => hfields.rest_eq ▸ htail
  | keyLocator => exact hcontains h fun _ hfields htail => hfields.isTail_trailing htail
  | signatureInfo =>
    obtain ⟨number, code, fields, rfl, hnumber, -, hknown, hfields⟩ := h.exists_fields hopen hvalue
    rw [Container.fields, trailing_cons_of_eq hnumber]
    exact hfields.isTail_trailing hknown
  | nack => exact hcontains h fun _ hfields htail => hfields.rest_eq ▸ htail
  | parameters => exact hcontains h fun _ hfields htail => hfields.rest_eq ▸ htail
  | response => exact hcontains h fun _ hfields htail => hfields.rest_eq ▸ htail

end Leave

/-! ## Decoding -/

/-- What is decoded from an input is what the element that it starts with holds as a container. -/
def Container.IsDecodedBy (c : Container) (type : UInt64) (config : PacketConfig)
    (Decodes : Bytes → c.Value → Prop) : Prop :=
  ∀ input a, Decodes input a ↔ input.length ≤ config.maxPacketSize.toNat
    ∧ ∃ e rest, input = Element.bytes e ++ rest ∧ e.type = type ∧ c.Holds e a

section Decoding

variable (config : PacketConfig)

theorem isDecodedBy_interest : Container.interest.IsDecodedBy ElementType.interest config
    fun input i => ∃ blob, (WireFormat.tlv config).decodeInterest input = .ok (i, blob) := by
  intro input i
  have hiff (blob : SignedBlob) := @withinSize_eq_ok_iff _ config decodeInterest input (i, blob)
  refine (exists_congr hiff).trans (exists_and_left.trans (and_congr_right fun hmax => ?_))
  have hsize := Nat.lt_of_le_of_lt hmax config.maxPacketSize.toNat_lt
  refine (exists_congr fun blob => decodeInterest_eq_ok_iff hsize).trans ?_
  constructor
  · rintro ⟨blob, hpacket, rest, hinput⟩
    obtain ⟨htype, hbytes, -⟩ := id hpacket
    exact ⟨_, rest, hbytes ▸ hinput, htype, blob, hpacket, hbytes⟩
  · rintro ⟨e, rest, hinput, -, blob, hpacket, hbytes⟩
    exact ⟨blob, hpacket, rest, hbytes ▸ hinput⟩

theorem isDecodedBy_data : Container.data.IsDecodedBy ElementType.data config
    fun input d => ∃ blob, (WireFormat.tlv config).decodeData input = .ok (d, blob) := by
  intro input d
  have hiff (blob : SignedBlob) := @withinSize_eq_ok_iff _ config decodeData input (d, blob)
  refine (exists_congr hiff).trans (exists_and_left.trans (and_congr_right fun hmax => ?_))
  have hsize := Nat.lt_of_le_of_lt hmax config.maxPacketSize.toNat_lt
  refine (exists_congr fun blob => decodeData_eq_ok_iff hsize).trans ?_
  constructor
  · rintro ⟨blob, hpacket, rest, hinput⟩
    obtain ⟨htype, hbytes, -⟩ := id hpacket
    exact ⟨_, rest, hbytes ▸ hinput, htype, blob, hpacket, hbytes⟩
  · rintro ⟨e, rest, hinput, -, blob, hpacket, hbytes⟩
    exact ⟨blob, hpacket, rest, hbytes ▸ hinput⟩

/-- A reader of one element within the size limit. -/
theorem isDecodedBy_value {c : Container} {type : UInt64} {r : Reader c.Value}
    (h : r.AcceptsElement fun _ e a => e.type = type ∧ c.Holds e a) :
    c.IsDecodedBy type config fun input a => withinSize config r.value input = .ok a := by
  intro input a
  refine withinSize_eq_ok_iff.trans (and_congr_right fun hmax => ?_)
  exact h.value_eq_ok_iff (Nat.lt_of_le_of_lt hmax config.maxPacketSize.toNat_lt)

theorem isDecodedBy_nack : Container.nack.IsDecodedBy ElementType.networkNack config
    fun input refusal => (WireFormat.tlv config).decodeNack input = .ok refusal :=
  isDecodedBy_value config .nack

theorem isDecodedBy_parameters : Container.parameters.IsDecodedBy ElementType.controlParameters config
    fun input p => (WireFormat.tlv config).decodeParameters input = .ok p :=
  isDecodedBy_value config .parameters

theorem isDecodedBy_response : Container.response.IsDecodedBy ElementType.controlResponse config
    fun input r => (WireFormat.tlv config).decodeResponse input = .ok r :=
  isDecodedBy_value config .response

end Decoding

/-! ## Lists with the same fields -/

/-- A field of a container stands in the place of another: it is the same, or a container itself that
holds all that the other held. -/
def Container.Revises (c : Container) (e e' : Element) : Prop :=
  e' = e ∨ ∃ child, c.child? e.type = some child ∧ e'.type = e.type
    ∧ ∀ a, child.Holds e a → child.Holds e' a

/-- The same fields of the given types are found in both lists, and the second has a tail if the first
has one. -/
inductive Container.Alike (c : Container) :
    List UInt64 → (es es' : List Element) → Prop where
  | tail {es es' : List Element} (h : IsTail es → IsTail es') : Alike c [] es es'
  | field {type : UInt64} {types : List UInt64} {e e' : Element} {es es' : List Element}
      (htype : e.type = type) (hfield : c.Revises e e') (hrest : Alike c types es es') :
      Alike c (type :: types) (e :: es) (e' :: es')
  | missing {type : UInt64} {types : List UInt64} {es es' : List Element}
      (h : ∀ e ∈ es.head?, e.type ≠ type) (h' : ∀ e ∈ es'.head?, e.type ≠ type)
      (hrest : Alike c types es es') : Alike c (type :: types) es es'

namespace Container

variable {c : Container} {e e' u : Element} {es es' before after kept : List Element}

namespace Revises

protected theorem refl (c : Container) (e : Element) : c.Revises e e :=
  .inl rfl

theorem type_eq (h : c.Revises e e') : e'.type = e.type := by
  rcases h with rfl | ⟨_, -, htype, -⟩
  · rfl
  · exact htype

/-- A field that is no container is the same. -/
theorem eq (h : c.Revises e e') (hleaf : c.child? e.type = none) : e' = e := by
  rcases h with rfl | ⟨_, hchild, -⟩
  · rfl
  · cases hleaf.symm.trans hchild

/-- A field that is a container holds the same. -/
theorem holds {child : Container} {a : child.Value} (h : c.Revises e e')
    (hchild : c.child? e.type = some child) (ha : child.Holds e a) : child.Holds e' a := by
  rcases h with rfl | ⟨_, hchild', -, hkeeps⟩
  · exact ha
  · cases hchild.symm.trans hchild'
    exact hkeeps a ha

end Revises

namespace Alike

protected theorem refl (c : Container) (types : List UInt64) (es : List Element) :
    c.Alike types es es := by
  induction types generalizing es with
  | nil => exact .tail id
  | cons type types ih =>
    cases es with
    | nil => exact .missing nofun nofun (ih [])
    | cons e es =>
      by_cases htype : e.type = type
      · exact .field htype (.refl c e) (ih es)
      · exact .missing (type_ne_of_mem_head? htype) (type_ne_of_mem_head? htype) (ih (e :: es))

/-- A tail stays one, also where some of its elements are of the types of fields. -/
theorem isTail (h : c.Alike types es es') (htail : IsTail es) : IsTail es' := by
  induction h with
  | tail h => exact h htail
  | field htype hfield hrest ih =>
    obtain ⟨hfirst, hothers⟩ := List.forall_mem_cons.1 htail
    exact List.forall_mem_cons.2 ⟨hfield.type_eq ▸ hfirst, ih hothers⟩
  | missing _ _ _ ih => exact ih htail

/-- An unknown element among the trailing ones is in the place of no field. -/
theorem insert (hnone : u.type ∉ types) (hskipped : ElementType.isCritical u.type = false)
    (hlate : after <:+ trailing types (before ++ after)) :
    c.Alike types (before ++ after) (before ++ u :: after) := by
  induction types generalizing before with
  | nil =>
    refine .tail fun htail e he => ?_
    simp only [List.mem_append, List.mem_cons] at he
    rcases he with he | rfl | he
    · exact htail e (List.mem_append_left _ he)
    · exact hskipped
    · exact htail e (List.mem_append_right _ he)
  | cons type types ih =>
    rw [List.mem_cons, not_or] at hnone
    obtain ⟨hother, hnone⟩ := hnone
    cases before with
    | nil =>
      -- a field at the head of what follows would not be left
      have hhead : ∀ e ∈ after.head?, e.type ≠ type := by
        intro e he htype
        cases after with
        | nil => cases he
        | cons e after =>
          cases he
          rw [List.nil_append, trailing_cons_of_eq htype] at hlate
          have hle := (hlate.trans (trailing_suffix types after)).length_le
          rw [List.length_cons] at hle
          omega
      rw [List.nil_append, trailing_of_ne hhead] at hlate
      exact .missing hhead (type_ne_of_mem_head? hother) (ih hnone hlate)
    | cons e before =>
      by_cases htype : e.type = type
      · rw [List.cons_append, trailing_cons_of_eq htype] at hlate
        exact .field htype (.refl c e) (ih hnone hlate)
      · rw [List.cons_append, trailing_of_ne (type_ne_of_mem_head? htype)] at hlate
        exact .missing (type_ne_of_mem_head? htype) (type_ne_of_mem_head? htype) (ih hnone hlate)

/-- An element may be revised wherever it stands. -/
theorem replace (hfield : c.Revises e e') :
    c.Alike types (before ++ e :: after) (before ++ e' :: after) := by
  induction types generalizing before with
  | nil =>
    refine .tail fun htail x hx => ?_
    simp only [List.mem_append, List.mem_cons] at hx
    rcases hx with hx | rfl | hx
    · exact htail x (List.mem_append_left _ hx)
    · rw [hfield.type_eq]
      exact htail e (List.mem_append_right _ List.mem_cons_self)
    · exact htail x (List.mem_append_right _ (List.mem_cons_of_mem e hx))
  | cons type types ih =>
    cases before with
    | nil =>
      by_cases htype : e.type = type
      · exact .field htype hfield (.refl c types after)
      · have htype' : e'.type ≠ type := hfield.type_eq ▸ htype
        exact .missing (type_ne_of_mem_head? htype) (type_ne_of_mem_head? htype') ih
    | cons x before =>
      by_cases htype : x.type = type
      · exact .field htype (.refl c x) ih
      · exact .missing (type_ne_of_mem_head? htype) (type_ne_of_mem_head? htype) ih

/-- The trailing elements may be left out. -/
theorem cut (h : es = kept ++ trailing types es) : c.Alike types es kept := by
  induction types generalizing es kept with
  | nil =>
    have hnil : kept = [] := List.self_eq_append_left.1 h
    rw [hnil]
    exact .tail fun _ => nofun
  | cons type types ih =>
    cases es with
    | nil =>
      obtain ⟨rfl, -⟩ := List.append_eq_nil_iff.1 h.symm
      exact .missing nofun nofun (.refl c types [])
    | cons e es =>
      by_cases htype : e.type = type
      · rw [trailing_cons_of_eq htype] at h
        have hle := (trailing_suffix types es).length_le
        cases kept with
        | nil =>
          have hlength := congrArg List.length h
          rw [List.nil_append, List.length_cons] at hlength
          omega
        | cons x kept =>
          obtain ⟨rfl, hrest⟩ := List.cons_eq_cons.1 h
          exact .field htype (.refl c e) (ih hrest)
      · rw [trailing_of_ne (type_ne_of_mem_head? htype)] at h
        refine .missing (type_ne_of_mem_head? htype) ?_ (ih h)
        cases kept with
        | nil => exact nofun
        | cons x kept =>
          obtain ⟨rfl, -⟩ := List.cons_eq_cons.1 h
          exact type_ne_of_mem_head? htype

/-- No field is found at an unknown element or behind it, whatever stands there. -/
theorem cutOff (hnone : u.type ∉ types) (hafter : IsTail (u :: after)) :
    c.Alike types (before ++ u :: after) before ∧ c.Alike types before (before ++ u :: after) := by
  induction types generalizing before with
  | nil =>
    refine ⟨.tail fun htail e he => htail e (List.mem_append_left _ he), .tail fun htail e he => ?_⟩
    exact (List.mem_append.1 he).elim (htail e) (hafter e)
  | cons type types ih =>
    rw [List.mem_cons, not_or] at hnone
    obtain ⟨hother, hnone⟩ := hnone
    cases before with
    | nil =>
      have hhead : ∀ e ∈ (u :: after).head?, e.type ≠ type := type_ne_of_mem_head? hother
      obtain ⟨hforth, hback⟩ := @ih [] hnone
      exact ⟨.missing hhead nofun hforth, .missing nofun hhead hback⟩
    | cons e before =>
      by_cases htype : e.type = type
      · obtain ⟨hforth, hback⟩ := @ih before hnone
        exact ⟨.field htype (.refl c e) hforth, .field htype (.refl c e) hback⟩
      · have hhead (es : List Element) : ∀ x ∈ (e :: es).head?, x.type ≠ type :=
          type_ne_of_mem_head? htype
        obtain ⟨hforth, hback⟩ := @ih (e :: before) hnone
        exact ⟨.missing (hhead _) (hhead _) hforth, .missing (hhead _) (hhead _) hback⟩

end Alike

end Container

end NamedData.Wire
