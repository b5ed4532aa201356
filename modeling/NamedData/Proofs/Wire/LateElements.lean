import NamedData.Proofs.Wire.Alike
import NamedData.Proofs.Wire.Acceptance

/-!
# Unknown elements in packets

An element of an unknown type that may be skipped is put into one of the containers that a packet is
made of, at any depth. Behind the last field of the container it changes nothing (`InsertedLate`). Before
a field it is not skipped, since the reader looks for each field in one place only and does not come back
to it. If an element of a critical type follows, the packet is unreadable (`Blocks`), and if only elements
follow that may be skipped, all of these are taken for trailing ones, so that the fields among them are
lost (`CutOff`).
-/

namespace NamedData.Wire

open Element (concat)

variable {c : Container} {u e e' : Element}

/-- A type without a name that may be skipped. -/
def ElementType.IsUnknown (type : UInt64) : Prop :=
  isCritical type = false ∧ type ∉ named

theorem ElementType.IsUnknown.not_mem_fields (h : ElementType.IsUnknown u.type) (c : Container) :
    u.type ∉ c.fields :=
  fun hmem => h.2 (Container.mem_named_of_mem_fields hmem)

/-! ## Behind the fields -/

/-- The element `e'` is the container `e` with the element `u` behind the last field of it, or of one of
the containers in it. The headers around `u` are those of an element with the new value. -/
inductive InsertedLate (u : Element) : Container → (e e' : Element) → Prop where
  | here {c : Container} {e e' : Element} {before after : List Element} (htype : e'.type = e.type)
      (hopen : c.IsOpen e) (hvalue : HoldsElements e (before ++ after))
      (hvalue' : HoldsElements e' (before ++ u :: after))
      (hlate : after <:+ trailing c.fields (before ++ after)) : InsertedLate u c e e'
  | inside {c child : Container} {e e' x x' : Element} {before after : List Element}
      (htype : e'.type = e.type) (hopen : c.IsOpen e) (hvalue : HoldsElements e (before ++ x :: after))
      (hvalue' : HoldsElements e' (before ++ x' :: after)) (hchild : c.child? x.type = some child)
      (hinside : InsertedLate u child x x') : InsertedLate u c e e'

/-- What a container holds does not depend on unknown elements behind its fields. -/
theorem InsertedLate.keeps (h : InsertedLate u c e e') (hu : ElementType.IsUnknown u.type) :
    e'.type = e.type ∧ ∀ a, c.Holds e a → c.Holds e' a := by
  induction h with
  | @here c e e' before after htype hopen hvalue hvalue' hlate =>
    refine ⟨htype, fun a ha => c.holds_of_alike ha hvalue hvalue' htype hopen ?_⟩
    exact .insert (hu.not_mem_fields c) hu.1 hlate
  | @inside c child e e' x x' before after htype hopen hvalue hvalue' hchild _ ih =>
    refine ⟨htype, fun a ha => c.holds_of_alike ha hvalue hvalue' htype hopen ?_⟩
    exact .replace (.inr ⟨child, hchild, ih⟩)

/-! ## Before fields that may be skipped -/

/-- The containers `e` and `e'` are the same up to the element `u` in the first of them, or in a container
in it, and there the second one ends. What stands behind `u` may be skipped. -/
inductive CutOff (u : Element) : Container → (e e' : Element) → Prop where
  | here {c : Container} {e e' : Element} {before after : List Element} (htype : e'.type = e.type)
      (hopen : c.IsOpen e) (hopen' : c.IsOpen e') (hvalue : HoldsElements e (before ++ u :: after))
      (hvalue' : HoldsElements e' before) (hafter : IsTail after) : CutOff u c e e'
  | inside {c child : Container} {e e' x x' : Element} {before after : List Element}
      (htype : e'.type = e.type) (hopen : c.IsOpen e) (hopen' : c.IsOpen e')
      (hvalue : HoldsElements e (before ++ x :: after))
      (hvalue' : HoldsElements e' (before ++ x' :: after)) (hchild : c.child? x.type = some child)
      (hinside : CutOff u child x x') : CutOff u c e e'

/-- A container holds what it would hold if it ended before an unknown element. -/
theorem CutOff.holds_iff (h : CutOff u c e e') (hu : ElementType.IsUnknown u.type) :
    e'.type = e.type ∧ ∀ a, c.Holds e a ↔ c.Holds e' a := by
  induction h with
  | @here c e e' before after htype hopen hopen' hvalue hvalue' hafter =>
    have htail : IsTail (u :: after) := List.forall_mem_cons.2 ⟨hu.1, hafter⟩
    obtain ⟨hforth, hback⟩ := Container.Alike.cutOff (c := c) (hu.not_mem_fields c) htail
    exact ⟨htype, fun a => ⟨fun ha => c.holds_of_alike ha hvalue hvalue' htype hopen hforth,
      fun ha => c.holds_of_alike ha hvalue' hvalue htype.symm hopen' hback⟩⟩
  | @inside c child e e' x x' before after htype hopen hopen' hvalue hvalue' hchild _ ih =>
    obtain ⟨htype', hiff⟩ := ih
    have hforth : c.Revises x x' := .inr ⟨child, hchild, htype', fun a => (hiff a).1⟩
    have hback : c.Revises x' x :=
      .inr ⟨child, htype' ▸ hchild, htype'.symm, fun a => (hiff a).2⟩
    exact ⟨htype, fun a => ⟨fun ha => c.holds_of_alike ha hvalue hvalue' htype hopen (.replace hforth),
      fun ha => c.holds_of_alike ha hvalue' hvalue htype.symm hopen' (.replace hback)⟩⟩

/-! ## Before an element that must be known -/

/-- In the container, or in one of those in it that must be known themselves, the element `u` stands
before an element of a critical type. -/
inductive Blocks (u : Element) : Container → Element → Prop where
  | here {c : Container} {e : Element} {before after : List Element} (hopen : c.IsOpen e)
      (hvalue : HoldsElements e (before ++ u :: after)) (hafter : ¬ IsTail after) : Blocks u c e
  | inside {c child : Container} {e x : Element} {es : List Element} (hopen : c.IsOpen e)
      (hvalue : HoldsElements e es) (hx : x ∈ es) (hchild : c.child? x.type = some child)
      (hcritical : ElementType.isCritical x.type = true) (hinside : Blocks u child x) : Blocks u c e

section Children

variable {x : Element} {es rest : List Element}

/-- Among the fields of selectors a key locator is read. -/
theorem SelectorsFields.exists_keyLocator {s : Selectors} (h : SelectorsFields es s rest)
    (htail : IsTail rest) (hx : x ∈ es) (htype : x.type = ElementType.publisherPublicKeyLocator) :
    ∃ k, Contains KeyLocatorFields x k := by
  have hnone : ¬ HasType ElementType.publisherPublicKeyLocator rest := htail.not_hasType rfl
  obtain ⟨hmin, hmax, hlocator, hexclude, hchild, hfresh⟩ := h
  rw [← hfresh.hasType_iff (by decide), ← hchild.hasType_iff (by decide),
    ← hexclude.hasType_iff (by decide)] at hnone
  have hmem := hmax.mem_rest (hmin.mem_rest hx (by rw [htype]; decide)) (by rw [htype]; decide)
  obtain ⟨k, -, hk⟩ := hlocator.of_mem hnone hmem htype
  exact ⟨k, hk⟩

/-- Among the fields of a Data packet the meta information is read. -/
theorem DataFields.exists_metaInfo {unsigned : List Element} {d : Data}
    (h : DataFields unsigned es d rest) (htail : IsTail rest) (hx : x ∈ es)
    (htype : x.type = ElementType.metaInfo) : ∃ m, Contains MetaInfoFields x m := by
  have hnone : ¬ HasType ElementType.metaInfo rest := htail.not_hasType rfl
  obtain ⟨hname, hmetaInfo, hcontent, ⟨hinfo, -⟩, rfl, hbytes⟩ := h
  rw [← hasType_cons_iff (by rw [hbytes]; decide), ← hasType_cons_iff (by rw [hinfo]; decide),
    ← hcontent.hasType_iff (by decide)] at hnone
  obtain ⟨m, -, hm⟩ := hmetaInfo.of_mem hnone (hname.mem_rest hx (by rw [htype]; decide)) htype
  exact ⟨m, hm⟩

/-- Among the fields of a Data packet the description of the scheme is read. -/
theorem DataFields.exists_scheme {unsigned : List Element} {d : Data}
    (h : DataFields unsigned es d rest) (htail : IsTail rest) (hx : x ∈ es)
    (htype : x.type = ElementType.signatureInfo) : ∃ s, DescribesScheme x.bytes x s := by
  obtain ⟨hname, hmetaInfo, hcontent, hscheme, rfl, hbytes⟩ := h
  have hmem := hcontent.mem_rest (hmetaInfo.mem_rest (hname.mem_rest hx (by rw [htype]; decide))
    (by rw [htype]; decide)) (by rw [htype]; decide)
  simp only [List.mem_cons] at hmem
  rcases hmem with rfl | rfl | hmem
  · exact ⟨_, hscheme⟩
  · exact absurd (htype.symm.trans hbytes) (by decide)
  · exact absurd ⟨x, hmem, htype⟩ (htail.not_hasType rfl)

/-- Among the fields of a known scheme a key locator is read. -/
theorem SchemeFields.exists_keyLocator {info : Bytes} {scheme : SignatureType} {s : Signature}
    (h : SchemeFields info scheme (concat es) s) (hknown : ∀ code, scheme ≠ .other code)
    (hx : x ∈ es) (htype : x.type = ElementType.keyLocator) : ∃ k, Contains KeyLocatorFields x k := by
  generalize hbytes : concat es = bytes at h
  cases h with
  | digestSha256 htail =>
    cases Element.concat_injective hbytes
    exact absurd ⟨x, hx, htype⟩ (htail.not_hasType rfl)
  | hmacWithSha256 hk =>
    obtain ⟨es', rest, rfl, ⟨found, hfound, -⟩, htail⟩ := hk
    cases Element.concat_injective hbytes
    obtain ⟨k, -, hk⟩ := hfound.of_mem (htail.not_hasType rfl) hx htype
    exact ⟨k, hk⟩
  | sha256WithRsa hp | sha256WithEcdsa hp =>
    obtain ⟨es', rest, rfl, ⟨es₁, ⟨found, hfound, -⟩, bounds, hbounds, -⟩, htail⟩ := hp
    cases Element.concat_injective hbytes
    have hnone : ¬ HasType ElementType.keyLocator rest := htail.not_hasType rfl
    rw [← hbounds.hasType_iff (by decide)] at hnone
    obtain ⟨k, -, hk⟩ := hfound.of_mem hnone hx htype
    exact ⟨k, hk⟩
  | @other code => exact absurd rfl (hknown code)

/-- A container of a critical type in one that holds something holds something itself. -/
theorem Container.Holds.exists_child {child : Container} {a : c.Value} (h : c.Holds e a)
    (hopen : c.IsOpen e) (hvalue : HoldsElements e es) (hx : x ∈ es)
    (hchild : c.child? x.type = some child) (hcritical : ElementType.isCritical x.type = true) :
    ∃ b, child.Holds x b := by
  cases c with
  | interest =>
    obtain ⟨blob, hpacket, hbytes⟩ := h
    obtain ⟨-, name, components, fields, rest, rfl, hname, -, hfields, htail⟩ :=
      hpacket.exists_fields hbytes hvalue
    simp only [child?, Option.ite_none_right_eq_some, Option.some.injEq] at hchild
    obtain ⟨htype, rfl⟩ := hchild
    rcases List.mem_cons.1 hx with rfl | hx
    · exact absurd (htype.symm.trans hname) (by decide)
    · obtain ⟨s, hs, -⟩ := hfields.exists_selectors htail hx htype
      exact ⟨s, hs⟩
  | selectors =>
    obtain ⟨_, rest, hes, hfields, htail⟩ := h
    cases Element.concat_injective (hvalue.symm.trans hes)
    simp only [child?, Option.ite_none_right_eq_some, Option.some.injEq] at hchild
    obtain ⟨htype, rfl⟩ := hchild
    exact hfields.exists_keyLocator htail hx htype
  | data =>
    obtain ⟨blob, hpacket, hbytes⟩ := h
    obtain ⟨-, unsigned, rest, hfields, htail⟩ := hpacket.exists_fields hbytes hvalue
    rw [child?] at hchild
    split at hchild
    · next htype =>
      cases hchild
      exact hfields.exists_metaInfo htail hx htype
    · simp only [Option.ite_none_right_eq_some, Option.some.injEq] at hchild
      obtain ⟨htype, rfl⟩ := hchild
      exact hfields.exists_scheme htail hx htype
  | signatureInfo =>
    obtain ⟨number, code, fields, rfl, hnumber, -, hknown, hfields⟩ :=
      DescribesScheme.exists_fields h hopen hvalue
    simp only [child?, Option.ite_none_right_eq_some, Option.some.injEq] at hchild
    obtain ⟨htype, rfl⟩ := hchild
    rcases List.mem_cons.1 hx with rfl | hx
    · exact absurd (htype.symm.trans hnumber) (by decide)
    · exact hfields.exists_keyLocator hknown hx htype
  | response =>
    simp only [child?, Option.ite_none_right_eq_some] at hchild
    rw [hchild.1] at hcritical
    cases hcritical
  | metaInfo | keyLocator | nack | parameters => cases hchild

end Children

/-- A container holds nothing if an unknown element stands before one that must be known. -/
theorem Blocks.not_holds (h : Blocks u c e) (hu : ElementType.IsUnknown u.type) (a : c.Value) :
    ¬ c.Holds e a := by
  induction h with
  | @here c e before after hopen hvalue hafter =>
    intro ha
    have hsuffix := suffix_trailing (hu.not_mem_fields c) before after
    refine hafter fun x hx => c.isTail_trailing ha hvalue hopen x ?_
    exact hsuffix.subset (List.mem_cons_of_mem u hx)
  | inside hopen hvalue hx hchild hcritical _ ih =>
    intro ha
    obtain ⟨b, hb⟩ := ha.exists_child hopen hvalue hx hchild hcritical
    exact ih b hb

/-! ## Decoding -/

/-- From a packet with the unknown element `u` behind the fields of a container the same is decoded as
from the packet without it, and from a packet with `u` before an element that must be known, nothing. Where
only elements that may be skipped follow `u`, the same is decoded as if the container ended before it. -/
structure Container.SkipsLate (c : Container) (config : PacketConfig) (u : Element)
    (Decodes : Bytes → c.Value → Prop) : Prop where
  late : ∀ e e' rest a, InsertedLate u c e e' →
    (Element.bytes e' ++ rest).length ≤ config.maxPacketSize.toNat →
      Decodes (Element.bytes e ++ rest) a → Decodes (Element.bytes e' ++ rest) a
  early : ∀ e rest a, Blocks u c e → ¬ Decodes (Element.bytes e ++ rest) a
  hidden : ∀ e e' rest a, CutOff u c e e' →
    (Element.bytes e ++ rest).length ≤ config.maxPacketSize.toNat →
      (Element.bytes e' ++ rest).length ≤ config.maxPacketSize.toNat →
        (Decodes (Element.bytes e ++ rest) a ↔ Decodes (Element.bytes e' ++ rest) a)

theorem Container.IsDecodedBy.skipsLate {type : UInt64} {config : PacketConfig}
    {Decodes : Bytes → c.Value → Prop} (h : c.IsDecodedBy type config Decodes)
    (hu : ElementType.IsUnknown u.type) : c.SkipsLate config u Decodes where
  late e e' rest a hinserted hsize hdecode := by
    obtain ⟨-, e₁, rest₁, hinput, htype, ha⟩ := (h _ a).1 hdecode
    obtain ⟨rfl, rfl⟩ := Element.unique hinput
    obtain ⟨htype', hkeeps⟩ := hinserted.keeps hu
    exact (h _ a).2 ⟨hsize, e', rest, rfl, htype'.trans htype, hkeeps a ha⟩
  early e rest a hblocks hdecode := by
    obtain ⟨-, e₁, rest₁, hinput, -, ha⟩ := (h _ a).1 hdecode
    obtain ⟨rfl, rfl⟩ := Element.unique hinput
    exact hblocks.not_holds hu a ha
  hidden e e' rest a hcut hsize hsize' := by
    obtain ⟨htype', hiff⟩ := hcut.holds_iff hu
    constructor
    · intro hdecode
      obtain ⟨-, e₁, rest₁, hinput, htype, ha⟩ := (h _ a).1 hdecode
      obtain ⟨rfl, rfl⟩ := Element.unique hinput
      exact (h _ a).2 ⟨hsize', e', rest, rfl, htype'.trans htype, (hiff a).1 ha⟩
    · intro hdecode
      obtain ⟨-, e₁, rest₁, hinput, htype, ha⟩ := (h _ a).1 hdecode
      obtain ⟨rfl, rfl⟩ := Element.unique hinput
      exact (h _ a).2 ⟨hsize, e, rest, rfl, htype'.symm.trans htype, (hiff a).2 ha⟩

/-- An element of an unknown type that may be skipped is skipped behind the last field of an Interest,
its selectors, a Data packet, its meta information, a key locator, the description of a known scheme, a
refusal, parameters or a response: what is decoded is the same with and without it. Where it stands
before an element of a critical type, nothing is decoded, and where only elements follow that may be
skipped, none of these is seen. -/
theorem unknown_elements_skipped_late (config : PacketConfig) (u : Element)
    (hu : ElementType.IsUnknown u.type) :
    Container.interest.SkipsLate config u
        (fun input i => ∃ blob, (WireFormat.tlv config).decodeInterest input = .ok (i, blob))
      ∧ Container.data.SkipsLate config u
        (fun input d => ∃ blob, (WireFormat.tlv config).decodeData input = .ok (d, blob))
      ∧ Container.nack.SkipsLate config u
        (fun input refusal => (WireFormat.tlv config).decodeNack input = .ok refusal)
      ∧ Container.parameters.SkipsLate config u
        (fun input p => (WireFormat.tlv config).decodeParameters input = .ok p)
      ∧ Container.response.SkipsLate config u
        (fun input r => (WireFormat.tlv config).decodeResponse input = .ok r) :=
  ⟨(isDecodedBy_interest config).skipsLate hu, (isDecodedBy_data config).skipsLate hu,
    (isDecodedBy_nack config).skipsLate hu, (isDecodedBy_parameters config).skipsLate hu,
    (isDecodedBy_response config).skipsLate hu⟩

/-! ## An Interest with an unknown element -/

/-- An element of an unknown type. -/
def unknownElement : Element :=
  .written 0x80 [] (by decide)

theorem isUnknown_unknownElement : ElementType.IsUnknown unknownElement.type :=
  ⟨rfl, by decide⟩

/-- The name `/a`. -/
def shortName : Element :=
  .written ElementType.name [0x08, 0x01, 0x61] (by decide)

/-- The demand for fresh answers. -/
def freshDemand : Element :=
  .written ElementType.mustBeFresh [] (by decide)

def fourNonce : Element :=
  .written ElementType.nonce [1, 2, 3, 4] (by decide)

/-- Selectors with the demand for fresh answers. -/
def freshSelectors : Element :=
  .written ElementType.selectors (concat [freshDemand]) (by decide)

/-- The same selectors with an unknown element behind the demand. -/
def laxSelectors : Element :=
  .written ElementType.selectors (concat [freshDemand, unknownElement]) (by decide)

/-- An Interest for fresh answers under the name `/a`. -/
def freshInterestElement : Element :=
  .written ElementType.interest (concat [shortName, freshSelectors, fourNonce]) (by decide)

/-- The same Interest with an unknown element in its selectors. -/
def laxInterestElement : Element :=
  .written ElementType.interest (concat [shortName, laxSelectors, fourNonce]) (by decide)

/-- The same Interest with an unknown element before its selectors. -/
def brokenInterestElement : Element :=
  .written ElementType.interest (concat [shortName, unknownElement, freshSelectors, fourNonce])
    (by decide)

def freshInterest : Interest where
  name := ⟨[.generic [0x61]]⟩
  nonce := [1, 2, 3, 4]

theorem decodeInterest_freshInterestElement :
    (WireFormat.tlv {}).decodeInterest freshInterestElement.bytes
      = .ok (freshInterest, ⟨freshInterestElement.bytes, 4, 4⟩) :=
  eq_ok_of_toOption (by decide +kernel)

/-- The number of a face. -/
def faceElement : Element :=
  .written ElementType.faceId [1] (by decide)

/-- A cost. -/
def fiveCost : Element :=
  .written ElementType.cost [5] (by decide)

/-- Parameters with a face and a cost. -/
def costlyElement : Element :=
  .written ElementType.controlParameters (concat [faceElement, fiveCost]) (by decide)

/-- The same parameters with an unknown element before the cost. -/
def hidingElement : Element :=
  .written ElementType.controlParameters (concat [faceElement, unknownElement, fiveCost]) (by decide)

/-- Parameters with a face alone. -/
def freeElement : Element :=
  .written ElementType.controlParameters (concat [faceElement]) (by decide)

theorem unknown_elements_skipped_late_selectors :
    (∃ blob, (WireFormat.tlv {}).decodeInterest laxInterestElement.bytes = .ok (freshInterest, blob))
      ∧ (¬ ∃ blob, (WireFormat.tlv {}).decodeInterest brokenInterestElement.bytes
        = .ok (freshInterest, blob))
      ∧ (WireFormat.tlv {}).decodeParameters hidingElement.bytes = .ok { faceId := some 1 } := by
  obtain ⟨⟨hlate, hearly, -⟩, -, -, ⟨-, -, hhidden⟩, -⟩ :=
    unknown_elements_skipped_late {} unknownElement isUnknown_unknownElement
  have hinside : InsertedLate unknownElement .selectors freshSelectors laxSelectors := by
    have hvalue : HoldsElements freshSelectors ([freshDemand] ++ []) := rfl
    have hvalue' : HoldsElements laxSelectors ([freshDemand] ++ [unknownElement]) := rfl
    exact .here rfl nofun hvalue hvalue' (List.suffix_refl _)
  have hinserted : InsertedLate unknownElement .interest freshInterestElement laxInterestElement := by
    have hvalue : HoldsElements freshInterestElement ([shortName] ++ [freshSelectors, fourNonce]) := rfl
    have hvalue' : HoldsElements laxInterestElement ([shortName] ++ [laxSelectors, fourNonce]) := rfl
    exact .inside rfl nofun hvalue hvalue' rfl hinside
  have hblocks : Blocks unknownElement .interest brokenInterestElement := by
    have hvalue : HoldsElements brokenInterestElement
        ([shortName] ++ unknownElement :: [freshSelectors, fourNonce]) := rfl
    exact .here nofun hvalue fun htail => absurd (htail freshSelectors List.mem_cons_self) (by decide)
  have hcut : CutOff unknownElement .parameters hidingElement freeElement := by
    have hvalue : HoldsElements hidingElement ([faceElement] ++ unknownElement :: [fiveCost]) := rfl
    have htail : IsTail [fiveCost] := by
      rintro _ (_ | ⟨_, ⟨⟩⟩)
      rfl
    exact .here rfl nofun nofun hvalue rfl htail
  refine ⟨?_, ?_, ?_⟩
  · have hlax := hlate freshInterestElement laxInterestElement [] freshInterest hinserted (by decide)
    rw [List.append_nil, List.append_nil] at hlax
    exact hlax ⟨_, decodeInterest_freshInterestElement⟩
  · have hbroken := hearly brokenInterestElement [] freshInterest hblocks
    rw [List.append_nil] at hbroken
    exact hbroken
  · have hface := hhidden hidingElement freeElement [] { faceId := some 1 } hcut (by decide) (by decide)
    rw [List.append_nil, List.append_nil] at hface
    exact hface.2 (eq_ok_of_toOption (by decide +kernel))

/-- Between the fields an unknown element is not skipped. The nonce of an Interest is looked for where the
element stands, and the cost of parameters is skipped with it. -/
theorem early_element_refused :
    ElementType.IsUnknown unknownElement.type
      ∧ HoldsElements freshInterestElement ([shortName] ++ [freshSelectors, fourNonce])
      ∧ (∃ blob, (WireFormat.tlv {}).decodeInterest freshInterestElement.bytes
        = .ok (freshInterest, blob))
      ∧ HoldsElements brokenInterestElement
        ([shortName] ++ unknownElement :: [freshSelectors, fourNonce])
      ∧ (WireFormat.tlv {}).decodeInterest brokenInterestElement.bytes
        = .error (.unexpectedType 0x0a 0x80 7)
      ∧ HoldsElements costlyElement ([faceElement] ++ [fiveCost])
      ∧ (WireFormat.tlv {}).decodeParameters costlyElement.bytes
        = .ok { faceId := some 1, cost := some 5 }
      ∧ HoldsElements hidingElement ([faceElement] ++ unknownElement :: [fiveCost])
      ∧ hidingElement.bytes = [0x68, 0x08, 0x69, 0x01, 0x01, 0x80, 0x00, 0x6a, 0x01, 0x05]
      ∧ (WireFormat.tlv {}).decodeParameters hidingElement.bytes = .ok { faceId := some 1 } :=
  ⟨isUnknown_unknownElement, rfl, ⟨_, decodeInterest_freshInterestElement⟩, rfl, rfl, rfl,
    eq_ok_of_toOption (by decide +kernel), rfl, rfl, eq_ok_of_toOption (by decide +kernel)⟩

end NamedData.Wire
