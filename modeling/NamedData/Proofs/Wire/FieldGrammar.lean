import NamedData.Proofs.Wire.Grammar
import NamedData.Proofs.Wire.Integer
import NamedData.Wire.KeyLocator
import NamedData.Wire.SignedBlob

/-!
# Grammars of fields

Numbers, names and key locators, which all packets are made of: the elements that the readers of
these fields accept, and the values that they give for them. A packet is the element that an input
starts with (`run_packet_eq_ok_iff`), and has a signed part (`SignedBlob.Signs`).
-/

namespace NamedData.Wire

open Element (concat)

/-! ## Values of elements -/

namespace Element

/-- An element as a component of a name. -/
def component (e : Element) : Component :=
  ⟨.ofCode e.type, e.value⟩

theorem length_value_le (e : Element) : e.value.length ≤ e.bytes.length := by
  obtain ⟨head, -, -, heq⟩ := e.isElement
  rw [heq, List.length_append]
  exact Nat.le_add_left _ _

end Element

/-- One element, which is a component. -/
def ComponentField : Grammar Component :=
  fun es c rest => ∃ e, es = e :: rest ∧ c = e.component

/-- An element with a name in it: one element a component. -/
def HoldsName (e : Element) (n : Name) : Prop :=
  ∃ components, HoldsElements e components ∧ n = ⟨components.map Element.component⟩

/-- The fields of a key locator: a name, else a digest, else nothing. -/
inductive KeyLocatorFields : Grammar KeyLocator where
  | name {es rest : List Element} {n : Name} (h : Required ElementType.name HoldsName es n rest) :
      KeyLocatorFields es (.name n .unspecified) rest
  | digest {es rest : List Element} {bytes : Bytes}
      (h : Required ElementType.keyLocatorDigest HoldsBytes es bytes rest) :
      KeyLocatorFields es (.digest bytes) rest
  | absent {es : List Element}
      (h : ∀ e ∈ es.head?, e.type ≠ ElementType.name ∧ e.type ≠ ElementType.keyLocatorDigest) :
      KeyLocatorFields es .absent es

namespace Reader

variable {α : Type} {stop : Nat} {type : UInt64}

namespace AcceptsElement

/-! ## Numbers -/

protected theorem integer (type : UInt64) :
    AcceptsElement (integer type) fun _ e n => e.type = type ∧ HoldsInteger e n := by
  refine ((AcceptsElement.blob type).bind_idle fun value => .lift (Integer.decode value)).congr ?_
  intro offset e n
  rw [HoldsInteger, ← Integer.decode_eq_ok_iff]
  constructor
  · rintro ⟨_, ⟨htype, rfl⟩, hn⟩
    exact ⟨htype, hn⟩
  · rintro ⟨htype, hn⟩
    exact ⟨_, ⟨htype, rfl⟩, hn⟩

/-- An element together with the bytes that hold it. -/
theorem verbatim (type : UInt64) : AcceptsElement (Reader.withBytes (Reader.blob type))
    fun _ e p => e.type = type ∧ p = (e.value, e.bytes) := by
  refine (AcceptsElement.blob type).withBytes.congr fun offset e p => ?_
  constructor
  · rintro ⟨⟨htype, hvalue⟩, hbytes⟩
    exact ⟨htype, Prod.ext hvalue hbytes⟩
  · rintro ⟨htype, rfl⟩
    exact ⟨⟨htype, rfl⟩, rfl⟩

/-! ## Names -/

protected theorem component : AcceptsElement component fun _ e c => c = e.component := by
  refine (AcceptsElement.any.bind_idle fun p => .pure (⟨.ofCode p.1, p.2⟩ : Component)).congr ?_
  intro offset e c
  constructor
  · rintro ⟨_, rfl, rfl⟩
    rfl
  · rintro rfl
    exact ⟨_, rfl, rfl⟩

protected theorem componentAt :
    AcceptsElement componentAt fun offset e p => p = (offset, e.component) where
  sound {stop c c' p} hread := by
    obtain ⟨start, c₁, hstart, hread⟩ := bind_eq_ok_iff.1 hread
    cases hstart
    obtain ⟨component, c₂, hcomponent, hpure⟩ := bind_eq_ok_iff.1 hread
    cases hpure
    obtain ⟨e, rfl, hmoves⟩ := AcceptsElement.component.sound hcomponent
    exact ⟨e, rfl, hmoves⟩
  complete {stop c c' e p} hp hmoves hstop hsize := by
    subst hp
    exact bind_eq_ok_iff.2 ⟨_, c, rfl, bind_eq_ok_iff.2
      ⟨_, c', AcceptsElement.component.complete rfl hmoves hstop hsize, rfl⟩⟩

/-- A name with the offsets of its value and of its last component. -/
protected theorem nameRange :
    AcceptsElement nameRange fun offset e p => e.type = ElementType.name ∧
      ∃ components start, HoldsElements e components ∧ start + e.value.length = offset + e.bytes.length
        ∧ p = (⟨components.map Element.component⟩, start,
          start + (concat components.dropLast).length) := by
  have hbody (stop : Nat) := (@Accepts.offset stop).bind fun start =>
    AcceptsElement.componentAt.many_placed.bind fun components =>
      .pure ((⟨components.map Prod.snd⟩ : Name), start,
        (components.getLast?.map Prod.fst).getD start)
  refine (nested hbody ElementType.name).congr fun offset e p => and_congr_right fun _ => ?_
  constructor
  · rintro ⟨_, rest, hvalue, ⟨start, es, ⟨hstart, rfl⟩, _, _, ⟨rfl, rfl⟩, rfl, rfl⟩, -⟩
    refine ⟨es, start, hvalue, hvalue ▸ hstart, ?_⟩
    rw [← hstart, Nat.add_sub_cancel, Reads.placed_snd, Reads.placed_last]
    rfl
  · rintro ⟨es, start, hvalue, hstart, rfl⟩
    rw [hvalue] at hstart
    refine ⟨es, [], hvalue, ⟨start, es, ⟨hstart, rfl⟩, _, [], ⟨rfl, rfl⟩, ?_, rfl⟩, nofun⟩
    rw [← hstart, Nat.add_sub_cancel, Reads.placed_snd, Reads.placed_last]
    rfl

protected theorem name :
    AcceptsElement name fun _ e n => e.type = ElementType.name ∧ HoldsName e n := by
  refine (AcceptsElement.nameRange.map Prod.fst).congr fun offset e n => ?_
  constructor
  · rintro ⟨_, ⟨htype, components, start, hvalue, -, rfl⟩, rfl⟩
    exact ⟨htype, components, hvalue, rfl⟩
  · rintro ⟨htype, components, hvalue, rfl⟩
    have hle := e.length_value_le
    exact ⟨_, ⟨htype, components, offset + e.bytes.length - e.value.length, hvalue, by omega, rfl⟩,
      rfl⟩

end AcceptsElement

/-! ## Key locators -/

/-- What follows the name in a key locator, or stands in its place. -/
private def AfterName : Option Name → Grammar KeyLocator
  | some n => fun es k rest => k = .name n .unspecified ∧ rest = es
  | none => fun es k rest => ∃ digest, Optional ElementType.keyLocatorDigest HoldsBytes es digest rest
      ∧ k = (digest.map KeyLocator.digest).getD .absent

protected theorem Accepts.keyLocatorValue : Accepts stop keyLocatorValue KeyLocatorFields := by
  refine (AcceptsElement.name.optional.bind (G := AfterName) fun found => ?_).congr ?_
  · cases found with
    | some n => exact .pure _
    | none =>
      refine (AcceptsElement.blob ElementType.keyLocatorDigest).optional.bind_idle fun digest => ?_
      cases digest with
      | some bytes => exact .pure _
      | none => exact .pure _
  · intro es k rest
    constructor
    · rintro ⟨_, _, hname | hnone, hrest⟩
      · obtain ⟨rfl, rfl⟩ := hrest
        exact .name ⟨_, rfl, ‹_›, ‹_›⟩
      · obtain ⟨_, hdigest | hnone', rfl⟩ := hrest
        · exact .digest ⟨_, rfl, ‹_›, ‹_›⟩
        · exact .absent fun e he => ⟨hnone e he, hnone' e he⟩
    · rintro (⟨e, rfl, htype, hname⟩ | ⟨e, rfl, htype, hbytes⟩ | habsent)
      · exact ⟨_, _, .some htype hname, rfl, rfl⟩
      · refine ⟨_, _, .none ?_, _, .some htype hbytes, rfl⟩
        rintro _ ⟨rfl⟩
        rw [htype]
        decide
      · exact ⟨_, _, .none fun e he => (habsent e he).1, _, .none fun e he => (habsent e he).2, rfl⟩

end Reader

/-! ## Packets -/

/-- Of the bytes a part is signed, and the other part follows it up to the end. -/
def SignedBlob.Signs (blob : SignedBlob) (signed after : Bytes) : Prop :=
  ∃ before : Bytes,
    blob = ⟨before ++ (signed ++ after), before.length, before.length + signed.length⟩

/-- A range is signed if its ends are where the signed part begins and ends. -/
theorem SignedBlob.signs_iff {blob : SignedBlob} {before signed after : Bytes}
    (h : blob.bytes = before ++ (signed ++ after)) : blob.Signs signed after
      ↔ blob.signedBegin + (signed ++ after).length = blob.bytes.length
        ∧ blob.signedEnd = blob.signedBegin + signed.length := by
  obtain ⟨bytes, first, last⟩ := blob
  dsimp only at h ⊢
  subst h
  simp only [SignedBlob.Signs, SignedBlob.mk.injEq]
  constructor
  · rintro ⟨before', hbytes, rfl, rfl⟩
    rw [List.append_cancel_right hbytes]
    exact ⟨List.length_append.symm, rfl⟩
  · rintro ⟨hfirst, rfl⟩
    rw [@List.length_append _ before] at hfirst
    cases Nat.add_right_cancel hfirst
    exact ⟨before, rfl, rfl, rfl⟩

/-- The whole of a packet is the element that the input starts with. -/
theorem run_packet_eq_ok_iff {α : Type} {r : Reader (α × Nat × Nat)}
    {P : Nat → Element → α × Nat × Nat → Prop} (h : r.AcceptsElement P) {input : Bytes}
    (hsize : input.length < UInt64.size) {a : α} {blob : SignedBlob} :
    (do
      let ((a, signedBegin, signedEnd), c) ← r.run input
      return (a, (⟨input.take c.offset, signedBegin, signedEnd⟩ : SignedBlob))) = .ok (a, blob)
      ↔ ∃ e, P 0 e (a, blob.signedBegin, blob.signedEnd) ∧ blob.bytes = e.bytes
        ∧ ∃ rest, input = blob.bytes ++ rest := by
  constructor
  · intro hdecode
    cases hrun : r.run input with
    | error e =>
      rw [hrun] at hdecode
      cases hdecode
    | ok p =>
      obtain ⟨⟨a', signedBegin, signedEnd⟩, c⟩ := p
      rw [hrun] at hdecode
      cases hdecode
      obtain ⟨e, hP, rfl, hoffset⟩ := (h.run_eq_ok_iff hsize).1 hrun
      have hbytes : (e.bytes ++ c.rest).take c.offset = e.bytes := by rw [hoffset, List.take_left]
      exact ⟨e, hP, hbytes, c.rest, by rw [hbytes]⟩
  · rintro ⟨e, hP, hbytes, rest, rfl⟩
    have hrun := (h.run_eq_ok_iff (c := ⟨e.bytes.length, rest⟩) hsize).2
      ⟨e, hP, by rw [hbytes], rfl⟩
    rw [hrun]
    show Except.ok (a, SignedBlob.mk ((blob.bytes ++ rest).take e.bytes.length) _ _) = _
    rw [← hbytes, List.take_left]

end NamedData.Wire
