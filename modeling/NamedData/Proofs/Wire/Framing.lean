import Mathlib.Data.List.Forall2
import NamedData.Proofs.Wire.Recoding

/-!
# Framing

An element shows by its header where it ends, so no element is the start of a longer one. Readers see
the whole of an input, but they look at nothing behind the element that they take. Hence what comes
after a packet does not change what is decoded from it, and nothing is decoded from less than a packet
(`Frames`). Delegations have no element around them, and two lists of them that are written one after
the other are one list.
-/

namespace NamedData.Wire

open Element (concat)
open Reader (AcceptsElement)

variable {α : Type}

/-- An element that is the start of another one is all of it. -/
theorem Element.eq_of_isPrefix {e e' : Element} (h : e.bytes <+: e'.bytes) : e = e' := by
  obtain ⟨after, heq⟩ := h
  exact (unique (heq.trans (List.append_nil _).symm)).1

/-- From the bytes of the element `e` the value `a` is decoded, whatever follows them, and from less
than these bytes nothing. -/
structure FramedBy (config : PacketConfig) (decode : Bytes → Except DecodingError α) (e : Element)
    (a : α) : Prop where
  ok_of_append : ∀ after, (e.bytes ++ after).length ≤ config.maxPacketSize.toNat →
    decode (e.bytes ++ after) = .ok a
  error_of_cut : ∀ cut, cut <+: e.bytes → cut ≠ e.bytes → ∃ fault, decode cut = .error fault

/-- Whatever is decoded comes from an element of the given type that the input starts with and that is
the part which is taken. -/
def Frames (config : PacketConfig) (type : UInt64) (decode : Bytes → Except DecodingError α)
    (taken : Bytes → Bytes) : Prop :=
  ∀ input a, decode input = .ok a → ∃ e rest, e.type = type ∧ input = e.bytes ++ rest
    ∧ taken input = e.bytes ∧ FramedBy config decode e a

/-! ## Inputs that start with an element -/

/-- The value of an input is that of the element which it starts with. -/
structure DecodesElement (decode : Bytes → Except DecodingError α) (taken : Bytes → Bytes)
    (P : Element → α → Prop) : Prop where
  iff : ∀ input a, input.length < UInt64.size →
    (decode input = .ok a ↔ ∃ e rest, input = Element.bytes e ++ rest ∧ P e a)
  taken_eq : ∀ e a rest, (e.bytes ++ rest).length < UInt64.size → P e a →
    taken (e.bytes ++ rest) = e.bytes

/-- Readers of one element take that element. -/
theorem Reader.AcceptsElement.taken_append {r : Reader α} {P : Nat → Element → α → Prop}
    (h : AcceptsElement r P) {e : Element} {a : α} {rest : Bytes}
    (hsize : (e.bytes ++ rest).length < UInt64.size) (hP : P 0 e a) :
    r.taken (e.bytes ++ rest) = e.bytes := by
  have hrun : r.run (e.bytes ++ rest) = .ok (a, ⟨e.bytes.length, rest⟩) :=
    (h.run_eq_ok_iff hsize).2 ⟨e, hP, rfl, rfl⟩
  rw [Reader.taken, hrun]
  exact List.take_left

theorem decodesElement_value {r : Reader α} {P : Nat → Element → α → Prop} (h : AcceptsElement r P) :
    DecodesElement r.value r.taken (P 0) where
  iff _ _ hsize := h.value_eq_ok_iff hsize
  taken_eq _ _ _ := h.taken_append

/-- A packet comes with its bytes, which are those of the element. -/
theorem decodesElement_packet {r : Reader (α × Nat × Nat)} {P : Nat → Element → α × Nat × Nat → Prop}
    (h : AcceptsElement r P) :
    DecodesElement (fun input => do
      let ((a, signedBegin, signedEnd), c) ← r.run input
      return (a, (⟨input.take c.offset, signedBegin, signedEnd⟩ : SignedBlob))) r.taken
      fun e p => P 0 e (p.1, p.2.signedBegin, p.2.signedEnd) ∧ p.2.bytes = e.bytes where
  iff input p hsize := by
    obtain ⟨a, blob⟩ := p
    refine (run_packet_eq_ok_iff h hsize).trans ?_
    constructor
    · rintro ⟨e, hP, hbytes, rest, hinput⟩
      exact ⟨e, rest, hbytes ▸ hinput, hP, hbytes⟩
    · rintro ⟨e, rest, hinput, hP, hbytes⟩
      exact ⟨e, hP, hbytes, rest, hbytes ▸ hinput⟩
  taken_eq _ _ _ hsize hP := h.taken_append hsize hP.1

theorem DecodesElement.frames {decode : Bytes → Except DecodingError α} {taken : Bytes → Bytes}
    {P : Element → α → Prop} (h : DecodesElement decode taken P) {type : UInt64}
    (htype : ∀ e a, P e a → e.type = type) (config : PacketConfig) :
    Frames config type (withinSize config decode) taken := by
  have hlt {input : Bytes} (hmax : input.length ≤ config.maxPacketSize.toNat) :
      input.length < UInt64.size := Nat.lt_of_le_of_lt hmax config.maxPacketSize.toNat_lt
  intro input a hdecode
  obtain ⟨hmax, hread⟩ := withinSize_eq_ok_iff.1 hdecode
  obtain ⟨e, rest, rfl, hP⟩ := (h.iff input a (hlt hmax)).1 hread
  refine ⟨e, rest, htype e a hP, rfl, h.taken_eq e a rest (hlt hmax) hP, fun after hafter => ?_,
    fun cut hcut hne => ?_⟩
  · exact withinSize_eq_ok_iff.2 ⟨hafter, (h.iff _ a (hlt hafter)).2 ⟨e, after, rfl, hP⟩⟩
  · -- a value of the cut would come from an element in it, which then is the whole element
    cases hresult : withinSize config decode cut with
    | error fault => exact ⟨fault, rfl⟩
    | ok a' =>
      obtain ⟨hmax', hread'⟩ := withinSize_eq_ok_iff.1 hresult
      obtain ⟨e', rest', heq, -⟩ := (h.iff cut a' (hlt hmax')).1 hread'
      have hstart : e'.bytes <+: cut := ⟨rest', heq.symm⟩
      obtain rfl := Element.eq_of_isPrefix (hstart.trans hcut)
      exact absurd (hcut.eq_of_length_le hstart.length_le) hne

/-- A packet's bytes are the part of the input that is taken for it. -/
theorem bytes_eq_taken {decode : Bytes → Except DecodingError (α × SignedBlob)}
    {taken : Bytes → Bytes} {P : Element → α × SignedBlob → Prop} (h : DecodesElement decode taken P)
    (hbytes : ∀ e p, P e p → p.2.bytes = e.bytes) {config : PacketConfig} {input : Bytes} {a : α}
    {blob : SignedBlob} (hdecode : withinSize config decode input = .ok (a, blob)) :
    blob.bytes = taken input := by
  obtain ⟨hmax, hread⟩ := withinSize_eq_ok_iff.1 hdecode
  have hsize := Nat.lt_of_le_of_lt hmax config.maxPacketSize.toNat_lt
  obtain ⟨e, rest, rfl, hP⟩ := (h.iff input (a, blob) hsize).1 hread
  rw [h.taken_eq e _ rest hsize hP, hbytes e _ hP]

/-! ## Lists of delegations -/

/-- In a row of items that do not depend on where they stand each element is told by itself. -/
theorem Row.iff_forall₂ {P : Element → α → Prop} {offset : Nat} {es : List Element} {as : List α} :
    Row (fun _ => P) offset es as ↔ List.Forall₂ P es as := by
  constructor
  · intro h
    induction h with
    | nil => exact .nil
    | cons hfirst _ ih => exact .cons hfirst ih
  · intro h
    induction h generalizing offset with
    | nil => exact .nil
    | cons hfirst _ ih => exact .cons hfirst ih

/-- Delegations are decoded from an input that is a row of them. -/
theorem decodeDelegations_eq_ok_iff {input : Bytes} (hsize : input.length < UInt64.size)
    {set : DelegationSet} : decodeDelegations input = .ok set
      ↔ ∃ es, input = concat es ∧ List.Forall₂ IsDelegation es set.entries := by
  have hmap : decodeDelegations input = .ok set
      ↔ (Reader.many Reader.delegation).value input = .ok set.entries := by
    rw [decodeDelegations]
    cases (Reader.many Reader.delegation).value input with
    | error fault => exact iff_of_false (by rintro ⟨⟩) (by rintro ⟨⟩)
    | ok entries =>
      constructor
      · rintro ⟨⟩
        rfl
      · rintro ⟨⟩
        rfl
  rw [hmap, Reader.value_eq_ok_iff]
  simp only [Reader.run_many_delegation_eq_ok_iff hsize, Row.iff_forall₂, exists_and_left, exists_eq,
    and_true]

theorem decodeDelegations_append {input₁ input₂ : Bytes} {set₁ set₂ : DelegationSet}
    (hsize : (input₁ ++ input₂).length < UInt64.size) (h₁ : decodeDelegations input₁ = .ok set₁)
    (h₂ : decodeDelegations input₂ = .ok set₂) :
    decodeDelegations (input₁ ++ input₂) = .ok ⟨set₁.entries ++ set₂.entries⟩ := by
  have hlength := @List.length_append _ input₁ input₂
  obtain ⟨es₁, rfl, hrow₁⟩ := (decodeDelegations_eq_ok_iff (by omega)).1 h₁
  obtain ⟨es₂, rfl, hrow₂⟩ := (decodeDelegations_eq_ok_iff (by omega)).1 h₂
  exact (decodeDelegations_eq_ok_iff hsize).2
    ⟨es₁ ++ es₂, (Element.concat_append es₁ es₂).symm, List.rel_append hrow₁ hrow₂⟩

/-! ## All formats -/

section Formats

variable (config : PacketConfig)

theorem frames_decodeInterest : Frames config ElementType.interest
    (WireFormat.tlv config).decodeInterest Reader.interest.taken := by
  refine (decodesElement_packet AcceptsElement.interest).frames (fun e p h => ?_) config
  obtain ⟨⟨-, -, -, -, htype, -⟩, -⟩ := h
  exact htype

theorem frames_decodeData : Frames config ElementType.data
    (WireFormat.tlv config).decodeData Reader.data.taken := by
  refine (decodesElement_packet AcceptsElement.data).frames (fun e p h => ?_) config
  obtain ⟨⟨-, -, -, htype, -⟩, -⟩ := h
  exact htype

theorem frames_decodeNack : Frames config ElementType.networkNack
    (WireFormat.tlv config).decodeNack Reader.nack.taken :=
  (decodesElement_value .nack).frames (fun _ _ h => h.1) config

theorem frames_decodeParameters : Frames config ElementType.controlParameters
    (WireFormat.tlv config).decodeParameters Reader.parameters.taken :=
  (decodesElement_value .parameters).frames (fun _ _ h => h.1) config

theorem frames_decodeResponse : Frames config ElementType.controlResponse
    (WireFormat.tlv config).decodeResponse Reader.response.taken :=
  (decodesElement_value .response).frames (fun _ _ h => h.1) config

end Formats

/-- Whatever is decoded, in any of the formats with an outer element, is decoded from this element with
anything behind it, and nothing from a part of the element. The bytes that a packet is given with are
the element. Lists of delegations are decoded piece by piece. -/
theorem decoders_frame (config : PacketConfig) :
    Frames config ElementType.name (WireFormat.tlv config).decodeName Reader.name.taken
      ∧ Frames config ElementType.interest (WireFormat.tlv config).decodeInterest
        Reader.interest.taken
      ∧ (∀ input i blob, (WireFormat.tlv config).decodeInterest input = .ok (i, blob) →
        blob.bytes = Reader.interest.taken input)
      ∧ Frames config ElementType.data (WireFormat.tlv config).decodeData Reader.data.taken
      ∧ (∀ input d blob, (WireFormat.tlv config).decodeData input = .ok (d, blob) →
        blob.bytes = Reader.data.taken input)
      ∧ Frames config ElementType.networkNack (WireFormat.tlv config).decodeNack Reader.nack.taken
      ∧ Frames config ElementType.controlParameters (WireFormat.tlv config).decodeParameters
        Reader.parameters.taken
      ∧ Frames config ElementType.controlResponse (WireFormat.tlv config).decodeResponse
        Reader.response.taken
      ∧ ∀ input₁ input₂ set₁ set₂, (input₁ ++ input₂).length ≤ config.maxPacketSize.toNat →
        (WireFormat.tlv config).decodeDelegations input₁ = .ok set₁ →
        (WireFormat.tlv config).decodeDelegations input₂ = .ok set₂ →
        (WireFormat.tlv config).decodeDelegations (input₁ ++ input₂)
          = .ok ⟨set₁.entries ++ set₂.entries⟩ := by
  have hinterest := decodesElement_packet AcceptsElement.interest
  have hdata := decodesElement_packet AcceptsElement.data
  refine ⟨?_, ?_, ?_, ?_, ?_, ?_, ?_, ?_, ?_⟩
  · exact (decodesElement_value .name).frames (fun _ _ h => h.1) config
  · exact frames_decodeInterest config
  · intro input i blob hdecode
    exact bytes_eq_taken hinterest (fun _ _ h => h.2) hdecode
  · exact frames_decodeData config
  · intro input d blob hdecode
    exact bytes_eq_taken hdata (fun _ _ h => h.2) hdecode
  · exact frames_decodeNack config
  · exact frames_decodeParameters config
  · exact frames_decodeResponse config
  · intro input₁ input₂ set₁ set₂ hmax hdecode₁ hdecode₂
    obtain ⟨-, hread₁⟩ := withinSize_eq_ok_iff.1 hdecode₁
    obtain ⟨-, hread₂⟩ := withinSize_eq_ok_iff.1 hdecode₂
    exact withinSize_eq_ok_iff.2 ⟨hmax, decodeDelegations_append
      (Nat.lt_of_le_of_lt hmax config.maxPacketSize.toNat_lt) hread₁ hread₂⟩

/-- The packet with unknown elements in it, with half a header after it, and cut off before its last
byte, which is the empty value of an element that would be skipped. -/
theorem decoders_frame_tailed :
    (WireFormat.tlv {}).decodeData (tailedDataBlob.bytes ++ [0x06, 0xfd])
        = .ok (tailedData, tailedDataBlob)
      ∧ ∃ fault, (WireFormat.tlv {}).decodeData tailedDataBlob.bytes.dropLast = .error fault := by
  have hdecode : (WireFormat.tlv {}).decodeData tailedDataBlob.bytes
      = .ok (tailedData, tailedDataBlob) := eq_ok_of_toOption (by decide +kernel)
  obtain ⟨-, -, -, hframes, hbytes, -⟩ := decoders_frame {}
  obtain ⟨e, -, -, -, htaken, hframed⟩ := hframes _ _ hdecode
  have he : e.bytes = tailedDataBlob.bytes := htaken.symm.trans (hbytes _ _ _ hdecode).symm
  constructor
  · rw [← he]
    exact hframed.ok_of_append _ (he ▸ by decide)
  · rw [← he]
    exact hframed.error_of_cut _ (List.dropLast_prefix _) (he ▸ by decide)

end NamedData.Wire
