import NamedData.Proofs.Wire.Shortest

/-!
# What was decoded is encoded and decoded again

Readers take more than writers write: numbers in all forms, tails of unknown elements, containers
without a field in them. What they give is in normal form and can be written; it takes no more bytes
than it came in, so that the size limit admits it, and it is read back from these as it is. Hence an
encoding of something decoded is decoded to the same value and encoded to the same bytes from then on.
-/

namespace NamedData.Wire

open Reader (Reads AcceptsElement)

/-- The part of an input that a reader takes, nothing if it fails. -/
def Reader.taken {α : Type} (r : Reader α) (input : Bytes) : Bytes :=
  match r.run input with
  | .ok (_, c) => input.take c.offset
  | .error _ => []

/-- Whatever is decoded is encoded in no more bytes than the part of the input that was taken for it,
and decoded from these as it is. -/
def Recodes {α : Type} (encode : α → Except EncodingError Bytes)
    (decode : Bytes → Except DecodingError α) (taken : Bytes → Bytes) : Prop :=
  ∀ input a, decode input = .ok a → ∃ bytes, encode a = .ok bytes
    ∧ bytes.length ≤ (taken input).length ∧ decode bytes = .ok a

/-- The part that a reader of one element takes is the element. -/
theorem taken_eq {α : Type} {r : Reader α} {P : Nat → Element → α → Prop} (h : AcceptsElement r P)
    {input : Bytes} (hsize : input.length < UInt64.size) {a : α} (hread : r.value input = .ok a) :
    ∃ e, P 0 e a ∧ r.taken input = e.bytes ∧ e.bytes.length ≤ input.length := by
  obtain ⟨c, hrun⟩ := Reader.value_eq_ok_iff.1 hread
  obtain ⟨e, hP, rfl, hoffset⟩ := (h.run_eq_ok_iff hsize).1 hrun
  refine ⟨e, hP, ?_, ?_⟩
  · rw [Reader.taken, hrun]
    show (e.bytes ++ c.rest).take c.offset = e.bytes
    rw [hoffset, List.take_left]
  · rw [List.length_append]
    exact Nat.le_add_right _ _

/-- One element that a reader takes. -/
theorem recodes_of_acceptsElement {α : Type} {r : Reader α} {P : Nat → Element → α → Prop}
    {write : α → Bytes} {normalize : α → α} (haccepts : AcceptsElement r P)
    (hreads : ∀ a, Reads r 0 (write a) [] (normalize a))
    (hP : ∀ e a, P 0 e a → normalize a = a ∧ (write a).length ≤ e.bytes.length)
    (config : PacketConfig) :
    Recodes (fun a => .ok (write a)) (withinSize config r.value) r.taken := by
  intro input a hdecode
  obtain ⟨hmax, hread⟩ := withinSize_eq_ok_iff.1 hdecode
  have hsize : input.length < UInt64.size := Nat.lt_of_le_of_lt hmax config.maxPacketSize.toNat_lt
  obtain ⟨e, he, htaken, hle⟩ := taken_eq haccepts hsize hread
  obtain ⟨hnormal, hlength⟩ := hP e a he
  have hback := (hreads a).value_whole (by omega)
  rw [hnormal] at hback
  exact ⟨write a, rfl, htaken ▸ hlength, withinSize_eq_ok_iff.2 ⟨by omega, hback⟩⟩

/-- A row of delegations, which is the whole of the input. -/
theorem recodes_delegations (config : PacketConfig) : Recodes (fun set => .ok (encodeDelegations set))
    (withinSize config decodeDelegations) (Reader.many Reader.delegation).taken := by
  intro input set hdecode
  obtain ⟨hmax, hread⟩ := withinSize_eq_ok_iff.1 hdecode
  have hsize : input.length < UInt64.size := Nat.lt_of_le_of_lt hmax config.maxPacketSize.toNat_lt
  rw [decodeDelegations] at hread
  cases hvalue : (Reader.many Reader.delegation).value input with
  | error e =>
    rw [hvalue] at hread
    cases hread
  | ok entries =>
    rw [hvalue] at hread
    cases hread
    obtain ⟨c, hrun⟩ := Reader.value_eq_ok_iff.1 hvalue
    obtain ⟨⟨es, hinput, hrow⟩, rfl⟩ := (Reader.run_many_delegation_eq_ok_iff hsize).1 hrun
    have hlength := (hasRoom_delegations hrow).length_le
    rw [← hinput] at hlength
    refine ⟨_, rfl, ?_, withinSize_eq_ok_iff.2 ⟨by omega, ?_⟩⟩
    · rw [Reader.taken, hrun]
      show _ ≤ (input.take input.length).length
      rw [List.take_length]
      exact hlength
    · rw [decodeDelegations_encode (by omega), hrow.normalize_delegations]

/-- Whatever is decoded of the formats without a signed range, and every Interest that is decoded with
a nonce, is encoded in no more bytes than it was decoded from. From these bytes it is decoded as it is,
so that they are what it is encoded as from then on. -/
theorem decoded_recodes (config : PacketConfig) :
    Recodes (WireFormat.tlv config).encodeName (WireFormat.tlv config).decodeName Reader.name.taken
      ∧ Recodes (WireFormat.tlv config).encodeDelegations (WireFormat.tlv config).decodeDelegations
        (Reader.many Reader.delegation).taken
      ∧ Recodes (WireFormat.tlv config).encodeNack (WireFormat.tlv config).decodeNack
        Reader.nack.taken
      ∧ Recodes (WireFormat.tlv config).encodeParameters (WireFormat.tlv config).decodeParameters
        Reader.parameters.taken
      ∧ Recodes (WireFormat.tlv config).encodeResponse (WireFormat.tlv config).decodeResponse
        Reader.response.taken
      ∧ ∀ input i blob, (WireFormat.tlv config).decodeInterest input = .ok (i, blob) → i.nonce ≠ [] →
        ∃ blob', (∀ random, (WireFormat.tlv config).encodeInterest random i = .ok blob')
          ∧ blob'.bytes.length ≤ blob.bytes.length
          ∧ (WireFormat.tlv config).decodeInterest blob'.bytes = .ok (i, blob') := by
  refine ⟨?_, recodes_delegations config, ?_, ?_, ?_, ?_⟩
  · exact recodes_of_acceptsElement .name .name
      (fun e n h => ⟨h.2.normalize_eq, condenses_name h.1 h.2⟩) config
  · exact recodes_of_acceptsElement .nack .nack
      (fun e refusal h => ⟨h.2.normalize_nack, condenses_nack h.1 h.2⟩) config
  · exact recodes_of_acceptsElement .parameters .parameters
      (fun e p h => ⟨h.2.normalize_parameters, condenses_parameters h.1 h.2⟩) config
  · exact recodes_of_acceptsElement .response .response
      (fun e r h => ⟨h.2.normalize_response, condenses_response h.1 h.2⟩) config
  · intro input i blob hdecode hnonce
    obtain ⟨hmax, hread⟩ := withinSize_eq_ok_iff.1 hdecode
    have hsize : input.length < UInt64.size := Nat.lt_of_le_of_lt hmax config.maxPacketSize.toNat_lt
    obtain ⟨hpacket, rest, rfl⟩ := (decodeInterest_eq_ok_iff hsize).1 hread
    obtain ⟨blob', hencode, hlength⟩ := hpacket.exists_encoding hnonce
    rw [List.length_append] at hmax hsize
    have hback := decodeInterest_asRead_of_encodeInterest hpacket.wholeLink
      (hencode config.nonceLength.toNat fun _ => 0) (by omega)
    have hsent : sentNonce config.nonceLength.toNat (fun _ => 0) i = i.nonce :=
      if_neg (by rwa [List.isEmpty_iff])
    rw [hsent, hpacket.asRead_eq] at hback
    exact ⟨blob', hencode _, hlength, withinSize_eq_ok_iff.2 ⟨by omega, hback⟩⟩

/-- Parameters with the type and a number in wide forms, flags that go without saying, and a tail. -/
def foreignParametersBytes : Bytes :=
  [0xfd, 0x00, 0x68, 0x09, 0x69, 0x02, 0x00, 0x05, 0x6c, 0x01, 0x01, 0x80, 0x00]

/-- What is left of the foreign packets when they are encoded again. -/
theorem decoded_recodes_foreign :
    ((WireFormat.tlv {}).encodeParameters { faceId := some 5 } = .ok [0x68, 0x03, 0x69, 0x01, 0x05]
        ∧ (WireFormat.tlv {}).decodeParameters [0x68, 0x03, 0x69, 0x01, 0x05]
          = .ok { faceId := some 5 })
      ∧ ∃ blob', blob'.bytes.length ≤ 34
        ∧ (WireFormat.tlv {}).decodeInterest blob'.bytes = .ok (foreignInterest, blob') := by
  obtain ⟨-, -, -, hparameters, -, hinterest⟩ := decoded_recodes {}
  constructor
  · obtain ⟨bytes, hencode, -, hdecode⟩ := hparameters foreignParametersBytes { faceId := some 5 }
      (eq_ok_of_toOption (by decide +kernel))
    cases hencode
    exact ⟨rfl, hdecode⟩
  · obtain ⟨blob', -, hlength, hdecode⟩ := hinterest foreignInterestBlob.bytes foreignInterest
      foreignInterestBlob (eq_ok_of_toOption (by decide +kernel)) (by decide)
    exact ⟨blob', hlength, hdecode⟩

end NamedData.Wire
