import NamedData.Proofs.Wire.CheckedPackets
import NamedData.Proofs.Wire.Data
import NamedData.Proofs.Wire.Interest

/-!
# Reading and writing in bounds

On any addressable input the decoders give the values and errors of the decoders that check
themselves, so that none of these checks ever fails. The signed ranges that the encoders give lie in
what they have written.
-/

namespace NamedData.Wire

/-! ## Signed ranges of what is written -/

theorem length_componentElements_dropLast (components : List Component) :
    (componentElements components.dropLast).length ≤ (componentElements components).length := by
  rw [List.dropLast_eq_take]
  calc (componentElements (components.take (components.length - 1))).length
      ≤ (componentElements (components.take (components.length - 1))
          ++ componentElements (components.drop (components.length - 1))).length := by
        rw [List.length_append]
        exact Nat.le_add_right _ _
    _ = (componentElements components).length := by
        rw [componentElements, componentElements, ← List.flatMap_append, List.take_append_drop,
          componentElements]

theorem inBounds_interestBlob (i : Interest) (following : Bytes) :
    (interestBlob i following).InBounds := by
  have hcomponents := length_componentElements_dropLast i.name.components
  refine ⟨Nat.le_add_right _ _, ?_⟩
  simp only [interestBlob, element, nameElement, List.length_append]
  omega

theorem inBounds_dataBlob (d : Data) (info : Bytes) : (dataBlob d info).InBounds := by
  refine ⟨Nat.le_add_right _ _, ?_⟩
  simp only [dataBlob, element, List.length_append]
  omega

private theorem inBounds_of_map {α : Type} {x : Except EncodingError α} {f : α → SignedBlob}
    (hf : ∀ a, (f a).InBounds) {blob : SignedBlob} (h : x.map f = .ok blob) : blob.InBounds := by
  cases x with
  | error e => cases h
  | ok a =>
    cases h
    exact hf a

/-! ## Decoders -/

/-- On any addressable input the decoder does what one does that checks itself, without a fault. -/
def Passes {α : Type} (decode : Bytes → Except DecodingError α) (checked : Bytes → Outcome α) : Prop :=
  ∀ input, Addressable input → checked input = .ok (decode input)

theorem Passes.withinSize {α : Type} {decode : Bytes → Except DecodingError α}
    {checked : Bytes → Outcome α} (h : Passes decode checked) (config : PacketConfig) :
    Passes (Wire.withinSize config decode) (Checked.withinSize config checked) := by
  intro input haddr
  unfold Wire.withinSize Checked.withinSize
  cases checkSize config input with
  | error e => rfl
  | ok => exact h input haddr

theorem Checked.Follows.passes {α : Type} {g : Checked α} {least : Nat} {r : Reader α}
    (h : Follows g least r) : Passes r.value g.value :=
  fun _ haddr => h.value_eq haddr

/-- An element that is read takes bytes, and none beyond the surrounding element. -/
def Advances {α : Type} (r : Reader α) : Prop :=
  ∀ {input : Bytes} {stop offset : Nat}, Inside input stop offset → ∀ {a : α} {c : Cursor},
    r stop (.ofOffset input offset) = .ok (a, c) →
      ∃ after, c = .ofOffset input after ∧ offset < after ∧ after ≤ stop

theorem Checked.Follows.advances {α : Type} {g : Checked α} {least : Nat} {r : Reader α}
    (h : Follows g least r) (hleast : 0 < least) : Advances r := by
  intro input stop offset hinside a c hread
  cases h.tallies hinside with
  | error e hx hy =>
    rw [hy] at hread
    cases hread
  | ok a' after hx hy hafter =>
    rw [hy] at hread
    cases hread
    exact ⟨after, rfl, by omega, hafter.2⟩

/-! ### The decoders of the format -/

theorem Reader.value_map {α β : Type} (f : α → β) (r : Reader α) (input : Bytes) :
    (f <$> r).value input = f <$> r.value input := by
  show ((r >>= pure ∘ f).run input).map Prod.fst = _
  simp only [Reader.value, Reader.run, bind, Reader.bind]
  cases r input.length ⟨0, input⟩ <;> rfl

theorem passes_interest : Passes decodeInterest (Checked.packet Checked.interest).value :=
  fun _ => Checked.packet_value_eq Checked.frames_interest

theorem passes_data : Passes decodeData (Checked.packet Checked.data).value :=
  fun _ => Checked.packet_value_eq Checked.frames_data

theorem passes_delegations : Passes decodeDelegations Checked.delegations.value := by
  intro input haddr
  have hitems : Checked.Follows (Checked.many Checked.delegation) 0 (Reader.many Reader.delegation) :=
    .many .delegation (by decide)
  rw [decodeDelegations, ← Reader.value_map]
  exact (hitems.map DelegationSet.mk).passes input haddr

/-- Decodes a signature unless one of its elements is above the size limit. -/
def Checked.signature (config : PacketConfig) (info value : Bytes) : Outcome Signature :=
  match checkSize config info with
  | .ok () => Checked.withinSize config (Checked.decodeSignature info) value
  | .error e => .ok (.error e)

theorem passes_signature (config : PacketConfig) {info : Bytes} (hinfo : Addressable info) :
    Passes ((WireFormat.tlv config).decodeSignature info) (Checked.signature config info) := by
  intro value hvalue
  have hsizes : Checked.withinSize config (Checked.decodeSignature info) value
      = .ok (Wire.withinSize config (decodeSignature info) value) :=
    Passes.withinSize (fun _ => Checked.decodeSignature_eq hinfo) config value hvalue
  unfold Checked.signature WireFormat.tlv
  cases hsize : checkSize config info with
  | error e => simp only [hsize, bind, Except.bind]
  | ok => simp only [hsize, bind, Except.bind, hsizes, Wire.withinSize]

/-! ### Signed ranges of what is read -/

theorem Checked.bind_eq_ok {α β : Type} {g : Checked α} {next : α → Checked β} {input : Bytes}
    {stop offset last : Nat} {b : β} (h : (g >>= next) input stop offset = .ok (.ok (b, last))) :
    ∃ a after, g input stop offset = .ok (.ok (a, after))
      ∧ next a input stop after = .ok (.ok (b, last)) := by
  simp only [bind, Checked.bind] at h
  split at h
  · next a after hfirst => exact ⟨a, after, hfirst, h⟩
  · cases h
  · cases h

theorem Checked.inBounds_of_signedBlob {bytes : Bytes} {signedBegin signedEnd : Nat} {input : Bytes}
    {stop offset last : Nat} {blob : SignedBlob}
    (h : signedBlob bytes signedBegin signedEnd input stop offset = .ok (.ok (blob, last))) :
    blob.InBounds := by
  unfold signedBlob SignedBlob.ofRange at h
  by_cases hrange : (⟨bytes, signedBegin, signedEnd⟩ : SignedBlob).InBounds
  · rw [if_pos hrange] at h
    cases h
    exact hrange
  · rw [if_neg hrange] at h
    cases h

theorem Checked.value_eq_ok {α : Type} {g : Checked α} {input : Bytes} {a : α}
    (h : g.value input = .ok (.ok a)) : ∃ after, g input input.length 0 = .ok (.ok (a, after)) := by
  unfold value run at h
  cases hrun : g input input.length 0 with
  | error fault =>
    rw [hrun] at h
    cases h
  | ok result =>
    rw [hrun] at h
    cases result with
    | error e => cases h
    | ok p =>
      cases h
      exact ⟨p.2, rfl⟩

theorem Checked.eq_ok_of_withinSize {α : Type} {config : PacketConfig} {decode : Bytes → Outcome α}
    {input : Bytes} {a : α} (h : Checked.withinSize config decode input = .ok (.ok a)) :
    decode input = .ok (.ok a) := by
  unfold Checked.withinSize at h
  split at h
  · exact h
  · cases h

/-- A packet that is read has its signed range in its bytes, since this is checked. -/
theorem Passes.inBounds {α : Type} {decode : Bytes → Except DecodingError (α × SignedBlob)}
    {g : Checked (α × Nat × Nat)} (h : Passes decode (Checked.packet g).value)
    (config : PacketConfig) {input : Bytes} (haddr : Addressable input) {a : α} {blob : SignedBlob}
    (hdecode : Wire.withinSize config decode input = .ok (a, blob)) : blob.InBounds := by
  have hchecked := h.withinSize config input haddr
  rw [hdecode] at hchecked
  obtain ⟨final, hrun⟩ := Checked.value_eq_ok (Checked.eq_ok_of_withinSize hchecked)
  obtain ⟨p, after, -, hrest⟩ := Checked.bind_eq_ok hrun
  obtain ⟨bytes, _, -, hsigned⟩ := Checked.bind_eq_ok hrest
  obtain ⟨blob', last, hblob, hpure⟩ := Checked.bind_eq_ok hsigned
  cases hpure
  exact Checked.inBounds_of_signedBlob hblob

/-- No decoder meets a fault, under any limit on sizes. A header that is read announces a value inside
the surrounding element, and elements that are read move on inside it. The packets that are decoded
and those that are encoded have their signed ranges in their bytes. -/
theorem decoders_in_bounds (config : PacketConfig) :
    (Passes (WireFormat.tlv config).decodeName (Checked.withinSize config Checked.name.value)
      ∧ Passes (WireFormat.tlv config).decodeInterest
          (Checked.withinSize config (Checked.packet Checked.interest).value)
      ∧ Passes (WireFormat.tlv config).decodeData
          (Checked.withinSize config (Checked.packet Checked.data).value)
      ∧ (∀ info, Addressable info → Passes ((WireFormat.tlv config).decodeSignature info)
          (Checked.signature config info))
      ∧ Passes (WireFormat.tlv config).decodeDelegations
          (Checked.withinSize config Checked.delegations.value)
      ∧ Passes (WireFormat.tlv config).decodeNack
          (Checked.withinSize config Checked.nack.value)
      ∧ Passes (WireFormat.tlv config).decodeParameters
          (Checked.withinSize config Checked.parameters.value)
      ∧ Passes (WireFormat.tlv config).decodeResponse
          (Checked.withinSize config Checked.response.value))
    ∧ (∀ input stop offset, Inside input stop offset → ∀ type last c,
        Reader.header stop (.ofOffset input offset) = .ok ((type, last), c) →
          ∃ after, c = .ofOffset input after ∧ offset < after ∧ after ≤ last ∧ last ≤ stop)
    ∧ (Advances Reader.any ∧ ∀ type, Advances (Reader.blob type))
    ∧ (∀ input, Addressable input → ∀ i blob,
        (WireFormat.tlv config).decodeInterest input = .ok (i, blob) → blob.InBounds)
    ∧ (∀ input, Addressable input → ∀ d blob,
        (WireFormat.tlv config).decodeData input = .ok (d, blob) → blob.InBounds)
    ∧ (∀ random i blob, (WireFormat.tlv config).encodeInterest random i = .ok blob → blob.InBounds)
    ∧ ∀ d blob, (WireFormat.tlv config).encodeData d = .ok blob → blob.InBounds := by
  have hinterest := passes_interest.withinSize config
  have hdata := passes_data.withinSize config
  refine ⟨⟨Checked.Follows.name.passes.withinSize config, hinterest, hdata,
    fun _ => passes_signature config, passes_delegations.withinSize config,
    Checked.Follows.nack.passes.withinSize config,
    Checked.Follows.parameters.passes.withinSize config,
    Checked.Follows.response.passes.withinSize config⟩, ?_,
    ⟨Checked.Follows.any.advances (by decide), fun type =>
      (Checked.Follows.blob type).advances (by decide)⟩, ?_, ?_, ?_, ?_⟩
  · intro input stop offset hinside type last c hread
    cases Tallies.header hinside with
    | error e hx hy =>
      rw [hy] at hread
      cases hread
    | ok p after hx hy hp =>
      rw [hy] at hread
      cases hread
      exact ⟨after, rfl, by omega, hp.2⟩
  · exact fun input haddr i blob => passes_interest.inBounds config haddr
  · exact fun input haddr d blob => passes_data.inBounds config haddr
  · intro random i blob hencode
    exact inBounds_of_map (inBounds_interestBlob i) ((encodeInterest_eq _ random i).symm.trans hencode)
  · intro d blob hencode
    exact inBounds_of_map (inBounds_dataBlob d) ((encodeData_eq d).symm.trans hencode)

/-! A name whose value claims to be as long as numbers go, in a packet that ends right there. -/

/-- The header of a name with the largest length. -/
def overlongName : Bytes :=
  [0x07, 0xff, 0xff, 0xff, 0xff, 0xff, 0xff, 0xff, 0xff, 0xff]

/-- The length is refused as cut off, and the sum of offsets that it would make is not made. -/
theorem decoders_in_bounds_overlong :
    Addressable overlongName
      ∧ Checked.withinSize {} Checked.name.value overlongName
        = .ok (.error (.truncated 10)) := by
  have haddr : Addressable overlongName := show 10 < Nat.pow 2 63 by decide
  have hdecode : (WireFormat.tlv {}).decodeName overlongName = .error (.truncated 10) := rfl
  exact ⟨haddr, hdecode ▸ (decoders_in_bounds {}).1.1 overlongName haddr⟩

end NamedData.Wire
