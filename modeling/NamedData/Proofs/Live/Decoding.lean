import NamedData.Proofs.Live.Life
import NamedData.Proofs.Live.Nonce

/-!
# Decoding into packets

Decoding an input into a packet is all or nothing. If the input is wrong, the packet is the same
object as before. If it is not, everything that the packet then answers comes from the input: its
fields, its nonce, its encoding and, for Data, its full name. Only its count tells that there was a
packet before, since it is above every count which that one answered or would have answered.
-/

namespace NamedData

open Observed LivePacket LawfulLivePacket

/-! ## What decoders take up -/

namespace Wire

/-- The blob is the part of the input that a reader has gone through, with the range that it read. -/
def Consumed {α : Type} (r : Reader (α × Nat × Nat)) (input : Bytes) (a : α) (blob : SignedBlob) :
    Prop :=
  ∃ c, r.run input = .ok ((a, blob.signedBegin, blob.signedEnd), c)
    ∧ blob.bytes = input.take c.offset

/-- A value that is decoded within the size limit is decoded without one. -/
theorem ok_of_withinSize {α : Type} {config : PacketConfig} {decode : Bytes → Except DecodingError α}
    {input : Bytes} {a : α} (h : withinSize config decode input = .ok a) : decode input = .ok a := by
  unfold withinSize at h
  cases hsize : checkSize config input with
  | error e =>
    rw [hsize] at h
    cases h
  | ok =>
    rw [hsize] at h
    exact h

theorem consumed_of_decodeInterest {config : PacketConfig} {input : Bytes} {i : Interest}
    {blob : SignedBlob} (h : (WireFormat.tlv config).decodeInterest input = .ok (i, blob)) :
    Consumed Reader.interest input i blob := by
  have hdecode : decodeInterest input = .ok (i, blob) := ok_of_withinSize h
  unfold decodeInterest at hdecode
  cases hrun : Reader.interest.run input with
  | error e =>
    rw [hrun] at hdecode
    cases hdecode
  | ok result =>
    rw [hrun] at hdecode
    cases hdecode
    exact ⟨result.2, hrun, rfl⟩

theorem consumed_of_decodeData {config : PacketConfig} {input : Bytes} {d : Data}
    {blob : SignedBlob} (h : (WireFormat.tlv config).decodeData input = .ok (d, blob)) :
    Consumed Reader.data input d blob := by
  have hdecode : decodeData input = .ok (d, blob) := ok_of_withinSize h
  unfold decodeData at hdecode
  cases hrun : Reader.data.run input with
  | error e =>
    rw [hrun] at hdecode
    cases hdecode
  | ok result =>
    rw [hrun] at hdecode
    cases hdecode
    exact ⟨result.2, hrun, rfl⟩

end Wire

/-! ## What packets answer -/

namespace LiveInterest

variable {n : Count} {i : LiveInterest}

theorem fields_of_settled (hdrawn : Drawn n i) (h : Settled i) :
    fields i n = ((i.toInterest, i), n) := by
  show (((ChangeCounted.settle i n).1.2.toInterest, (ChangeCounted.settle i n).1.2),
    (ChangeCounted.settle i n).2) = _
  rw [settle_of_settled hdrawn h]

/-- Where only the parts and the count are others, the settings are the same. -/
theorem toInterest_of_put {i' : LiveInterest} (h : core.put (core.view i') i = i') :
    i'.toInterest = { present i (value i') with nonce := i'.toInterest.nonce } := by
  generalize core.view i' = c at h
  subst h
  rfl

/-- An Interest with changes to take up answers no nonce. -/
theorem fields_of_not_settled (hdrawn : Drawn n i)
    (hnonce : ∀ b ∈ LawfulLivePacket.nonce i, b.count ≤ i.count) (h : ¬ Settled i) :
    (fields i n).1.1 = { present i (value i) with nonce := [] } := by
  have hpolled := polled hdrawn
  have hnone : (fields i n).1.1.nonce = [] := by
    refine Decidable.byContradiction fun hne => ?_
    -- a nonce that is answered is kept for a count that the Interest has only been given now
    have hkept := (nonce_iff (ChangeCounted.settle i n).1.2 (fields i n).1.1.nonce).2 ⟨hne, rfl⟩
    rw [hpolled.nonce_eq] at hkept
    have hlt := Nat.lt_of_le_of_lt hdrawn.2 (hpolled.moved h).1
    exact absurd (hnonce _ hkept) (Nat.not_le.2 hlt)
  have hput := hpolled.put_eq
  have hvalue := hpolled.value_eq
  show (ChangeCounted.settle i n).1.2.toInterest = _
  rw [toInterest_of_put hput, ← hvalue]
  exact congrArg (fun nonce => { present i (value (ChangeCounted.settle i n).1.2) with nonce }) hnone

/-- What an Interest answers does not depend on when it is asked. -/
theorem fields_later {m : Count} (hle : n ≤ m) (hdrawn : Drawn n i)
    (hnonce : ∀ b ∈ LawfulLivePacket.nonce i, b.count ≤ i.count) :
    (fields i m).1.1 = (fields i n).1.1 := by
  have hlater := drawn_mono hle hdrawn
  by_cases h : Settled i
  · rw [fields_of_settled hlater h, fields_of_settled hdrawn h]
  · rw [fields_of_not_settled hlater hnonce h, fields_of_not_settled hdrawn hnonce h]

end LiveInterest

/-- The full name is made of the name and the digest of the encoding. -/
theorem LiveData.fullName_keeping {n : Count} {d : LiveData} {blob : Wire.SignedBlob}
    (hsettle : ChangeCounted.settle (keeping d blob) n = (((), keeping d blob), n)) :
    fullName (keeping d blob) n =
      ((.ok ⟨d.toData.name.withDigest (Sha256.digest blob.bytes), n⟩, keeping d blob), n + 1) := by
  have hencode : wireEncode (keeping d blob) n = ((.ok blob, keeping d blob), n) :=
    encodeOnce_keeping hsettle
  simp only [fullName, bind_edit_apply, hencode]
  rfl

/-! ## All or nothing -/

/-- Packet `p'` at count `n'` answers a later count than any that packet `p` at count `n` has
answered or would have answered then. -/
structure Supersedes {σ : Type} [ChangeCounted σ] (reported : List Count) (n : Count) (p : σ)
    (n' : Count) (p' : σ) : Prop where
  reported_lt : ∀ c ∈ reported, c < (changeCount p' n').1.1
  answer_lt : (changeCount p n).1.1 < (changeCount p' n').1.1

/-- A decoded packet that keeps its encoding is settled, has the value that was decoded, and answers
a count that comes after all others. -/
theorem Replaced.supersedes {σ τ π W : Type} [Checkable τ] [LivePacket σ τ π] [Observed τ W]
    [Recalling τ] [LawfulLivePacket σ] [LawfulCheckable τ W] {reported : List Count} {n n' : Count}
    {p p' : σ} {decoded : π} (h : Replaced n p n' p' decoded) (halive : Alive reported n p) :
    Supersedes reported n p n' p' := by
  have hanswer : (changeCount p' n').1.1 = ChangeCounted.count p' := by
    rw [changeCount_of_settled h.drawn h.settled]
  have hlt := h.answer_lt
  rw [← hanswer] at hlt
  refine ⟨fun c hc => ?_, hlt⟩
  exact Nat.lt_of_le_of_lt (Nat.le_trans (halive.reported_le c hc) (count_le_answer halive.drawn)) hlt

/-- Decoding an input into an Interest or a Data packet, whatever was done to it before, either fails
and leaves it as it is, or gives it what the decoder made of the input alone, with a count that
comes after all others. -/
theorem wireDecode_all_or_nothing :
    (∀ reported n (i : LiveInterest), Life reported n i → ∀ input,
      (∀ e, Wire.WireFormat.initial.decodeInterest input = .error e →
        ∃ n', n ≤ n' ∧ LiveInterest.wireDecode input i n = ((.error e, i), n')
          ∧ (LiveInterest.fields i n').1.1 = (LiveInterest.fields i n).1.1)
      ∧ ∀ decoded blob, Wire.WireFormat.initial.decodeInterest input = .ok (decoded, blob) →
        Wire.Consumed Wire.Reader.interest input decoded blob
        ∧ ∃ i' n', LiveInterest.wireDecode input i n = ((.ok (), i'), n')
          ∧ LiveInterest.fields i' n' = ((decoded, i'), n')
          ∧ Supersedes reported n i n' i'
          ∧ ∀ random, LiveInterest.wireEncode random i' n' = ((.ok blob, i'), n'))
      ∧ ∀ reported n (d : LiveData), Life reported n d → ∀ input,
        (∀ e, Wire.WireFormat.initial.decodeData input = .error e →
          ∃ n', n ≤ n' ∧ LiveData.wireDecode input d n = ((.error e, d), n'))
        ∧ ∀ decoded blob, Wire.WireFormat.initial.decodeData input = .ok (decoded, blob) →
          Wire.Consumed Wire.Reader.data input decoded blob
          ∧ ∃ d' n', LiveData.wireDecode input d n = ((.ok (), d'), n')
            ∧ d'.toData = decoded
            ∧ Supersedes reported n d n' d'
            ∧ LiveData.wireEncode d' n' = ((.ok blob, d'), n')
            ∧ LiveData.fullName d' n' =
              ((.ok ⟨decoded.name.withDigest (Sha256.digest blob.bytes), n'⟩, d'), n' + 1) := by
  constructor
  · intro reported n i hlife input
    have halive := hlife.alive
    have hdrawn := halive.drawn
    refine ⟨fun e herror => ?_, fun decoded blob hdecode => ?_⟩
    · obtain ⟨n', hle, hrun⟩ := wireDecode_error herror i n
      exact ⟨n', hle, hrun, LiveInterest.fields_later hle hdrawn halive.nonce_le⟩
    · have hreplaced : Replaced n i _ (keeping (replace decoded i n).1.2 blob) decoded :=
        (replaced hdrawn decoded).withCache _
      have hsettle := settle_of_settled hreplaced.drawn hreplaced.settled
      refine ⟨Wire.consumed_of_decodeInterest hdecode, _, _, wireDecode_ok hdrawn hdecode, ?_,
        hreplaced.supersedes halive, fun random => encodeOnce_keeping hsettle⟩
      have hvalue : (keeping (replace decoded i n).1.2 blob).toInterest = decoded :=
        hreplaced.present_eq
      rw [LiveInterest.fields_of_settled hreplaced.drawn hreplaced.settled, hvalue]
  · intro reported n d hlife input
    have halive := hlife.alive
    have hdrawn := halive.drawn
    refine ⟨fun e herror => wireDecode_error herror d n, fun decoded blob hdecode => ?_⟩
    have hreplaced : Replaced n d _ (keeping (replace decoded d n).1.2 blob) decoded :=
      (replaced hdrawn decoded).withCache _
    have hsettle := settle_of_settled hreplaced.drawn hreplaced.settled
    refine ⟨Wire.consumed_of_decodeData hdecode, _, _, wireDecode_ok hdrawn hdecode,
      hreplaced.present_eq, hreplaced.supersedes halive, encodeOnce_keeping hsettle, ?_⟩
    have hvalue : (replace decoded d n).1.2.toData = decoded := hreplaced.present_eq
    rw [LiveData.fullName_keeping hsettle, hvalue]

/-! ### Packets whose name was changed in place, unasked -/

/-- A component is added to a name. -/
private def extend : Stamped.Change Name :=
  .update fun name => ⟨name.components ++ [⟨.generic, [0x78]⟩]⟩

/-- A new packet that has answered its count, and whose name was changed after that. -/
def LiveData.pending : LiveData × Count :=
  let (d, n) := (Packet.create none : Draws LiveData) 0
  let ((_, d), n) := changeCount d n
  let ((_, d), n) := LiveData.Operation.perform (.name extend) d n
  (d, n)

theorem LiveData.life_pending : Life [10] pending.2 pending.1 := by
  have hnew : Life [] (Packet.create none 0 : LiveData × Count).2 (Packet.create none 0).1 :=
    .create none (fun _ h => nomatch h) rfl
  have huses : ∀ n, (Operation.name extend).Uses (.drawn n) := fun _ => trivial
  exact hnew.report.act (Operation.name extend) (huses _)

/-- A new Interest that has answered its count, and whose name was changed after that. -/
def LiveInterest.pending : LiveInterest × Count :=
  let (i, n) := (Packet.create none : Draws LiveInterest) 0
  let ((_, i), n) := changeCount i n
  let ((_, i), n) := LiveInterest.Operation.perform (.name extend) i n
  (i, n)

theorem LiveInterest.life_pending : Life [6] pending.2 pending.1 := by
  have hnew : Life [] (Packet.create none 0 : LiveInterest × Count).2 (Packet.create none 0).1 :=
    .create none (fun _ h => nomatch h) rfl
  have huses : ∀ n, (Operation.name extend).Uses n (.drawn n) := fun _ => trivial
  exact hnew.report.act (Operation.name extend) (huses _)

/-- An input that is cut off leaves the Interest with its change, and a Data packet takes the place
of the other with a later count. -/
theorem wireDecode_all_or_nothing_pending :
    (∃ n', LiveInterest.wireDecode [0x05] LiveInterest.pending.1 LiveInterest.pending.2 =
        ((.error (.truncated 1), LiveInterest.pending.1), n'))
      ∧ ∃ d' n', LiveData.wireDecode LiveData.smallInput LiveData.pending.1 LiveData.pending.2 =
          ((.ok (), d'), n')
        ∧ d'.toData = { name := ⟨[⟨.generic, [0x64]⟩]⟩, signature := .sha256WithRsa [] .absent {} }
        ∧ 10 < (changeCount d' n').1.1
        ∧ LiveData.wireEncode d' n' = ((.ok ⟨LiveData.smallInput, 2, 16⟩, d'), n') := by
  have herror : Wire.WireFormat.initial.decodeInterest [0x05] = .error (.truncated 1) := rfl
  have hdecode := eq_ok_of_toOption
    (show (Wire.WireFormat.initial.decodeData LiveData.smallInput).toOption =
      some (⟨⟨[⟨.generic, [0x64]⟩]⟩, {}, [], .sha256WithRsa [] .absent {}⟩,
        ⟨LiveData.smallInput, 2, 16⟩) by decide +kernel)
  obtain ⟨n', -, hrun, -⟩ :=
    (wireDecode_all_or_nothing.1 _ _ _ LiveInterest.life_pending [0x05]).1 _ herror
  obtain ⟨-, d', m', hrun', hvalue, hcount, hencode, -⟩ :=
    (wireDecode_all_or_nothing.2 _ _ _ LiveData.life_pending LiveData.smallInput).2 _ _ hdecode
  exact ⟨⟨n', hrun⟩, d', m', hrun', hvalue, hcount.reported_lt 10 List.mem_cons_self, hencode⟩

end NamedData
