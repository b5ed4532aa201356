import NamedData.Proofs.Live.Interest
import NamedData.Proofs.Wire.Reads

/-!
# Encodings that packets answer

Whenever a packet answers an encoding, it is the input that was decoded last, with no change since,
or an encoding of the value that the packet has, unless the last change has escaped the packet: then
it may be the encoding that the packet kept before that change, and that need not be one of its value.

A part that was put back as the packet remembers it does no harm. The packet then has the value that
it had when it was last looked at, and the answer is an encoding of that value or the input that it was
decoded from. A setter under which the count does not move does: it can only follow a decoding that
found changes of parts nobody had asked about. Such a decoding raises the count of the packet to the
next one of the sequence (`replace_reaches_next`), and the first setter to draw that count leaves the
packet where it is.
-/

namespace NamedData

open Observed Recalling LivePacket LawfulLivePacket

/-- What the log says about an encoding that is answered, where `decodes` tells that the value that the
packet has is what is decoded of it, and `encodes` that it is an encoding of that value. -/
structure Log.Explains (log : Log) (blob : Wire.SignedBlob) (decodes encodes : Prop) : Prop where
  /-- It is the input decoded last or an encoding of the value, unless the last change has escaped. -/
  sound : (log.received = some blob ∨ encodes) ↔ (log.escaped = false ∨ encodes)
  /-- What is kept under the count is what is answered. -/
  held : ∀ b, log.ask.held = some b → blob = b
  /-- If nothing is kept the packet is encoded anew. -/
  fresh : log.ask.held = none → encodes
  /-- Unless a setter was called under which the count did not move, the packet has the value that was
  encoded or decoded, even if parts were changed and put back. -/
  restored : log.ask.overtaken = false → log.ask.heldInput = some blob ∧ decodes ∨ encodes
  /-- Without a change in between, the packet answers what it answered or decoded before. -/
  standing : ∀ b, log.standing = some b → blob = b

namespace Coherent

variable {σ τ π W : Type} [Checkable τ] [LivePacket σ τ π] [Observed τ W] [Recalling τ]
  [LawfulLivePacket σ] [LawfulCheckable τ W] [LawfulRecalling τ]

/-- Whatever a packet answers, its log explains. -/
theorem explains {n : Count} {L : Ledger} {m : Traced σ} {p : σ} {blob : Wire.SignedBlob}
    (h : Coherent n L m) (hp : p = keeping (ChangeCounted.settle m.packet n).1.2 blob)
    (hanswer : Answers (ChangeCounted.settle m.packet n).1.2 blob) :
    m.log.Explains blob (Decodes σ (present p (value p)) blob)
      (Encodes σ (present p (value p)) blob) := by
  obtain ⟨p₀, log⟩ := m
  obtain ⟨w, hw, -⟩ := h.recalled
  obtain ⟨L', w', -, hw'⟩ := recalled_settle hw h.drawn.1
  have hpolled := polled h.drawn
  have hasked := h.asked hpolled hw'
  rw [hp, keeping, value_withCache, present_withCache]
  generalize (ChangeCounted.settle p₀ n).1.2 = p at hanswer hpolled hasked
  have hrestored : log.ask.overtaken = false →
      log.ask.heldInput = some blob ∧ Decodes σ (present p (value p)) blob
        ∨ Encodes σ (present p (value p)) blob := fun hovertaken =>
    (hasked.answer_sources hpolled.settled hanswer).resolve_left (Bool.eq_false_iff.1 hovertaken)
  refine ⟨⟨Or.imp_left Log.not_escaped_of_received, ?_⟩, fun b => hasked.answer_held hanswer,
    hasked.answer_fresh hanswer, hrestored,
    fun b hb => hasked.answer_held hanswer (Log.held_ask_of_standing hb)⟩
  rintro (hescaped | hencodes)
  · -- the input that is kept is the one that was decoded last
    exact (hrestored (Log.overtaken_ask_of_not_escaped hescaped)).imp_left
      fun hinput => Log.received_of_not_escaped hescaped hinput.1
  · exact .inr hencodes

end Coherent

/-- Every encoding that an Interest or a Data packet answers in the course of any run is explained by
the packet's log. The runs are those of any number of packets with their clones, whose parts are cloned,
changed and put back in any order. -/
theorem wireEncode_explained (interests : Process LiveInterest) (packets : Process LiveData) :
    (interests.Reachable → ∀ m ∈ interests.members, ∀ random blob i n',
      LiveInterest.wireEncode random m.packet interests.next = ((.ok blob, i), n') →
        m.log.Explains blob
          (∃ input, Wire.WireFormat.initial.decodeInterest input = .ok (i.toInterest, blob))
          (∃ random, Wire.WireFormat.initial.encodeInterest random i.toInterest = .ok blob))
      ∧ (packets.Reachable → ∀ m ∈ packets.members, ∀ blob d n',
        LiveData.wireEncode m.packet packets.next = ((.ok blob, d), n') →
          m.log.Explains blob
            (∃ input, Wire.WireFormat.initial.decodeData input = .ok (d.toData, blob))
            (Wire.WireFormat.initial.encodeData d.toData = .ok blob)) := by
  constructor
  · intro hreach m hm random blob i n' hrun
    obtain ⟨L, -, hcoherent⟩ := hreach.coherent
    obtain ⟨hanswer, hkeeping, -⟩ := LiveInterest.wireEncode_ok hrun
    exact (hcoherent m hm).explains hkeeping hanswer
  · intro hreach m hm blob d n' hrun
    obtain ⟨L, -, hcoherent⟩ := hreach.coherent
    obtain ⟨hanswer, hkeeping, -⟩ := LiveData.wireEncode_ok hrun
    exact (hcoherent m hm).explains hkeeping hanswer

/-! ## Runs in which a change escapes -/

/-- A run of an edit, told by its result. -/
theorem eq_of_result {σ ρ : Type} {x : (ρ × σ) × Count} {r : ρ} (h : x.1.1 = r) :
    x = ((r, x.1.2), x.2) := by
  rw [← h]

/-- Appends a component to a name. -/
def Stamped.Change.rename : Stamped.Change Name :=
  .update fun name => ⟨name.components ++ [⟨.generic, [0x78]⟩]⟩

/-- A new packet, and the next count. -/
def Process.created (σ : Type) [Packet σ] : Traced σ × Count :=
  let (p, n) := (Packet.create none : Draws σ) 0
  (⟨p, []⟩, n)

theorem Process.created_reachable (σ : Type) [Packet σ] :
    Process.Reachable ⟨(Process.created σ).2, [], [(Process.created σ).1]⟩ :=
  (Process.Reachable.start 0).create none (fun _ h => nomatch h) rfl

namespace LiveData

/-- A Data packet named `/d` without content. -/
def smallInput : Bytes :=
  [0x06, 0x10, 0x07, 0x03, 0x08, 0x01, 0x64, 0x14, 0x00, 0x15, 0x00, 0x16, 0x03, 0x1b, 0x01, 0x01,
    0x17, 0x00]

/-- A new packet after its name was changed in place, an input was decoded, and the content was
set. -/
def overtaken : Traced LiveData × Count :=
  Process.actAll [Operation.name .rename, .wireDecode smallInput, .setContent [0x63]]
    (Process.created LiveData).1 (Process.created LiveData).2

theorem overtaken_reachable : Process.Reachable ⟨overtaken.2, [], [overtaken.1]⟩ := by
  refine (Process.created_reachable _).actAll ?_
  simp [Packet.Uses, Operation.Uses, Stamped.Change.rename, Stamped.Change.Uses]

theorem wireEncode_overtaken :
    wireEncode overtaken.1.packet overtaken.2 =
      ((.ok ⟨smallInput, 2, 16⟩, (wireEncode overtaken.1.packet overtaken.2).1.2),
        (wireEncode overtaken.1.packet overtaken.2).2) :=
  eq_of_result (eq_ok_of_toOption (by decide +kernel))

/-- The same packet without meta information, which an encoding always has. -/
def sparseInput : Bytes :=
  [0x06, 0x0e, 0x07, 0x03, 0x08, 0x01, 0x64, 0x15, 0x00, 0x16, 0x03, 0x1b, 0x01, 0x01, 0x17, 0x00]

/-- A new packet after that input was decoded. -/
def received : Traced LiveData × Count :=
  Process.actAll [Operation.wireDecode sparseInput] (Process.created LiveData).1
    (Process.created LiveData).2

/-- The same packet after its name was changed in place, and put back as it was. -/
def restored : Traced LiveData × Count :=
  Process.actAll [Operation.name .rename, .name (.assign received.1.packet.name.part)] received.1
    received.2

theorem restored_reachable :
    Process.Reachable
      ⟨restored.2, [.part .name received.1.packet.name.part], [restored.1]⟩ := by
  have hreceived : Process.Reachable ⟨received.2, [], [received.1]⟩ := by
    refine (Process.created_reachable _).actAll ?_
    simp [Packet.Uses, Operation.Uses]
  -- the name is cloned before it is changed
  refine (hreceived.expose List.mem_cons_self List.mem_cons_self).actAll ?_
  simp [Packet.Uses, Operation.Uses, Stamped.Change.rename, Stamped.Change.Uses, Stock.ofItems]

theorem wireEncode_restored :
    wireEncode restored.1.packet restored.2 =
      ((.ok ⟨sparseInput, 2, 14⟩, (wireEncode restored.1.packet restored.2).1.2),
        (wireEncode restored.1.packet restored.2).2) :=
  eq_of_result (eq_ok_of_toOption (by decide +kernel))

end LiveData

namespace LiveInterest

/-- An Interest named `/d` with the nonce `01020304`. -/
def smallInput : Bytes :=
  [0x05, 0x0f, 0x07, 0x03, 0x08, 0x01, 0x64, 0x09, 0x02, 0x12, 0x00, 0x0a, 0x04, 0x01, 0x02, 0x03,
    0x04]

/-- A new Interest after its name was changed in place, an input was decoded, and a setting was
set. -/
def overtaken : Traced LiveInterest × Count :=
  let setMin : InterestSettings → InterestSettings := fun s => { s with minSuffixComponents := some 1 }
  Process.actAll [Operation.name .rename, .wireDecode smallInput, .updateSettings setMin]
    (Process.created LiveInterest).1 (Process.created LiveInterest).2

theorem overtaken_reachable : Process.Reachable ⟨overtaken.2, [], [overtaken.1]⟩ := by
  refine (Process.created_reachable _).actAll ?_
  simp [Packet.Uses, Operation.Uses, Stamped.Change.rename, Stamped.Change.Uses]

theorem wireEncode_overtaken :
    wireEncode (fun _ => 0) overtaken.1.packet overtaken.2 =
      ((.ok ⟨smallInput, 4, 4⟩, (wireEncode (fun _ => 0) overtaken.1.packet overtaken.2).1.2),
        (wireEncode (fun _ => 0) overtaken.1.packet overtaken.2).2) :=
  eq_of_result (eq_ok_of_toOption (by decide +kernel))

end LiveInterest

/-- The content is set but not encoded: the packet answers the input once more. -/
theorem wireEncode_out_of_date :
    ¬ ∀ p : Process LiveData, p.Reachable → ∀ m ∈ p.members, ∀ blob d n',
      LiveData.wireEncode m.packet p.next = ((.ok blob, d), n') →
        m.log.received = some blob ∨ Wire.WireFormat.initial.encodeData d.toData = .ok blob := by
  intro h
  have hreceived : LiveData.overtaken.1.log.received = none := by decide +kernel
  have hcontent : (Wire.WireFormat.initial.encodeData
      (LiveData.wireEncode LiveData.overtaken.1.packet LiveData.overtaken.2).1.2.toData).toOption
      ≠ some ⟨LiveData.smallInput, 2, 16⟩ := by decide +kernel
  rcases h _ LiveData.overtaken_reachable _ List.mem_cons_self _ _ _ LiveData.wireEncode_overtaken
    with hr | he
  · rw [hreceived] at hr
    cases hr
  · exact hcontent (congrArg Except.toOption he)

/-- What the logs say about the answers after these runs, which are the inputs. After the setters the
Interest and the packet have another value. After its name was put back the packet has the value of
the input again, although that is none of its encodings. -/
theorem wireEncode_explained_overtaken :
    (LiveInterest.overtaken.1.log.escaped = true ∧ LiveInterest.overtaken.1.log.ask.overtaken = true
      ∧ LiveInterest.overtaken.1.log.Explains ⟨LiveInterest.smallInput, 4, 4⟩
        (∃ input, Wire.WireFormat.initial.decodeInterest input
          = .ok ((LiveInterest.wireEncode (fun _ => 0) LiveInterest.overtaken.1.packet
            LiveInterest.overtaken.2).1.2.toInterest, ⟨LiveInterest.smallInput, 4, 4⟩))
        (∃ random, Wire.WireFormat.initial.encodeInterest random
          (LiveInterest.wireEncode (fun _ => 0) LiveInterest.overtaken.1.packet
            LiveInterest.overtaken.2).1.2.toInterest = .ok ⟨LiveInterest.smallInput, 4, 4⟩))
      ∧ (LiveData.overtaken.1.log.escaped = true ∧ LiveData.overtaken.1.log.ask.overtaken = true
        ∧ LiveData.overtaken.1.log.Explains ⟨LiveData.smallInput, 2, 16⟩
          (∃ input, Wire.WireFormat.initial.decodeData input
            = .ok ((LiveData.wireEncode LiveData.overtaken.1.packet LiveData.overtaken.2).1.2.toData,
              ⟨LiveData.smallInput, 2, 16⟩))
          (Wire.WireFormat.initial.encodeData
            (LiveData.wireEncode LiveData.overtaken.1.packet LiveData.overtaken.2).1.2.toData
            = .ok ⟨LiveData.smallInput, 2, 16⟩))
      ∧ LiveData.restored.1.log.escaped = true ∧ LiveData.restored.1.log.ask.overtaken = false
      ∧ LiveData.restored.1.log.Explains ⟨LiveData.sparseInput, 2, 14⟩
        (∃ input, Wire.WireFormat.initial.decodeData input
          = .ok ((LiveData.wireEncode LiveData.restored.1.packet LiveData.restored.2).1.2.toData,
            ⟨LiveData.sparseInput, 2, 14⟩))
        (Wire.WireFormat.initial.encodeData
          (LiveData.wireEncode LiveData.restored.1.packet LiveData.restored.2).1.2.toData
          = .ok ⟨LiveData.sparseInput, 2, 14⟩)
      ∧ (Wire.WireFormat.initial.encodeData
          (LiveData.wireEncode LiveData.restored.1.packet LiveData.restored.2).1.2.toData).toOption
        ≠ some ⟨LiveData.sparseInput, 2, 14⟩ :=
  ⟨⟨by decide +kernel, by decide +kernel,
      (wireEncode_explained ⟨_, _, _⟩ ⟨0, [], []⟩).1 LiveInterest.overtaken_reachable _
        List.mem_cons_self _ _ _ _ LiveInterest.wireEncode_overtaken⟩,
    ⟨by decide +kernel, by decide +kernel,
      (wireEncode_explained ⟨0, [], []⟩ ⟨_, _, _⟩).2 LiveData.overtaken_reachable _
        List.mem_cons_self _ _ _ LiveData.wireEncode_overtaken⟩,
    by decide +kernel, by decide +kernel,
    (wireEncode_explained ⟨0, [], []⟩ ⟨_, _, _⟩).2 LiveData.restored_reachable _
      List.mem_cons_self _ _ _ LiveData.wireEncode_restored,
    by decide +kernel⟩

end NamedData
