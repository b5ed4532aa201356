import NamedData.Proofs.Live.Cache

/-!
# Nonces that Interests answer

An Interest answers the nonce that was set last, or that came with the input decoded last, as long as
nothing has changed since, and an empty one otherwise. As with encodings there are changes that escape
it: after a setter of something else under which the count does not move, and after a part was put
back as it was, the Interest answers the nonce that it kept before.
-/

namespace NamedData

open Observed LivePacket LawfulLivePacket

namespace LiveInterest

variable {n : Count} {L : Ledger} {i : LiveInterest}

/-- The nonce that an Interest answers is the one that it keeps for its count. -/
theorem nonce_iff (i : LiveInterest) (b : Bytes) :
    LawfulLivePacket.nonce i = some ⟨b, i.count⟩ ↔ b ≠ [] ∧ i.toInterest.nonce = b := by
  show keptNonce i.nonce i.nonceCount = some ⟨b, i.count⟩
    ↔ b ≠ [] ∧ (if i.nonceCount = i.count then i.nonce else []) = b
  by_cases hcount : i.nonceCount = i.count
  · rw [hcount, if_pos rfl]
    exact keptNonce_eq_some
  · rw [if_neg hcount]
    constructor
    · intro hkept
      exact absurd (count_of_mem_keptNonce hkept).symm hcount
    · exact fun h => absurd h.2.symm h.1

/-- An Interest answers the nonce that its log tells. -/
theorem fields_nonce {m : Traced LiveInterest} (h : Coherent n L m) :
    (fields m.packet n).1.1.nonce = m.log.ask.heldNonce := by
  obtain ⟨i, log⟩ := m
  obtain ⟨w, hw, -⟩ := h.recalled
  obtain ⟨L', w', -, hw'⟩ := recalled_settle hw h.drawn.1
  have hasked := h.asked (polled h.drawn) hw'
  have hiff : ∀ b, b ≠ [] ∧ (fields i n).1.1.nonce = b ↔ b ≠ [] ∧ log.ask.heldNonce = b :=
    fun b => (nonce_iff _ b).symm.trans (hasked.nonce.iff b)
  by_cases hempty : log.ask.heldNonce = []
  · rw [hempty]
    by_cases hnonce : (fields i n).1.1.nonce = []
    · exact hnonce
    · exact absurd (((hiff _).1 ⟨hnonce, rfl⟩).2.symm.trans hempty) hnonce
  · exact ((hiff _).2 ⟨hempty, rfl⟩).2

end LiveInterest

/-- In the course of any run, the nonce that an Interest answers is the one set or decoded last with
no change since, unless the last change has escaped it and it kept another nonce before. The runs are
those of any number of Interests with their clones, whose parts are cloned, changed and put back in any
order. -/
theorem nonce_explained (p : Process LiveInterest) (hreach : p.Reachable)
    (m : Traced LiveInterest) (hm : m ∈ p.members) :
    (LiveInterest.fields m.packet p.next).1.1.nonce = m.log.ask.heldNonce
      ∧ ((LiveInterest.fields m.packet p.next).1.1.nonce = m.log.nonce
        ↔ (m.log.outlived = true → m.log.ask.heldNonce = [])) := by
  obtain ⟨L, -, hcoherent⟩ := hreach.coherent
  have hanswer := LiveInterest.fields_nonce (hcoherent m hm)
  refine ⟨hanswer, ?_⟩
  rw [hanswer]
  cases houtlived : m.log.outlived with
  | true =>
    rw [Log.nonce_of_outlived houtlived]
    exact ⟨fun h _ => h, fun h => h rfl⟩
  | false => exact ⟨fun _ h => (nomatch h), fun _ => Log.heldNonce_ask_of_not_outlived houtlived⟩

namespace LiveInterest

/-- A new Interest after an input was decoded. -/
def received : Traced LiveInterest × Count :=
  Process.actAll [Operation.wireDecode smallInput] (Process.created LiveInterest).1
    (Process.created LiveInterest).2

/-- The same Interest after its name was changed in place, and put back as it was. -/
def restored : Traced LiveInterest × Count :=
  Process.actAll [Operation.name .rename, .name (.assign received.1.packet.name.part)] received.1
    received.2

theorem restored_reachable :
    Process.Reachable
      ⟨restored.2, [.part .name received.1.packet.name.part], [restored.1]⟩ := by
  have hreceived : Process.Reachable ⟨received.2, [], [received.1]⟩ := by
    refine (Process.created_reachable _).actAll ?_
    simp [Packet.Uses, Operation.Uses]
  -- the name is cloned before it is changed
  refine (hreceived.expose List.mem_cons_self List.mem_cons_self).actAll ?_
  simp [Packet.Uses, Operation.Uses, Stamped.Change.rename, Stamped.Change.Uses, Stock.ofItems]

end LiveInterest

/-- After the setter, and after the name was put back, the Interest still answers the nonce that came
with the input. -/
theorem nonce_explained_overtaken :
    (LiveInterest.overtaken.1.log.nonce = []
      ∧ (LiveInterest.fields LiveInterest.overtaken.1.packet LiveInterest.overtaken.2).1.1.nonce
        = LiveInterest.overtaken.1.log.ask.heldNonce
      ∧ LiveInterest.overtaken.1.log.ask.heldNonce = [0x01, 0x02, 0x03, 0x04])
      ∧ LiveInterest.restored.1.log.nonce = []
      ∧ (LiveInterest.fields LiveInterest.restored.1.packet LiveInterest.restored.2).1.1.nonce
        = LiveInterest.restored.1.log.ask.heldNonce
      ∧ LiveInterest.restored.1.log.ask.heldNonce = [0x01, 0x02, 0x03, 0x04] := by
  have hovertaken := (nonce_explained _ LiveInterest.overtaken_reachable _ List.mem_cons_self).1
  have hrestored := (nonce_explained _ LiveInterest.restored_reachable _ List.mem_cons_self).1
  dsimp only at hovertaken hrestored
  exact ⟨⟨by decide +kernel, hovertaken, by decide +kernel⟩, by decide +kernel, hrestored,
    by decide +kernel⟩

/-- The nonce of an Interest outlives a change. -/
theorem nonce_outlives_setter :
    ¬ ∀ p : Process LiveInterest, p.Reachable → ∀ m ∈ p.members,
      (LiveInterest.fields m.packet p.next).1.1.nonce = m.log.nonce := by
  intro h
  have hclaim := h _ LiveInterest.overtaken_reachable _ List.mem_cons_self
  dsimp only at hclaim
  have hlog : LiveInterest.overtaken.1.log.nonce = [] := by decide +kernel
  have hanswer : (LiveInterest.fields LiveInterest.overtaken.1.packet
      LiveInterest.overtaken.2).1.1.nonce = [0x01, 0x02, 0x03, 0x04] := by decide +kernel
  rw [hanswer, hlog] at hclaim
  cases hclaim

end NamedData
