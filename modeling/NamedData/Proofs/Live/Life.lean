import NamedData.Proofs.Live.Interest

/-!
# Lives of packets

A packet is made, operated on and asked for its count, while others draw counts; it keeps a list of
the counts that it has answered. Its own count never goes back (`Effect.advanced`), whatever its
operations are handed, so that it stays above all of these (`Life.alive`). Here the objects that are
handed to operations need only exist; nothing is said about how they came about.
-/

namespace NamedData

open Observed Recorded LivePacket LawfulLivePacket

variable {σ τ π W : Type} [Checkable τ] [LivePacket σ τ π] [Observed τ W] [Recalling τ]
  [LawfulLivePacket σ]

/-! ## Counts of packets advance -/

section Advanced

variable {n n' : Count} {p p' : σ}

/-- Packet `p'` at count `n'` is what an operation on packet `p` can leave behind: its count was not
taken back, and no nonce is kept for a count that it does not have yet. -/
structure Advanced (p : σ) (n' : Count) (p' : σ) : Prop where
  drawn : Drawn n' p'
  count_le : ChangeCounted.count p ≤ ChangeCounted.count p'
  nonce_le : ∀ b ∈ nonce p', b.count ≤ ChangeCounted.count p'

namespace Advanced

/-- The packet keeps the nonce that it has. -/
theorem ofKept (hold : ∀ b ∈ nonce p, b.count ≤ ChangeCounted.count p) (hdrawn : Drawn n' p')
    (hcount : ChangeCounted.count p ≤ ChangeCounted.count p') (hnonce : nonce p' = nonce p) :
    Advanced p n' p' where
  drawn := hdrawn
  count_le := hcount
  nonce_le b hb := Nat.le_trans (hold b (hnonce ▸ hb)) hcount

/-- The packet gets a nonce together with its count. -/
theorem ofNew {bytes : Bytes} (hdrawn : Drawn n' p')
    (hcount : ChangeCounted.count p ≤ ChangeCounted.count p')
    (hnonce : nonce p' = keptNonce bytes (ChangeCounted.count p')) : Advanced p n' p' where
  drawn := hdrawn
  count_le := hcount
  nonce_le _ hb := Nat.le_of_eq (count_of_mem_keptNonce (hnonce ▸ hb))

end Advanced

variable [LawfulCheckable τ W]

omit [Recalling τ] [LawfulLivePacket σ] in
/-- A packet that is replaced does not take back the count that it has. -/
theorem count_le_answer [LawfulCore σ] (hdrawn : Drawn n p) :
    ChangeCounted.count p ≤ (changeCount p n).1.1 :=
  (polled hdrawn).count_le hdrawn.2

/-- Every effect advances the packet. -/
theorem Effect.advanced {deed : Option Deed} (h : Effect n p deed n' p') (hdrawn : Drawn n p)
    (hold : ∀ b ∈ nonce p, b.count ≤ ChangeCounted.count p) : Advanced p n' p' := by
  have hanswer := count_le_answer hdrawn
  have hcount := hdrawn.2
  cases h with
  | nothing hle => exact .ofKept hold (drawn_mono hle hdrawn) (Nat.le_refl _) rfl
  | polled h => exact .ofKept hold h.drawn (h.count_le hcount) h.nonce_eq
  | encoded h hle =>
    refine .ofKept hold ((drawn_withCache _ _ _).2 (drawn_mono hle h.drawn)) ?_
      ((nonce_withCache _ _).trans h.nonce_eq)
    exact Nat.le_trans (h.count_le hcount) (Nat.le_of_eq (count_withCache _ _).symm)
  | received h | converted h =>
    exact .ofNew h.drawn (Nat.le_of_lt (Nat.lt_of_le_of_lt hanswer h.answer_lt)) h.nonce_eq
  | set h hnonce => exact .ofKept hold h.drawn (Nat.le_trans hcount h.le) hnonce
  | nonceSet h _ hnonce => exact .ofNew h.drawn (Nat.le_trans hcount h.le) hnonce
  | edited _ hdrawn' =>
    exact .ofKept hold hdrawn' (Nat.le_of_eq (count_withParts _ _ _).symm) (nonce_withParts _ _ _)

end Advanced

/-! ## Lives -/

section Life

/-- Packet `p` can be there when the next count is `n`, after it has answered the counts `reported`
when it was asked for them. A clone starts with the life of the packet that was cloned. -/
inductive Life {σ V : Type} [ChangeCounted σ] [Observed σ V] [Packet σ] :
    (reported : List Count) → (n : Count) → (p : σ) → Prop where
  | create {n n' : Count} {p : σ} (name : Option LiveName) (hname : ∀ new ∈ name, Drawn n new)
      (hcreate : Packet.create name n = (p, n')) : Life [] n' p
  /-- Something else draws counts. -/
  | draw {reported : List Count} {n n' : Count} {p : σ} (h : Life reported n p) (hle : n ≤ n') :
      Life reported n' p
  | report {reported : List Count} {n : Count} {p : σ} (h : Life reported n p) :
      Life ((changeCount p n).1.1 :: reported) (changeCount p n).2 (changeCount p n).1.2
  | act {reported : List Count} {n : Count} {p : σ} (op : Packet.Operation σ)
      (h : Life reported n p) (huses : Packet.Uses n (.drawn n) op) :
      Life reported (Packet.perform op p n).2 (Packet.perform op p n).1.2

/-- What holds of a packet at every time of its life. -/
structure Alive (reported : List Count) (n : Count) (p : σ) : Prop where
  drawn : Drawn n p
  reported_le : ∀ c ∈ reported, c ≤ ChangeCounted.count p
  nonce_le : ∀ b ∈ nonce p, b.count ≤ ChangeCounted.count p

theorem Alive.advance {reported : List Count} {n n' : Count} {p p' : σ} (h : Alive reported n p)
    (hp : Advanced p n' p') : Alive reported n' p' where
  drawn := hp.drawn
  reported_le c hc := Nat.le_trans (h.reported_le c hc) hp.count_le
  nonce_le := hp.nonce_le

variable [Packet σ] [LawfulPacket σ]

/-- A new packet has no nonce. A name that exists stands for its value in some ledger. -/
theorem alive_create {n n' : Count} {name : Option LiveName} {p : σ}
    (hname : ∀ new ∈ name, Drawn n new) (hcreate : Packet.create name n = (p, n')) :
    Alive [] n' p := by
  have hholds : ∃ L : Ledger, ∀ new ∈ name, (Item.part .name new).Holds n L := by
    cases name with
    | none => exact ⟨fun _ => none, fun new hnew => nomatch hnew⟩
    | some new =>
      refine ⟨Ledger.record (fun _ => none) new.count new.value, fun new' hnew => ?_⟩
      cases hnew
      exact ⟨hname new rfl, Ledger.says_record _ _ _⟩
  obtain ⟨L, hholds⟩ := hholds
  obtain ⟨-, hdrawn, -, hnonce, -⟩ := LawfulPacket.created hholds hcreate
  exact ⟨hdrawn, fun c hc => (nomatch hc), fun b hb => nomatch hnonce ▸ hb⟩

theorem Life.alive [LawfulCheckable τ W] {reported : List Count} {n : Count} {p : σ} (h : Life reported n p) :
    Alive reported n p := by
  induction h with
  | create name hname hcreate => exact alive_create hname hcreate
  | draw _ hle ih => exact ⟨drawn_mono hle ih.drawn, ih.reported_le, ih.nonce_le⟩
  | report _ ih =>
    have hasked : Effect _ _ (some .asked) _ _ := .polled (polled ih.drawn)
    obtain ⟨hdrawn, hreported, hnonce⟩ := ih.advance (hasked.advanced ih.drawn ih.nonce_le)
    refine ⟨hdrawn, fun c hc => ?_, hnonce⟩
    rcases List.mem_cons.1 hc with rfl | hc
    · exact Nat.le_refl _
    · exact hreported c hc
  | act op _ huses ih =>
    exact ih.advance ((LawfulPacket.effect ih.drawn huses).advanced ih.drawn ih.nonce_le)

end Life

end NamedData
