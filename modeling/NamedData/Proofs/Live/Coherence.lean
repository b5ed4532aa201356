import NamedData.Proofs.Live.Effects

/-!
# What packets keep under a count

A packet keeps an encoding, and perhaps a nonce, with the count for which it holds. `Coherent` is the
invariant of all packets of a process, together with the ledger that goes with the process: what a
packet keeps under the count that it has is what the log says, and if no setter has been called under
which the count did not move, an encoding that is kept is one of the value that the owner of the parts
recalls. Each effect that an operation can have preserves it.

Both halves rest on the order of the counts. What is kept carries a count that the packet has had, and
a change that is noticed gives it one that had not been drawn before. A change in place that is not
noticed leaves the packet settled, and then its parts have the values that their owner recalls.
-/

namespace NamedData

open Observed Recalling Ledger LivePacket LawfulLivePacket

variable {σ τ π W : Type} [Checkable τ] [LivePacket σ τ π] [Observed τ W] [Recalling τ]
  [LawfulLivePacket σ]

/-- The value is what was decoded of an input of which these bytes were taken. -/
def Decodes (σ : Type) {τ π : Type} [LivePacket σ τ π] (v : π) (blob : Wire.SignedBlob) : Prop :=
  ∃ input, decode σ .initial input = .ok (v, blob)

/-- An encoding that a packet keeps is one of the value `v`, made or decoded, unless a setter was
called under which the count did not move. -/
def Log.Sources (σ : Type) {τ π W : Type} [LivePacket σ τ π] [Observed τ W] [Recalling τ]
    [LawfulLivePacket σ] (log : Log) (v : π) (blob : Wire.SignedBlob) : Prop :=
  log.overtaken = true ∨ log.heldInput = some blob ∧ Decodes σ v blob ∨ Encodes σ v blob

/-- What is kept for count `c` are the things of which `P` holds, and what is kept at all is kept for
no later count. -/
structure Kept {M : Type} (memo : Option (Stamped M)) (c : Count) (P : M → Prop) : Prop where
  le : ∀ s ∈ memo, s.count ≤ c
  iff : ∀ m, memo = some ⟨m, c⟩ ↔ P m

namespace Kept

variable {M : Type} {memo : Option (Stamped M)} {c c' : Count} {P P' : M → Prop}

theorem none (hP : ∀ m, ¬ P m) : Kept none c P where
  le _ hs := nomatch hs
  iff m := ⟨fun h => (nomatch h), fun h => absurd h (hP m)⟩

theorem some (m : M) (c : Count) : Kept (some ⟨m, c⟩) c (fun m' => some m = some m') where
  le s hs := by
    cases hs
    exact Nat.le_refl c
  iff m' := by
    constructor
    · rintro ⟨⟩
      rfl
    · rintro ⟨⟩
      rfl

theorem nonce (nonce : Bytes) (c : Count) :
    Kept (keptNonce nonce c) c (fun b => b ≠ [] ∧ nonce = b) where
  le _ hs := Nat.le_of_eq (count_of_mem_keptNonce hs)
  iff _ := keptNonce_eq_some

/-- Nothing that was kept holds once the count has moved. -/
theorem moved (h : Kept memo c P) (hlt : c < c') (hP : ∀ m, ¬ P' m) : Kept memo c' P' where
  le s hs := Nat.le_trans (h.le s hs) (Nat.le_of_lt hlt)
  iff m := ⟨fun hm => absurd (h.le _ hm) (Nat.not_le.2 hlt), fun hm => absurd hm (hP m)⟩

end Kept

/-- The packet with its log is as it can be when the next count is `n`, in a process with ledger
`L`. -/
structure Coherent (n : Count) (L : Ledger) (m : Traced σ) : Prop where
  drawn : Drawn n m.packet
  cached : Kept (cache m.packet) (ChangeCounted.count m.packet) fun b => m.log.held = some b
  nonce : Kept (nonce m.packet) (ChangeCounted.count m.packet) fun b =>
    b ≠ [] ∧ m.log.heldNonce = b
  not_settled : m.log.pending = true → ¬ Settled m.packet
  settled : m.log.pending = false →
    Settled m.packet ∨ m.log.held = none ∧ m.log.heldNonce = []
  recalled : ∃ w, Recalls L (parts m.packet) w
    ∧ ∀ b, m.log.held = some b → m.log.Sources σ (present m.packet w) b

namespace Coherent

variable {n n' : Count} {L L' : Ledger} {p p' : σ} {log : Log} {m : Traced σ} {w : W}
  {blob : Wire.SignedBlob}

/-- A new packet keeps nothing. -/
theorem ofNew (hdrawn : Drawn n p) (hcache : cache p = none) (hnonce : LawfulLivePacket.nonce p = none)
    (hrecalls : Recalls L (parts p) w) : Coherent n L (⟨p, []⟩ : Traced σ) where
  drawn := hdrawn
  cached := hcache ▸ .none fun _ hb => nomatch hb
  nonce := hnonce ▸ .none fun _ hb => hb.1 hb.2.symm
  not_settled h := nomatch h
  settled _ := .inr ⟨rfl, rfl⟩
  recalled := ⟨w, hrecalls, fun _ hb => nomatch hb⟩

/-- Others may draw counts. -/
theorem later (h : Coherent n L m) (hle : n ≤ n') (hagree : L.Agrees n L') : Coherent n' L' m where
  drawn := drawn_mono hle h.drawn
  cached := h.cached
  nonce := h.nonce
  not_settled := h.not_settled
  settled := h.settled
  recalled := by
    obtain ⟨w, hw, hsource⟩ := h.recalled
    exact ⟨w, Recalling.agree hw h.drawn.1 hagree, hsource⟩

/-- A settled packet has nothing pending. -/
theorem not_pending (h : Coherent n L m) (hs : Settled m.packet) : m.log.pending = false :=
  Bool.eq_false_iff.2 fun hpending => h.not_settled hpending hs

/-- What a settled packet keeps is an encoding of the value that it has. -/
theorem sources (h : Coherent n L m) (hs : Settled m.packet) (hheld : m.log.held = some blob) :
    m.log.Sources σ (present m.packet (value m.packet)) blob := by
  obtain ⟨w, hw, hsource⟩ := h.recalled
  exact (value_of_recalls hw h.drawn hs).symm ▸ hsource blob hheld

/-- So is what it answers. -/
theorem answer_sources (h : Coherent n L ⟨p, log⟩) (hs : Settled p) (hanswer : Answers p blob) :
    log.Sources σ (present p (value p)) blob := by
  cases hanswer with
  | kept hkept => exact h.sources hs ((h.cached.iff blob).1 hkept)
  | new _ hencodes => exact .inr (.inr hencodes)

/-- What is kept under the count is what is answered. -/
theorem answer_held (h : Coherent n L ⟨p, log⟩) (hanswer : Answers p blob) {b : Wire.SignedBlob}
    (hb : log.held = some b) : blob = b := by
  have hkept := (h.cached.iff b).2 hb
  cases hanswer with
  | kept hkept' => exact congrArg Stamped.value (Option.some.inj (hkept'.symm.trans hkept))
  | new hnone => exact absurd hkept (hnone b)

/-- If nothing is kept under the count the packet is encoded anew. -/
theorem answer_fresh (h : Coherent n L ⟨p, log⟩) (hanswer : Answers p blob)
    (hnone : log.held = none) : Encodes σ (present p (value p)) blob := by
  cases hanswer with
  | kept hkept =>
    rw [(h.cached.iff blob).1 hkept] at hnone
    cases hnone
  | new _ hencodes => exact hencodes

/-- A packet that has changes to take up is told to keep nothing once it has been asked. -/
theorem ask_of_not_settled (h : Coherent n L m) (hs : ¬ Settled m.packet) :
    m.log.ask.held = none ∧ m.log.ask.heldNonce = [] := by
  show (if m.log.pending = true then none else m.log.held) = none
    ∧ (if m.log.pending = true then [] else m.log.heldNonce) = []
  cases hpending : m.log.pending with
  | true => exact ⟨rfl, rfl⟩
  | false => exact (h.settled hpending).resolve_left hs

/-- A settled packet has nothing to take up. -/
theorem asked_of_settled (h : Coherent n L ⟨p, log⟩) (hs : Settled p)
    (hrecalls : Recalls L' (parts p) w) : Coherent n L' ⟨p, log.ask⟩ := by
  have hpending : log.pending ≠ true := Bool.eq_false_iff.1 (h.not_pending hs)
  have hheld : log.ask.held = log.held := if_neg hpending
  have hheldNonce : log.ask.heldNonce = log.heldNonce := if_neg hpending
  have hinput : log.ask.heldInput = log.heldInput := if_neg hpending
  have hovertaken : log.ask.overtaken = log.overtaken := by
    show (!log.pending && log.overtaken) = log.overtaken
    rw [Bool.eq_false_iff.2 hpending]
    rfl
  exact
    { drawn := h.drawn
      cached := hheld ▸ h.cached
      nonce := hheldNonce ▸ h.nonce
      not_settled := fun hp => nomatch hp
      settled := fun _ => .inl hs
      recalled := by
        refine ⟨w, hrecalls, fun b hb => ?_⟩
        rw [Log.Sources, hovertaken, hinput, ← value_of_recalls hrecalls h.drawn hs]
        exact h.sources hs (hheld ▸ hb) }

/-- A packet that was asked for its count keeps what it kept if it was settled, and nothing under its
new count otherwise. -/
theorem asked (h : Coherent n L ⟨p, log⟩) (hpolled : Polled n p n' p')
    (hrecalls : Recalls L' (parts p') w) : Coherent n' L' ⟨p', log.ask⟩ := by
  by_cases hs : Settled p
  · obtain ⟨rfl, rfl⟩ := hpolled.same hs
    exact h.asked_of_settled hs hrecalls
  · have hlt : ChangeCounted.count p < ChangeCounted.count p' :=
      Nat.lt_of_le_of_lt h.drawn.2 (hpolled.moved hs).1
    obtain ⟨hheld, hheldNonce⟩ := h.ask_of_not_settled hs
    have hnone : ∀ b, log.ask.held ≠ some b := fun b hb => nomatch hheld.symm.trans hb
    exact
      { drawn := hpolled.drawn
        cached := hpolled.cache_eq ▸ h.cached.moved hlt hnone
        nonce := hpolled.nonce_eq ▸ h.nonce.moved hlt fun b hb => hb.1 (hb.2.symm.trans hheldNonce)
        not_settled := fun hp => nomatch hp
        settled := fun _ => .inl hpolled.settled
        recalled := ⟨w, hrecalls, fun b hb => absurd hb (hnone b)⟩ }

/-- An answer is kept under the count that the packet has. -/
theorem encoded (h : Coherent n L ⟨p, log.ask⟩) (hs : Settled p) (hanswer : Answers p blob)
    (hle : n ≤ n') : Coherent n' L ⟨keeping p blob, .encoded blob :: log⟩ := by
  obtain ⟨w, hw, -⟩ := h.recalled
  have hvalue : value p = w := value_of_recalls hw h.drawn hs
  -- an answer that was there before has the source that it had when the packet was asked
  have hsource : Log.Sources σ (.encoded blob :: log) (present p w) blob := by
    rw [← hvalue]
    exact h.answer_sources hs hanswer
  exact
    { drawn := (drawn_withCache p _ n').2 (drawn_mono hle h.drawn)
      cached := cache_keeping p blob ▸ .some blob _
      nonce := by
        rw [keeping, count_withCache, nonce_withCache]
        exact h.nonce
      not_settled := fun hp => nomatch hp
      settled := fun _ => .inl ((settled_withCache p _).2 hs)
      recalled := by
        rw [keeping, parts_withCache]
        refine ⟨w, hw, fun b hb => ?_⟩
        cases hb
        rw [present_withCache]
        exact hsource }

section Decoded

variable {decoded : π}

/-- A decoded packet keeps its nonce and what was taken of the input. -/
theorem received {input : Bytes} (h : Replaced n p n' p' decoded)
    (hcache : cache p' = some ⟨blob, ChangeCounted.count p'⟩)
    (hdecode : decode σ .initial input = .ok (decoded, blob)) (hrecalls : Recalls L (parts p') w) :
    Coherent n' L ⟨p', .received blob (nonceOf σ decoded) :: log⟩ where
  drawn := h.drawn
  cached := hcache ▸ .some blob _
  nonce := h.nonce_eq ▸ .nonce _ _
  not_settled hp := nomatch hp
  settled _ := .inl h.settled
  recalled := by
    refine ⟨w, hrecalls, fun b hb => ?_⟩
    cases hb
    rw [← value_of_recalls hrecalls h.drawn h.settled, h.present_eq]
    exact .inr (.inl ⟨rfl, input, hdecode⟩)

theorem converted (h : Replaced n p n' p' decoded) (hcache : cache p' = none)
    (hrecalls : Recalls L (parts p') w) :
    Coherent n' L ⟨p', .converted (nonceOf σ decoded) :: log⟩ where
  drawn := h.drawn
  cached := hcache ▸ .none fun _ hb => nomatch hb
  nonce := h.nonce_eq ▸ .nonce _ _
  not_settled hp := nomatch hp
  settled _ := .inl h.settled
  recalled := ⟨w, hrecalls, fun _ hb => nomatch hb⟩

end Decoded

/-- What is kept under a count goes on to hold after a setter under which that did not move. -/
theorem set (h : Coherent n L ⟨p, log⟩) (hset : Assigned n p n' p')
    (hnonce : LawfulLivePacket.nonce p' = LawfulLivePacket.nonce p)
    (hrecalls : Recalls L' (parts p') w) :
    Coherent n' L' ⟨p', .set (ChangeCounted.count p' != ChangeCounted.count p) :: log⟩ := by
  by_cases hcount : ChangeCounted.count p' = ChangeCounted.count p
  · rw [bne_eq_false_iff_eq.2 hcount]
    have hsettled := hset.settled hcount
    exact
      { drawn := hset.drawn
        cached := by
          rw [hset.cache_eq, hcount]
          exact h.cached
        nonce := by
          rw [hnonce, hcount]
          exact h.nonce
        not_settled := fun hp hs => h.not_settled hp (hsettled.1 hs)
        settled := fun hp => (h.settled hp).imp_left hsettled.2
        recalled := ⟨w, hrecalls, fun _ _ => .inl rfl⟩ }
  · have hlt := hset.count_lt h.drawn hcount
    rw [bne_iff_ne.2 hcount]
    exact
      { drawn := hset.drawn
        cached := hset.cache_eq ▸ h.cached.moved hlt fun _ hb => nomatch hb
        nonce := hnonce ▸ h.nonce.moved hlt fun _ hb => hb.1 hb.2.symm
        not_settled := fun hp => nomatch hp
        settled := fun _ => .inr ⟨rfl, rfl⟩
        recalled := ⟨w, hrecalls, fun _ hb => nomatch hb⟩ }

/-- A nonce that is set is kept under the count that the packet has then. -/
theorem nonceSet (h : Coherent n L ⟨p, log⟩) (hset : Assigned n p n' p') (hs : Settled p')
    {bytes : Bytes}
    (hnonce : LawfulLivePacket.nonce p' = keptNonce bytes (ChangeCounted.count p'))
    (hrecalls : Recalls L' (parts p') w) :
    Coherent n' L' ⟨p', .nonceSet bytes (ChangeCounted.count p' != ChangeCounted.count p) :: log⟩ := by
  by_cases hcount : ChangeCounted.count p' = ChangeCounted.count p
  · rw [bne_eq_false_iff_eq.2 hcount]
    exact
      { drawn := hset.drawn
        cached := by
          rw [hset.cache_eq, hcount]
          exact h.cached
        nonce := hnonce ▸ .nonce bytes _
        not_settled := fun hp => nomatch hp
        settled := fun _ => .inl hs
        recalled := ⟨w, hrecalls, fun _ _ => .inl rfl⟩ }
  · have hlt := hset.count_lt h.drawn hcount
    rw [bne_iff_ne.2 hcount]
    exact
      { drawn := hset.drawn
        cached := hset.cache_eq ▸ h.cached.moved hlt fun _ hb => nomatch hb
        nonce := hnonce ▸ .nonce bytes _
        not_settled := fun hp => nomatch hp
        settled := fun _ => .inl hs
        recalled := ⟨w, hrecalls, fun _ hb => nomatch hb⟩ }

/-- The owner of a part that is changed in place recalls what it recalled before. -/
theorem edited [LawfulCheckable τ W] (h : Coherent n L ⟨p, log⟩) {q : τ}
    (hdrawn : Drawn n' (withParts p q (ChangeCounted.count p)))
    (hrecalls : ∀ w, Recalls L (parts p) w → ∃ L', L.Agrees n L' ∧ Recalls L' q w) :
    ∃ L', L.Agrees n L' ∧ Coherent n' L' ⟨withParts p q (ChangeCounted.count p),
      .edited (isPending (withParts p q (ChangeCounted.count p)) n') :: log⟩ := by
  have hpending := isPending_iff hdrawn
  obtain ⟨w, hw, hsource⟩ := h.recalled
  obtain ⟨L', hagree, hw'⟩ := hrecalls w hw
  refine ⟨L', hagree, ?_⟩
  exact
    { drawn := hdrawn
      cached := by
        rw [cache_withParts, count_withParts]
        exact h.cached
      nonce := by
        rw [nonce_withParts, count_withParts]
        exact h.nonce
      not_settled := fun hp => hpending.1 hp
      settled := fun hp => by
        by_cases hs : Settled (withParts p q (ChangeCounted.count p))
        · exact .inl hs
        · exact absurd (hpending.2 hs) (Bool.eq_false_iff.1 hp)
      recalled := by
        rw [parts_withParts]
        refine ⟨w, hw', fun b hb => ?_⟩
        show Log.Sources σ log (present (withParts p q (core.view p).count) w) b
        rw [present_withParts]
        exact hsource b hb }

end Coherent

/-! ## All runs -/

/-- Packets whose operations have one of the effects that operations can have, and whose parts stay
recalled. -/
class LawfulPacket (σ : Type) {τ π W : outParam Type} [Checkable τ] [LivePacket σ τ π] [Observed τ W]
    [Recalling τ] [LawfulLivePacket σ] [Packet σ] : Prop where
  created {n n' : Count} {L : Ledger} {name : Option LiveName} {p : σ}
    (hname : ∀ new ∈ name, (Item.part .name new).Holds n L)
    (hcreate : Packet.create name n = (p, n')) :
    n ≤ n' ∧ Drawn n' p ∧ cache p = none ∧ nonce p = none ∧ Recalled n L p
  effect {n : Count} {p : σ} {op : Packet.Operation σ} (hdrawn : Drawn n p)
    (huses : Packet.Uses n (.drawn n) op) :
    Effect n p (Packet.perform op p n).1.1 (Packet.perform op p n).2 (Packet.perform op p n).1.2
  remembers {n : Count} {L : Ledger} {p : σ} {w : W} {op : Packet.Operation σ} (hdrawn : Drawn n p)
    (hrecalls : Recalls L (parts p) w) (huses : Packet.Uses n (.entered n L) op) :
    Remembers n L w (Packet.perform op p n).1.1 (Packet.perform op p n).1.2
  shown {n : Count} {L : Ledger} {p : σ} {w : W} {x : Item} (hdrawn : Drawn n p)
    (hrecalls : Recalls L (parts p) w) (hx : x ∈ Packet.shown p) : x.Holds n L

omit [Checkable τ] in
/-- A name that is handed to a new packet takes the place of the one that it has. -/
theorem LawfulPacket.created_of_make {v : π} {place : Place τ (Tracked LiveName)}
    (hplace : place.Lawful) (hsplits : place.Splits)
    (hnew : ∀ n, cache (make v n : σ × Count).1 = none ∧ nonce (make v n : σ × Count).1 = none)
    {create : Option LiveName → Draws σ} (hnone : create none = make v)
    (hsome : ∀ new n, create (some new) n =
      let (p, n) := (make v n : σ × Count)
      let (t, n) := Tracked.make new n
      (withParts p (place.put t (parts p)) (core.view p).count, n))
    {n n' : Count} {L : Ledger} {name : Option LiveName} {p : σ}
    (hname : ∀ new ∈ name, (Item.part .name new).Holds n L) (hcreate : create name n = (p, n')) :
    n ≤ n' ∧ Drawn n' p ∧ cache p = none ∧ nonce p = none ∧ Recalled n L p := by
  obtain ⟨hcache, hnonce⟩ := hnew n
  rcases hmake : (make v n : σ × Count) with ⟨p₀, n₀⟩
  rw [hmake] at hcache hnonce
  cases name with
  | none =>
    rw [hnone, hmake] at hcreate
    cases hcreate
    obtain ⟨hle, hdrawn, hrecalled⟩ := recalled_make hmake L
    exact ⟨hle, hdrawn, hcache, hnonce, hrecalled⟩
  | some new =>
    rw [hsome, hmake] at hcreate
    cases hcreate
    obtain ⟨hle, hdrawn, hrecalled⟩ := recalled_make_put hplace hsplits hmake (hname new rfl) rfl
    exact ⟨hle, hdrawn, (cache_withParts _ _ _).trans hcache, (nonce_withParts _ _ _).trans hnonce,
      hrecalled⟩

variable [LawfulCheckable τ W]

/-- Each effect that an operation can have preserves the invariant. -/
theorem Coherent.effect {n n' : Count} {L : Ledger} {p p' : σ} {log : Log} {deed : Option Deed}
    (h : Coherent n L ⟨p, log⟩) (heffect : Effect n p deed n' p')
    (hremembers : ∀ w, Recalls L (parts p) w → Remembers n L w deed p') :
    ∃ L', L.Agrees n L' ∧ Coherent n' L' ⟨p', deed.toList ++ log⟩ := by
  obtain ⟨w, hw, -⟩ := h.recalled
  obtain ⟨L', w', hagree, hw', -⟩ := hremembers w hw
  cases heffect with
  | nothing hle => exact ⟨L, .refl, h.later hle .refl⟩
  | polled hpolled => exact ⟨L', hagree, h.asked hpolled hw'⟩
  | encoded hpolled hle hanswer =>
    rw [keeping, parts_withCache] at hw'
    exact ⟨L', hagree, (h.asked hpolled hw').encoded hpolled.settled hanswer hle⟩
  | received hreplaced hcache hdecode => exact ⟨L', hagree, received hreplaced hcache hdecode hw'⟩
  | converted hreplaced hcache => exact ⟨L', hagree, converted hreplaced hcache hw'⟩
  | set hset hnonce => exact ⟨L', hagree, h.set hset hnonce hw'⟩
  | nonceSet hset hs hnonce => exact ⟨L', hagree, h.nonceSet hset hs hnonce hw'⟩
  | edited hle hdrawn =>
    refine h.edited hdrawn fun w hw => ?_
    obtain ⟨L', w', hagree, hw', hsame⟩ := hremembers w hw
    obtain rfl := hsame _ rfl
    rw [parts_withParts] at hw'
    exact ⟨L', hagree, hw'⟩

variable [Packet σ] [LawfulPacket σ]

theorem coherent_preserved : Process.Preserved (Coherent (σ := σ)) where
  created {n _ L _ _} hname hcreate := by
    obtain ⟨hle, hdrawn, hcache, hnonce, L', w, hagree, hw⟩ := LawfulPacket.created hname hcreate
    exact ⟨hle, L', hagree, .ofNew hdrawn hcache hnonce hw⟩
  later h hle hagree := h.later hle hagree
  shown h hx := by
    obtain ⟨w, hw, -⟩ := h.recalled
    exact LawfulPacket.shown h.drawn hw hx
  act {n L m op} h huses := by
    have heffect := LawfulPacket.effect h.drawn
      (Packet.uses_mono (Stock.entered_le_drawn n L) huses)
    exact ⟨heffect.le, h.effect heffect fun w hw => LawfulPacket.remembers h.drawn hw huses⟩

/-- The invariant holds of all packets of all processes, and one ledger goes with all of a process. -/
theorem Process.Reachable.coherent {p : Process σ} (h : Reachable p) :
    ∃ L, (∀ x ∈ p.items, x.Holds p.next L) ∧ ∀ m ∈ p.members, Coherent p.next L m :=
  h.invariant coherent_preserved

end NamedData
