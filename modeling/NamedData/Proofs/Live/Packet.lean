import NamedData.Proofs.Live.History

/-!
# What operations do to packets

Packets of all kinds differ in their parts, in what they keep besides their core and in their values
(`LawfulLivePacket`). What their operations do is the same: `Effect` says once what an operation can
leave behind, and each operation that packets share has one of these effects. `Remembers` goes with
it: after an operation the packet still recalls values of its parts in a ledger that has grown, and
the same values if the operation was a change in place.
-/

namespace NamedData

open Observed Recalling

/-! ## Packets and their cores -/

/-- A nonce that is kept with a count. -/
def keptNonce (nonce : Bytes) (count : Count) : Option (Stamped Bytes) :=
  if nonce.isEmpty then none else some ⟨nonce, count⟩

theorem keptNonce_eq_some {nonce b : Bytes} {count : Count} :
    keptNonce nonce count = some ⟨b, count⟩ ↔ b ≠ [] ∧ nonce = b := by
  cases nonce with
  | nil =>
    constructor
    · exact fun h => nomatch h
    · exact fun h => absurd h.2.symm h.1
  | cons x xs =>
    constructor
    · rintro ⟨⟩
      exact ⟨List.cons_ne_nil x xs, rfl⟩
    · rintro ⟨-, rfl⟩
      rfl

theorem count_of_mem_keptNonce {nonce : Bytes} {count : Count} {s : Stamped Bytes}
    (h : s ∈ keptNonce nonce count) : s.count = count := by
  unfold keptNonce at h
  split at h
  · cases h
  · cases h
    rfl

theorem CachedEncoding.lookup_eq_some {cache : Option CachedEncoding} {count : Count}
    {blob : Wire.SignedBlob} : lookup cache count = some blob ↔ cache = some ⟨blob, count⟩ := by
  cases cache with
  | none => exact ⟨fun h => (nomatch h), fun h => (nomatch h)⟩
  | some cached =>
    obtain ⟨b, c⟩ := cached
    show (if c = count then some b else none) = some blob ↔ some (Stamped.mk b c) = some ⟨blob, count⟩
    split <;> simp_all

namespace LivePacket

variable {σ τ π : Type} [LivePacket σ τ π]

/-- The parts of a packet. -/
def parts (p : σ) : τ :=
  (core.view p).parts

/-- The encoding that a packet keeps, and the count for which it holds. -/
def cache (p : σ) : Option CachedEncoding :=
  (core.view p).cache

/-- The packet with other parts and another count. -/
def withParts (p : σ) (parts : τ) (count : Count) : σ :=
  core.put { core.view p with parts, count } p

/-- The packet with another encoding or none. -/
def withCache (p : σ) (cache : Option CachedEncoding) : σ :=
  core.put { core.view p with cache } p

/-- The packet with an encoding that holds for its count. -/
def keeping (p : σ) (blob : Wire.SignedBlob) : σ :=
  withCache p (some ⟨blob, (core.view p).count⟩)

end LivePacket

open LivePacket

/-- Packets that are made of a core and other things. -/
class LawfulCore (σ : Type) {τ π : outParam Type} [LivePacket σ τ π] : Prop where
  view_put (c : Core τ) (p : σ) : core.view (core.put c p) = c
  put_view (p : σ) : core.put (core.view p) p = p
  view_recount (count : Count) (p : σ) :
    core.view (recount count p) = { core.view p with count }

open LawfulCore

section Core

variable {σ τ π : Type} [LivePacket σ τ π] [LawfulCore σ]

theorem view_withParts (p : σ) (q : τ) (count : Count) :
    core.view (withParts p q count) = { core.view p with parts := q, count } :=
  view_put _ p

theorem view_withCache (p : σ) (c : Option CachedEncoding) :
    core.view (withCache p c) = { core.view p with cache := c } :=
  view_put _ p

@[simp] theorem parts_withParts (p : σ) (q : τ) (count : Count) :
    parts (withParts p q count) = q := by
  rw [parts, view_withParts]

@[simp] theorem cache_withParts (p : σ) (q : τ) (count : Count) :
    cache (withParts p q count) = cache p := by
  rw [cache, view_withParts, cache]

@[simp] theorem parts_withCache (p : σ) (c : Option CachedEncoding) :
    parts (withCache p c) = parts p := by
  rw [parts, view_withCache, parts]

@[simp] theorem cache_withCache (p : σ) (c : Option CachedEncoding) :
    cache (withCache p c) = c := by
  rw [cache, view_withCache]

@[simp] theorem parts_recount (count : Count) (p : σ) : parts (recount count p) = parts p := by
  rw [parts, view_recount, parts]

variable [Checkable τ]

@[simp] theorem count_withParts (p : σ) (q : τ) (count : Count) :
    ChangeCounted.count (withParts p q count) = count := by
  show (core.view (withParts p q count)).count = count
  rw [view_withParts]

@[simp] theorem count_withCache (p : σ) (c : Option CachedEncoding) :
    ChangeCounted.count (withCache p c) = ChangeCounted.count p := by
  show (core.view (withCache p c)).count = (core.view p).count
  rw [view_withCache]

theorem cache_keeping (p : σ) (blob : Wire.SignedBlob) :
    cache (keeping p blob) = some ⟨blob, ChangeCounted.count (keeping p blob)⟩ := by
  rw [keeping, cache_withCache, count_withCache]
  rfl

@[simp] theorem count_recount (count : Count) (p : σ) :
    ChangeCounted.count (recount count p) = count := by
  show (core.view (recount count p)).count = count
  rw [view_recount]

theorem keeping_of_kept {p : σ} {blob : Wire.SignedBlob}
    (h : cache p = some ⟨blob, ChangeCounted.count p⟩) : keeping p blob = p := by
  show withCache p (some ⟨blob, ChangeCounted.count p⟩) = p
  rw [← h]
  exact put_view p

end Core

/-! ## What is observed of packets -/

namespace LivePacket

variable {σ τ π : Type} [LivePacket σ τ π]

variable {W : Type} [Observed τ W]

/-- What is observed of a packet are its parts; whatever else it has does not change by itself. -/
instance (priority := low) : Observed σ W where
  value p := value (parts p)
  Drawn n p := Drawn n (parts p) ∧ (core.view p).count ≤ n
  Settled p := Settled (parts p)
  drawn_mono hle h := ⟨drawn_mono hle h.1, Nat.le_trans h.2 hle⟩

end LivePacket

section Observed

variable {σ τ π W : Type} [LivePacket σ τ π] [Observed τ W] [LawfulCore σ]

@[simp] theorem value_withParts (p : σ) (q : τ) (count : Count) :
    value (withParts p q count) = value q :=
  congrArg value (parts_withParts p q count)

@[simp] theorem settled_withParts (p : σ) (q : τ) (count : Count) :
    Settled (withParts p q count) ↔ Settled q := by
  show Settled (parts (withParts p q count)) ↔ Settled q
  rw [parts_withParts]

@[simp] theorem drawn_withParts (p : σ) (q : τ) (count n : Count) :
    Drawn n (withParts p q count) ↔ Drawn n q ∧ count ≤ n := by
  show Drawn n (parts (withParts p q count)) ∧ (core.view (withParts p q count)).count ≤ n ↔ _
  rw [parts_withParts, view_withParts]

@[simp] theorem value_withCache (p : σ) (c : Option CachedEncoding) :
    value (withCache p c) = value p := by
  show value (parts (withCache p c)) = value (parts p)
  rw [parts_withCache]

@[simp] theorem settled_withCache (p : σ) (c : Option CachedEncoding) :
    Settled (withCache p c) ↔ Settled p := by
  show Settled (parts (withCache p c)) ↔ Settled (parts p)
  rw [parts_withCache]

@[simp] theorem drawn_withCache (p : σ) (c : Option CachedEncoding) (n : Count) :
    Drawn n (withCache p c) ↔ Drawn n p := by
  show Drawn n (parts (withCache p c)) ∧ (core.view (withCache p c)).count ≤ n ↔ _
  rw [parts_withCache, view_withCache]
  rfl

@[simp] theorem value_recount (count : Count) (p : σ) : value (recount count p) = value p := by
  show value (parts (recount count p)) = value (parts p)
  rw [parts_recount]

@[simp] theorem settled_recount (count : Count) (p : σ) :
    Settled (recount count p) ↔ Settled p := by
  show Settled (parts (recount count p)) ↔ Settled (parts p)
  rw [parts_recount]

@[simp] theorem drawn_recount (count n : Count) (p : σ) :
    Drawn n (recount count p) ↔ Drawn n (parts p) ∧ count ≤ n := by
  show Drawn n (parts (recount count p)) ∧ (core.view (recount count p)).count ≤ n ↔ _
  rw [parts_recount, view_recount]

end Observed

/-- The parts of a settled packet have the values that are recalled of them. -/
theorem value_of_recalls {σ τ π W : Type} [LivePacket σ τ π] [Observed τ W] [Recalling τ] {n : Count}
    {L : Ledger} {p : σ} {w : W} (h : Recalls L (parts p) w) (hdrawn : Drawn n p) (hs : Settled p) :
    value p = w :=
  Recalling.value_eq (p := parts p) h hdrawn.1 hs

/-- Packets of which is known what they have besides their core. -/
class LawfulLivePacket (σ : Type) {τ π W : outParam Type} [LivePacket σ τ π] [Observed τ W]
    [Recalling τ] extends LawfulCore σ where
  /-- The nonce, unless it is empty, and the count for which it holds. -/
  nonce : σ → Option (Stamped Bytes)
  nonce_put (c : Core τ) (p : σ) : nonce (core.put c p) = nonce p
  /-- The value of the packet at the moment, if its parts have the given values. -/
  present : σ → W → π
  present_put {c : Core τ} {p : σ} (h : c.count = (core.view p).count) (w : W) :
    present (core.put c p) w = present p w
  /-- The encodings of a value in the initial format. -/
  Encodes : π → Wire.SignedBlob → Prop
  /-- The nonce of a value. -/
  nonceOf : π → Bytes
  /-- The values of the parts of a value. -/
  partsOf : π → W
  /-- The parts are made before the count is drawn. -/
  built {v : π} {n n' : Count} {p : σ} (h : make v n = (p, n')) :
    Built n (partsOf v) (core.view p).count (parts p) ∧ n' = (core.view p).count + 1
  nonce_recount {v : π} {n n' : Count} {p : σ} (h : make v n = (p, n')) (count : Count) :
    nonce (recount count p) = keptNonce (nonceOf v) count
  present_recount {v : π} {n n' : Count} {p : σ} (h : make v n = (p, n')) (count : Count) :
    present (recount count p) (partsOf v) = v

open LawfulLivePacket

section Besides

variable {σ τ π W : Type} [LivePacket σ τ π] [Observed τ W] [Recalling τ] [LawfulLivePacket σ]

@[simp] theorem nonce_withParts (p : σ) (q : τ) (count : Count) :
    nonce (withParts p q count) = nonce p :=
  nonce_put _ p

@[simp] theorem nonce_withCache (p : σ) (c : Option CachedEncoding) :
    nonce (withCache p c) = nonce p :=
  nonce_put _ p

theorem present_withParts (p : σ) (q : τ) (w : W) :
    present (withParts p q (core.view p).count) w = present p w :=
  present_put (c := { core.view p with parts := q }) rfl w

@[simp] theorem present_withCache (p : σ) (c : Option CachedEncoding) (w : W) :
    present (withCache p c) w = present p w :=
  present_put (c := { core.view p with cache := c }) rfl w

end Besides

variable {σ τ π W : Type} [Checkable τ] [LivePacket σ τ π] [Observed τ W]

/-! ## Asking for the count -/

section Settle

variable {n n' : Count} {p p' : σ}

/-- The parts are looked at, and a count is drawn if any has changed. -/
theorem Core.settle_apply (c : Core τ) (n : Count) :
    Core.settle c n =
      (((), { c with
          parts := (Checkable.check c.parts n).1.2
          count := if (Checkable.check c.parts n).1.1 then (Checkable.check c.parts n).2
            else c.count }),
        if (Checkable.check c.parts n).1.1 then (Checkable.check c.parts n).2 + 1
        else (Checkable.check c.parts n).2) := by
  show (ite ((Checkable.check c.parts n).1.1 = true) touch (pure ()) : Edit (Core τ) Unit) _ _ = _
  rw [ite_edit_apply]
  cases (Checkable.check c.parts n).1.1 <;> rfl

theorem settle_apply (p : σ) (n : Count) :
    ChangeCounted.settle p n =
      (((), withParts p (Checkable.check (parts p) n).1.2
          (if (Checkable.check (parts p) n).1.1 then (Checkable.check (parts p) n).2
            else ChangeCounted.count p)),
        if (Checkable.check (parts p) n).1.1 then (Checkable.check (parts p) n).2 + 1
        else (Checkable.check (parts p) n).2) := by
  show (core : Place σ (Core τ)).on Core.settle p n = _
  rw [Place.on_apply, Core.settle_apply]
  rfl

/-- Packet `p'` at count `n'` is what asking packet `p` for its count at `n` leaves behind. -/
structure Polled (n : Count) (p : σ) (n' : Count) (p' : σ) : Prop extends Looked n p n' p' where
  moved : ¬ Settled p → n < ChangeCounted.count p' ∧ ChangeCounted.count p' + 1 = n'
  cache_eq : cache p' = cache p
  put_eq : core.put (core.view p') p = p'

namespace Polled

/-- A packet whose count has been drawn still has one that has been drawn once it was asked for it. -/
theorem count_lt (h : Polled n p n' p') (hcount : ChangeCounted.count p < n) :
    ChangeCounted.count p' < n' := by
  by_cases hs : Settled p
  · rw [(h.same hs).1, (h.same hs).2]
    exact hcount
  · exact Nat.le_of_eq (h.moved hs).2

/-- A packet does not take its count back when it is asked for it. -/
theorem count_le (h : Polled n p n' p') (hcount : ChangeCounted.count p ≤ n) :
    ChangeCounted.count p ≤ ChangeCounted.count p' := by
  by_cases hs : Settled p
  · exact Nat.le_of_eq (congrArg ChangeCounted.count (h.same hs).1.symm)
  · exact Nat.le_trans hcount (Nat.le_of_lt (h.moved hs).1)

/-- A count raised above the one that a packet answers is the next of the sequence if and only if the
packet had changes to take up. -/
theorem raised_eq_iff (h : Polled n p n' p') (hcount : ChangeCounted.count p + 1 < n)
    {fresh : Count} (hfresh : fresh < n) :
    max fresh (ChangeCounted.count p' + 1) = n' ↔ ¬ Settled p := by
  constructor
  · intro heq hs
    rw [(h.same hs).1, (h.same hs).2] at heq
    exact Nat.ne_of_lt (Nat.max_lt.2 ⟨hfresh, hcount⟩) heq
  · intro hs
    rw [(h.moved hs).2]
    exact Nat.max_eq_right (Nat.le_trans (Nat.le_of_lt hfresh) h.le)

end Polled

variable [LawfulCore σ] [LawfulCheckable τ W]

theorem polled (hdrawn : Drawn n p) :
    Polled n p (ChangeCounted.settle p n).2 (ChangeCounted.settle p n).1.2 := by
  have hparts := LawfulCheckable.checked hdrawn.1
  have hself : withParts p (parts p) (core.view p).count = p := put_view p
  have hdrawn' : Drawn n (withParts p (parts p) (core.view p).count) := hself.symm ▸ hdrawn
  have hlook := Looked.ofChecked (withParts p) (settled_withParts p)
    (fun m q c hq hc => (drawn_withParts p q c m).2 ⟨hq, Nat.le_of_lt hc⟩)
    (fun q q' c c' hvalue => by rw [value_withParts, value_withParts, hvalue])
    (count_withParts p) hdrawn' hparts
  rw [hself] at hlook
  rw [settle_apply]
  refine ⟨hlook, fun hs => ?_, cache_withParts _ _ _, ?_⟩
  · rw [count_withParts]
    exact hparts.moved _ hs
  · rw [view_withParts]
    rfl

instance (priority := low) : LawfulObserved σ W where
  count_le h := h.2
  looked hdrawn := (polled hdrawn).toLooked
  settle_le hle hdrawn := by
    rw [settle_apply, settle_apply]
    exact draw_le_draw (LawfulCheckable.check_le hle hdrawn.1)

/-- A packet that is not settled would answer another count than it has. -/
theorem isPending_iff (hdrawn : Drawn n p) : isPending p n = true ↔ ¬ Settled p := by
  have hp := polled hdrawn
  show ((ChangeCounted.count (ChangeCounted.settle p n).1.2 != ChangeCounted.count p) = true) ↔ _
  rw [bne_iff_ne]
  constructor
  · intro hne hs
    rw [(hp.same hs).1] at hne
    exact hne rfl
  · intro hs heq
    have hlt := (hp.moved hs).1
    rw [heq] at hlt
    exact Nat.lt_irrefl _ (Nat.lt_of_lt_of_le hlt hdrawn.2)

/-- A packet that is asked for its count later answers no earlier one. -/
theorem changeCount_le {m : Count} (hle : n ≤ m) (hdrawn : Drawn n p) :
    (changeCount p n).1.1 ≤ (changeCount p m).1.1 := by
  have h := polled hdrawn
  have h' := polled (drawn_mono hle hdrawn)
  rw [changeCount_apply, changeCount_apply]
  by_cases hs : Settled p
  · exact Nat.le_of_eq (by rw [(h.same hs).1, (h'.same hs).1])
  · have hlater := LawfulObserved.settle_le hle hdrawn
    have hlast := (h.moved hs).2
    have hlast' := (h'.moved hs).2
    rw [← hlast, ← hlast'] at hlater
    exact Nat.le_of_succ_le_succ hlater

end Settle

/-! ## Effects -/

section Effect

variable [Recalling τ] [LawfulLivePacket σ]

theorem Polled.nonce_eq {n n' : Count} {p p' : σ} (h : Polled n p n' p') : nonce p' = nonce p :=
  h.put_eq ▸ nonce_put _ p

/-- Packet `p'` at count `n'` is what a setter of packet `p` at `n` leaves behind. -/
structure Assigned (n : Count) (p : σ) (n' : Count) (p' : σ) : Prop where
  drawn : Drawn n' p'
  le : n ≤ ChangeCounted.count p'
  lt : ChangeCounted.count p' < n'
  settled : ChangeCounted.count p' = ChangeCounted.count p → (Settled p' ↔ Settled p)
  cache_eq : cache p' = cache p

omit [Recalling τ] [LawfulLivePacket σ] in
/-- A setter that moves the count moves it on. -/
theorem Assigned.count_lt {n n' : Count} {p p' : σ} (h : Assigned n p n' p') (hdrawn : Drawn n p)
    (hne : ChangeCounted.count p' ≠ ChangeCounted.count p) :
    ChangeCounted.count p < ChangeCounted.count p' :=
  Nat.lt_of_le_of_ne (Nat.le_trans hdrawn.2 h.le) hne.symm

omit [Recalling τ] [LawfulLivePacket σ] in
/-- A setter may ask the packet for its count at the end. -/
theorem Assigned.polled {n n₁ n' : Count} {p p₁ p' : σ} (h : Assigned n p n₁ p₁) (hdrawn : Drawn n p)
    (hpolled : Polled n₁ p₁ n' p') : Assigned n p n' p' where
  drawn := hpolled.drawn
  le := Nat.le_trans h.le (hpolled.count_le h.drawn.2)
  lt := hpolled.count_lt h.lt
  settled hcount := by
    refine ⟨fun _ => ?_, fun _ => hpolled.settled⟩
    by_cases hs : Settled p₁
    · rw [(hpolled.same hs).1] at hcount
      exact (h.settled hcount).1 hs
    · -- a count drawn after the setter's own is none that the packet has had
      have hlt := Nat.lt_trans h.lt (hpolled.moved hs).1
      rw [hcount] at hlt
      exact absurd (Nat.le_trans hdrawn.2 h.le) (Nat.not_le.2 hlt)
  cache_eq := hpolled.cache_eq.trans h.cache_eq

/-- Packet `p'` at count `n'` is what putting a decoded value in the place of packet `p` at `n` leaves
behind. It answers a later count than the packet would have answered. -/
structure Replaced (n : Count) (p : σ) (n' : Count) (p' : σ) (decoded : π) : Prop where
  settled : Settled p'
  drawn : Drawn n' p'
  le : n ≤ n'
  answer_lt : (changeCount p n).1.1 < ChangeCounted.count p'
  nonce_eq : nonce p' = keptNonce (nonceOf σ decoded) (ChangeCounted.count p')
  present_eq : present p' (value p') = decoded

/-- A packet that was asked for its count answers an encoding that it keeps, or else a new one. -/
inductive Answers (p : σ) (blob : Wire.SignedBlob) : Prop where
  | kept (h : cache p = some ⟨blob, ChangeCounted.count p⟩)
  | new (hnone : ∀ b, cache p ≠ some ⟨b, ChangeCounted.count p⟩)
    (hencodes : Encodes σ (present p (value p)) blob)

/-- What an operation on packet `p` at count `n` can leave behind, and what it writes into the
log. -/
inductive Effect (n : Count) (p : σ) : Option Deed → Count → σ → Prop where
  | nothing {n' : Count} (hle : n ≤ n') : Effect n p none n' p
  | polled {n' : Count} {p' : σ} (h : Polled n p n' p') : Effect n p (some .asked) n' p'
  | encoded {n₁ n' : Count} {p₁ : σ} {blob : Wire.SignedBlob} (h : Polled n p n₁ p₁)
      (hle : n₁ ≤ n') (hanswer : Answers p₁ blob) :
      Effect n p (some (.encoded blob)) n' (keeping p₁ blob)
  | received {n' : Count} {p' : σ} {decoded : π} {blob : Wire.SignedBlob} {input : Bytes}
      (h : Replaced n p n' p' decoded) (hcache : cache p' = some ⟨blob, ChangeCounted.count p'⟩)
      (hdecode : decode σ .initial input = .ok (decoded, blob)) :
      Effect n p (some (.received blob (nonceOf σ decoded))) n' p'
  | converted {n' : Count} {p' : σ} {decoded : π} (h : Replaced n p n' p' decoded)
      (hcache : cache p' = none) : Effect n p (some (.converted (nonceOf σ decoded))) n' p'
  | set {n' : Count} {p' : σ} (h : Assigned n p n' p') (hnonce : nonce p' = nonce p) :
      Effect n p (some (.set (ChangeCounted.count p' != ChangeCounted.count p))) n' p'
  | nonceSet {n' : Count} {p' : σ} {bytes : Bytes} (h : Assigned n p n' p') (hsettled : Settled p')
      (hnonce : nonce p' = keptNonce bytes (ChangeCounted.count p')) :
      Effect n p (some (.nonceSet bytes (ChangeCounted.count p' != ChangeCounted.count p))) n' p'
  | edited {n' : Count} {q : τ} (hle : n ≤ n')
      (hdrawn : Drawn n' (withParts p q (ChangeCounted.count p))) :
      Effect n p (some (.edited (isPending (withParts p q (ChangeCounted.count p)) n'))) n'
        (withParts p q (ChangeCounted.count p))

variable {n n' : Count} {p p' : σ}

/-- The encoding of a packet that was replaced can be set. -/
theorem Replaced.withCache {decoded : π} (h : Replaced n p n' p' decoded)
    (c : Option CachedEncoding) : Replaced n p n' (withCache p' c) decoded where
  settled := (settled_withCache p' c).2 h.settled
  drawn := (drawn_withCache p' c n').2 h.drawn
  le := h.le
  answer_lt := (count_withCache p' c).symm ▸ h.answer_lt
  nonce_eq := by rw [nonce_withCache, count_withCache, h.nonce_eq]
  present_eq := by rw [present_withCache, value_withCache, h.present_eq]

theorem Effect.le {deed : Option Deed} (h : Effect n p deed n' p') : n ≤ n' := by
  cases h with
  | nothing hle => exact hle
  | polled h => exact h.le
  | encoded h hle => exact Nat.le_trans h.le hle
  | received h => exact h.le
  | converted h => exact h.le
  | set h => exact Nat.le_trans h.le (Nat.le_of_lt h.lt)
  | nonceSet h => exact Nat.le_trans h.le (Nat.le_of_lt h.lt)
  | edited hle => exact hle

/-- A question that takes up the changes of the parts, and does nothing else. -/
theorem effect_noteAsked {ρ : Type} {e : Edit σ ρ} (h : Polled n p (e p n).2 (e p n).1.2) :
    Effect n p (noteAsked e p n).1.1 (noteAsked e p n).2 (noteAsked e p n).1.2 :=
  .polled h

/-- A setter of anything but the nonce. -/
theorem effect_noteMove {e : Edit σ Unit} (h : Assigned n p (e p n).2 (e p n).1.2)
    (hnonce : nonce (e p n).1.2 = nonce p) :
    Effect n p (noteMove .set e p n).1.1 (noteMove .set e p n).2 (noteMove .set e p n).1.2 :=
  .set h hnonce

end Effect

end NamedData
