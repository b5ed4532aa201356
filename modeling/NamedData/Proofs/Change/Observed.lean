import NamedData.Change.Place

/-!
# What asking for a count does

An object is `Settled` if none of its trackers has a change left to take up, and `Drawn` if every
count in it lies in the part of the sequence that has been drawn. `Looked` is the contract of asking
for a count: a settled object stays as it is and draws nothing, any other one becomes settled under
a count of its own, and neither changes its value. `Checked` is the contract of looking at tracked
parts one after the other. By `Looked.ofChecked` an object keeps the first contract if it looks at
its parts and draws a count once it has found a change.

An object that is asked later answers no earlier count (`LawfulObserved.settle_le`).
-/

namespace NamedData

/-- An object whose value, drawn counts and pending changes can be told from the outside. -/
class Observed (α : Type) (V : outParam Type) where
  /-- The value that the object has at the moment. -/
  value : α → V
  /-- Every count in the object is one of those drawn so far. -/
  Drawn : Count → α → Prop
  /-- No tracker in the object has a change left to take up. -/
  Settled : α → Prop
  drawn_mono {n n' : Count} {a : α} : n ≤ n' → Drawn n a → Drawn n' a

open Observed

/-- Parts that lie side by side. -/
instance {α β V W : Type} [Observed α V] [Observed β W] : Observed (α × β) (V × W) where
  value p := (value p.1, value p.2)
  Drawn n p := Drawn n p.1 ∧ Drawn n p.2
  Settled p := Settled p.1 ∧ Settled p.2
  drawn_mono hle h := ⟨drawn_mono hle h.1, drawn_mono hle h.2⟩

/-- A branch of an edit is taken where the edit is run. -/
theorem ite_edit_apply {σ ρ : Type} (c : Prop) [Decidable c] (e₁ e₂ : Edit σ ρ) (s : σ) (n : Count) :
    (if c then e₁ else e₂) s n = if c then e₁ s n else e₂ s n := by
  split <;> rfl

/-- Edits are run one after the other, on the object and at the count that the first leaves. -/
theorem bind_edit_apply {σ ρ τ : Type} (e : Edit σ ρ) (next : ρ → Edit σ τ) (s : σ) (n : Count) :
    (e >>= next) s n = next (e s n).1.1 (e s n).1.2 (e s n).2 :=
  rfl

/-- An edit that only gives a result leaves the object as it is. -/
theorem pure_edit_apply {σ ρ : Type} (r : ρ) (s : σ) (n : Count) :
    (pure r : Edit σ ρ) s n = ((r, s), n) :=
  rfl

/-- Reading the object leaves it as it is. -/
theorem get_edit_apply {σ : Type} (s : σ) (n : Count) : (get : Edit σ σ) s n = ((s, s), n) :=
  rfl

theorem set_edit_apply {σ : Type} (s' s : σ) (n : Count) :
    (set s' : Edit σ PUnit) s n = (((), s'), n) :=
  rfl

/-- What only draws counts leaves the object as it is. -/
theorem lift_edit_apply {σ ρ : Type} (draws : Draws ρ) (s : σ) (n : Count) :
    (liftM draws : Edit σ ρ) s n = (((draws n).1, s), (draws n).2) :=
  rfl

/-- An object is asked for its count by having it take up the changes of its parts. -/
theorem changeCount_apply {α : Type} [ChangeCounted α] (a : α) (n : Count) :
    changeCount a n =
      ((ChangeCounted.count (ChangeCounted.settle a n).1.2, (ChangeCounted.settle a n).1.2),
        (ChangeCounted.settle a n).2) :=
  rfl

/-- An edit of what is in a place puts back what it leaves there. -/
theorem Place.on_apply {σ α ρ : Type} (place : Place σ α) (e : Edit α ρ) (s : σ) (n : Count) :
    place.on e s n =
      (((e (place.view s) n).1.1, place.put (e (place.view s) n).1.2 s), (e (place.view s) n).2) :=
  rfl

/-! ## Looking at parts -/

section Checked

variable {α β V W : Type} [Observed α V] [Observed β W]

/-- Parts `p'` at count `n'` are what looking at parts `p` at `n` leaves behind; `changed` tells
whether any of them had changed. -/
structure Checked (n : Count) (p : α) (changed : Bool) (n' : Count) (p' : α) : Prop where
  settled : Settled p'
  value_eq : value p' = value p
  drawn : Drawn n' p'
  le : n ≤ n'
  same : changed = false → Settled p ∧ p' = p ∧ n' = n
  later : changed = true → ¬ Settled p ∧ n < n'

/-- Parts are looked at one after the other. -/
theorem Checked.prod {n n₁ n₂ : Count} {p p' : α} {q q' : β} {c d : Bool}
    (hp : Checked n p c n₁ p') (hq : Checked n₁ q d n₂ q') :
    Checked n (p, q) (c || d) n₂ (p', q') where
  settled := ⟨hp.settled, hq.settled⟩
  value_eq := Prod.ext hp.value_eq hq.value_eq
  drawn := ⟨drawn_mono hq.le hp.drawn, hq.drawn⟩
  le := Nat.le_trans hp.le hq.le
  same h := by
    obtain ⟨hc, hd⟩ := Bool.or_eq_false_iff.1 h
    obtain ⟨hps, rfl, rfl⟩ := hp.same hc
    obtain ⟨hqs, rfl, rfl⟩ := hq.same hd
    exact ⟨⟨hps, hqs⟩, rfl, rfl⟩
  later h := by
    rcases Bool.or_eq_true_iff.1 h with hc | hd
    · obtain ⟨hps, hlt⟩ := hp.later hc
      exact ⟨fun hs => hps hs.1, Nat.lt_of_lt_of_le hlt hq.le⟩
    · obtain ⟨hqs, hlt⟩ := hq.later hd
      exact ⟨fun hs => hqs hs.2, Nat.lt_of_le_of_lt hp.le hlt⟩

/-- Parts that keep the contract of looking at them. -/
class LawfulCheckable (τ : Type) (W : outParam Type) [Checkable τ] [Observed τ W] : Prop where
  checked {n : Count} {p : τ} : Drawn n p →
    Checked n p (Checkable.check p n).1.1 (Checkable.check p n).2 (Checkable.check p n).1.2
  /-- Parts that are looked at later have changed just the same. -/
  check_le {n m : Count} {p : τ} (hle : n ≤ m) (hdrawn : Drawn n p) :
    (Checkable.check p n).1.1 = (Checkable.check p m).1.1
      ∧ (Checkable.check p n).2 ≤ (Checkable.check p m).2

theorem check_prod_apply [Checkable α] [Checkable β] (p : α) (q : β) (n : Count) :
    Checkable.check (p, q) n =
      (((Checkable.check p n).1.1 || (Checkable.check q (Checkable.check p n).2).1.1,
          ((Checkable.check p n).1.2, (Checkable.check q (Checkable.check p n).2).1.2)),
        (Checkable.check q (Checkable.check p n).2).2) :=
  rfl

instance [Checkable α] [Checkable β] [LawfulCheckable α V] [LawfulCheckable β W] :
    LawfulCheckable (α × β) (V × W) where
  checked hdrawn := by
    have hp := LawfulCheckable.checked hdrawn.1
    exact hp.prod (LawfulCheckable.checked (drawn_mono hp.le hdrawn.2))
  check_le {n m p} hle hdrawn := by
    obtain ⟨p, q⟩ := p
    obtain ⟨hchanged, hlater⟩ := LawfulCheckable.check_le hle hdrawn.1
    have hle' := (LawfulCheckable.checked hdrawn.1).le
    obtain ⟨hchanged', hlater'⟩ := LawfulCheckable.check_le hlater (drawn_mono hle' hdrawn.2)
    rw [check_prod_apply, check_prod_apply]
    exact ⟨by rw [hchanged, hchanged'], hlater'⟩

/-- Parts one of which has changed are followed by a draw of a count that is later than all of it. -/
theorem Checked.moved {n n' : Count} {p p' : α} {changed : Bool} (h : Checked n p changed n' p')
    (count : Count) (hp : ¬ Settled p) :
    n < (if changed then n' else count)
      ∧ (if changed then n' else count) + 1 = if changed then n' + 1 else n' := by
  cases changed with
  | false => exact absurd (h.same rfl).1 hp
  | true => exact ⟨(h.later rfl).2, rfl⟩

/-- A count that is drawn if parts have changed is drawn later if they are looked at later. -/
theorem draw_le_draw {changed changed' : Bool} {n m : Count} (h : changed = changed' ∧ n ≤ m) :
    (if changed then n + 1 else n) ≤ (if changed' then m + 1 else m) := by
  obtain ⟨rfl, hle⟩ := h
  split <;> lia

end Checked

/-! ## Asking objects for their counts -/

variable {α V : Type} [ChangeCounted α] [Observed α V]

/-- Object `a'` at count `n'` is what asking object `a` for its count at `n` leaves behind. -/
structure Looked (n : Count) (a : α) (n' : Count) (a' : α) : Prop where
  settled : Settled a'
  value_eq : value a' = value a
  drawn : Drawn n' a'
  le : n ≤ n'
  same : Settled a → a' = a ∧ n' = n
  later : ¬ Settled a → n < n' ∧ n ≤ ChangeCounted.count a'

/-- Objects that keep the contract of asking for a count. -/
class LawfulObserved (α : Type) (V : outParam Type) [ChangeCounted α] [Observed α V] : Prop where
  count_le {n : Count} {a : α} : Drawn n a → ChangeCounted.count a ≤ n
  looked {n : Count} {a : α} : Drawn n a →
    Looked n a (ChangeCounted.settle a n).2 (ChangeCounted.settle a n).1.2
  /-- An object that is asked later draws later counts. -/
  settle_le {n m : Count} {a : α} (hle : n ≤ m) (hdrawn : Drawn n a) :
    (ChangeCounted.settle a n).2 ≤ (ChangeCounted.settle a m).2

/-- A settled object has nothing to take up. -/
theorem settle_of_settled [LawfulObserved α V] {n : Count} {a : α} (hdrawn : Drawn n a)
    (h : Settled a) : ChangeCounted.settle a n = (((), a), n) := by
  have hlook := (LawfulObserved.looked hdrawn).same h
  exact Prod.ext (Prod.ext rfl hlook.1) hlook.2

/-- A settled object answers its count and stays as it is. -/
theorem changeCount_of_settled [LawfulObserved α V] {n : Count} {a : α} (hdrawn : Drawn n a)
    (h : Settled a) : changeCount a n = ((ChangeCounted.count a, a), n) := by
  rw [changeCount_apply, settle_of_settled hdrawn h]

/-- Asking a settled object for its count does nothing to it. -/
theorem Looked.ofSettled {n : Count} {a : α} (hdrawn : Drawn n a) (h : Settled a) : Looked n a n a :=
  ⟨h, rfl, hdrawn, Nat.le_refl n, fun _ => ⟨rfl, rfl⟩, fun hn => absurd h hn⟩

/-- An object made of parts and a count keeps the contract if it looks at the parts and draws its
count when one of them has changed. -/
theorem Looked.ofChecked {τ W : Type} [Observed τ W] (make : τ → Count → α)
    (hsettled : ∀ p c, Settled (make p c) ↔ Settled p)
    (hdrawn : ∀ n p c, Drawn n p → c < n → Drawn n (make p c))
    (hvalue : ∀ p p' c c', value p' = value p → value (make p' c') = value (make p c))
    (hcount : ∀ p c, ChangeCounted.count (make p c) = c)
    {n n' c : Count} {p p' : τ} {changed : Bool} (hold : Drawn n (make p c))
    (h : Checked n p changed n' p') :
    Looked n (make p c) (if changed then n' + 1 else n') (make p' (if changed then n' else c)) := by
  cases changed with
  | false =>
    -- without a change the parts are as they were, and no count is drawn
    obtain ⟨hp, rfl, rfl⟩ := h.same rfl
    exact .ofSettled hold ((hsettled _ c).2 hp)
  | true =>
    obtain ⟨hp, hlt⟩ := h.later rfl
    exact
      { settled := (hsettled _ _).2 h.settled
        value_eq := hvalue _ _ _ _ h.value_eq
        drawn := hdrawn _ _ _ (drawn_mono (Nat.le_succ _) h.drawn) (Nat.lt_succ_self _)
        le := Nat.le_succ_of_le h.le
        same := fun hs => absurd ((hsettled _ _).1 hs) hp
        later := fun _ => ⟨Nat.lt_succ_of_lt hlt, (hcount p' n').symm ▸ h.le⟩ }

/-- Object `a` of value `v` at count `n'` is what making it at `n` leaves behind. -/
structure Made {α V : Type} [Observed α V] (n : Count) (v : V) (n' : Count) (a : α) : Prop where
  lt : n < n'
  drawn : Drawn n' a
  settled : Settled a
  value_eq : value a = v

/-- Parts are made one after the other. -/
theorem Made.prod {α β V W : Type} [Observed α V] [Observed β W] {n n₁ n₂ : Count} {v : V} {w : W}
    {a : α} {b : β} (ha : Made n v n₁ a) (hb : Made n₁ w n₂ b) : Made n (v, w) n₂ (a, b) where
  lt := Nat.lt_trans ha.lt hb.lt
  drawn := ⟨drawn_mono (Nat.le_of_lt hb.lt) ha.drawn, hb.drawn⟩
  settled := ⟨ha.settled, hb.settled⟩
  value_eq := Prod.ext ha.value_eq hb.value_eq

/-! ## Values with a count of their own -/

namespace Stamped

variable {β : Type}

instance : Observed (Stamped β) β where
  value s := s.value
  Drawn n s := s.count < n
  Settled _ := True
  drawn_mono hle h := Nat.lt_of_lt_of_le h hle

instance : LawfulObserved (Stamped β) β where
  count_le h := Nat.le_of_lt h
  looked h := .ofSettled h trivial
  settle_le hle _ := hle

theorem made (v : β) (n : Count) : Made n v (make v n).2 (make v n).1 :=
  ⟨Nat.lt_succ_self n, Nat.lt_succ_self n, trivial, rfl⟩

end Stamped

/-! ## Tracked parts -/

namespace Tracked

instance : Observed (Tracked α) V where
  value t := value t.part
  Drawn n t := Drawn n t.part ∧ t.seen < n ∧ t.count < n
  Settled t := Settled t.part ∧ ChangeCounted.count t.part = t.seen
  drawn_mono hle h :=
    ⟨drawn_mono hle h.1, Nat.lt_of_lt_of_le h.2.1 hle, Nat.lt_of_lt_of_le h.2.2 hle⟩

omit [Observed α V] in
/-- Looking at a part compares the count that the part answers with the one it had before. -/
theorem check_apply (t : Tracked α) (n : Count) :
    check t n =
      if ChangeCounted.count (ChangeCounted.settle t.part n).1.2 = t.seen then
        ((false, { t with part := (ChangeCounted.settle t.part n).1.2 }),
          (ChangeCounted.settle t.part n).2)
      else
        ((true, ⟨(ChangeCounted.settle t.part n).1.2,
            ChangeCounted.count (ChangeCounted.settle t.part n).1.2,
            (ChangeCounted.settle t.part n).2⟩),
          (ChangeCounted.settle t.part n).2 + 1) :=
  ite_edit_apply _ _ _ t _

/-- Looking at a plain value leaves it. -/
theorem value_check {β : Type} (t : Tracked (Stamped β)) (n : Count) :
    (check t n).1.2.part.value = t.part.value := by
  rw [check_apply]
  split <;> rfl

variable [LawfulObserved α V] {t : Tracked α} {n : Count}

/-- Looking at a settled part finds no change. -/
theorem check_of_settled (hdrawn : Drawn n t) (h : Settled t) : check t n = ((false, t), n) := by
  obtain ⟨hpart, hseen⟩ := h
  have hlook := (LawfulObserved.looked hdrawn.1).same hpart
  rw [check_apply, hlook.1, hlook.2, if_pos hseen]

/-- Any other part answers a count that the tracker does not remember. -/
theorem count_ne_seen (hdrawn : Drawn n t) (h : ¬ Settled t) :
    ChangeCounted.count (ChangeCounted.settle t.part n).1.2 ≠ t.seen := by
  have hlook := LawfulObserved.looked hdrawn.1
  intro heq
  by_cases hpart : Settled t.part
  · rw [(hlook.same hpart).1] at heq
    exact h ⟨hpart, heq⟩
  · -- the part answers a count drawn just now, the tracker remembers an older one
    have hlater := (hlook.later hpart).2
    rw [heq] at hlater
    exact Nat.lt_irrefl _ (Nat.lt_of_lt_of_le hdrawn.2.1 hlater)

/-- Looking at any other part finds a change, and once. -/
theorem check_of_not_settled (hdrawn : Drawn n t) (h : ¬ Settled t) :
    ∃ t' n', check t n = ((true, t'), n') ∧ Looked n t n' t' := by
  have hlook := LawfulObserved.looked hdrawn.1
  have hne := count_ne_seen hdrawn h
  have hle := hlook.le
  have hcount := LawfulObserved.count_le hlook.drawn
  refine ⟨_, _, by rw [check_apply, if_neg hne], ?_⟩
  exact
    { settled := ⟨hlook.settled, rfl⟩
      value_eq := hlook.value_eq
      drawn := ⟨drawn_mono (Nat.le_succ _) hlook.drawn, Nat.lt_succ_of_le hcount, Nat.lt_succ_self _⟩
      le := Nat.le_succ_of_le hle
      same := fun hs => absurd hs h
      later := fun _ => ⟨Nat.lt_succ_of_le hle, hle⟩ }

instance : LawfulCheckable (Tracked α) V where
  checked {n t} hdrawn := by
    show Checked n t (check t n).1.1 (check t n).2 (check t n).1.2
    by_cases h : Settled t
    · rw [check_of_settled hdrawn h]
      exact ⟨h, rfl, hdrawn, Nat.le_refl n, fun _ => ⟨h, rfl, rfl⟩, fun hc => nomatch hc⟩
    · obtain ⟨t', n', hcheck, hlook⟩ := check_of_not_settled hdrawn h
      rw [hcheck]
      exact ⟨hlook.settled, hlook.value_eq, hlook.drawn, hlook.le, fun hc => (nomatch hc),
        fun _ => ⟨h, (hlook.later h).1⟩⟩
  check_le {n m t} hle hdrawn := by
    have hlater := drawn_mono hle hdrawn
    show (check t n).1.1 = (check t m).1.1 ∧ (check t n).2 ≤ (check t m).2
    by_cases h : Settled t
    · rw [check_of_settled hdrawn h, check_of_settled hlater h]
      exact ⟨rfl, hle⟩
    · have hpart := LawfulObserved.settle_le hle hdrawn.1
      rw [check_apply, check_apply, if_neg (count_ne_seen hdrawn h), if_neg (count_ne_seen hlater h)]
      refine ⟨rfl, ?_⟩
      lia

omit t n in
/-- Looking at a part keeps the contract of looking at parts. -/
theorem check_checked {t : Tracked α} {n : Count} (hdrawn : Drawn n t) :
    Checked n t (check t n).1.1 (check t n).2 (check t n).1.2 :=
  LawfulCheckable.checked hdrawn

instance : LawfulObserved (Tracked α) V where
  count_le h := Nat.le_of_lt h.2.2
  looked {n t} hdrawn := by
    show Looked n t (check t n).2 (check t n).1.2
    by_cases h : Settled t
    · rw [check_of_settled hdrawn h]
      exact .ofSettled hdrawn h
    · obtain ⟨t', n', hcheck, hlook⟩ := check_of_not_settled hdrawn h
      rw [hcheck]
      exact hlook
  settle_le hle hdrawn := (LawfulCheckable.check_le hle hdrawn).2

omit t in
/-- A part that is new in its place is settled there. -/
theorem made {a : α} (hdrawn : Drawn n a) : Made n (value a) (make a n).2 (make a n).1 := by
  have hlook := LawfulObserved.looked hdrawn
  have hcount := LawfulObserved.count_le hlook.drawn
  exact ⟨Nat.lt_succ_of_le hlook.le,
    ⟨drawn_mono (Nat.le_succ _) hlook.drawn, Nat.lt_succ_of_le hcount, Nat.lt_succ_self _⟩,
    ⟨hlook.settled, rfl⟩, hlook.value_eq⟩

omit t in
/-- A part may have been made just before it takes its place. -/
theorem made_of_made {a : α} {v : V} {n₁ : Count} (h : Made n v n₁ a) :
    Made n v (make a n₁).2 (make a n₁).1 := by
  have hmade := made h.drawn
  exact ⟨Nat.lt_trans h.lt hmade.lt, hmade.drawn, hmade.settled, hmade.value_eq.trans h.value_eq⟩

end Tracked

end NamedData
