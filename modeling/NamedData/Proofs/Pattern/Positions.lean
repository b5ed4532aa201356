import Mathlib.Data.List.Sort
import NamedData.Pattern.Expr

/-!
# Sets of positions

Ascending lists stand for sets of positions: each operation is characterised by its members, whatever
the order of its operands, and keeps lists ascending. `NextAlong next R` says that `next` is the image
of a set under a relation. The exact number of rounds is then the plain iterate of `next`, although it
stops early. A breadth-first round keeps the invariant that all successors of what is not in the
frontier have been seen (`Explored`), from which it follows that nothing is lost by leaving out what
was seen before (`mem_withinRounds`).
-/

namespace NamedData.Pattern.Positions

variable {p q : Nat} {a b positions : List Nat}

/-! ## Members -/

theorem mem_insert : q ∈ insert p positions ↔ q = p ∨ q ∈ positions := by
  induction positions with
  | nil => simp [insert]
  | cons r rest ih =>
    unfold insert
    split
    · simp
    · split
      · next heq => simp [heq]
      · simp [ih, or_left_comm]

theorem mem_ofList : q ∈ ofList positions ↔ q ∈ positions := by
  induction positions with
  | nil => simp [ofList]
  | cons r rest ih =>
    show q ∈ insert r (ofList rest) ↔ q ∈ r :: rest
    rw [mem_insert, ih, List.mem_cons]

theorem mem_dropRepeats : q ∈ dropRepeats positions ↔ q ∈ positions := by
  fun_induction dropRepeats positions with
  | case1 r rest ih => simp [ih]
  | case2 r s rest hne ih => simp [ih]
  | case3 => rfl

theorem mem_union : q ∈ union a b ↔ q ∈ a ∨ q ∈ b := by
  rw [union, mem_dropRepeats, List.mem_merge]

theorem mem_advance {next : Nat → List Nat} :
    q ∈ advance next positions ↔ ∃ p ∈ positions, q ∈ next p := by
  rw [advance, mem_ofList, List.mem_flatMap]

/-! ## Order -/

theorem pairwise_insert (h : positions.Pairwise (· < ·)) :
    (insert p positions).Pairwise (· < ·) := by
  induction positions with
  | nil => simp [insert]
  | cons r rest ih =>
    have hr : ∀ s ∈ rest, r < s := fun s hs => List.rel_of_pairwise_cons h hs
    unfold insert
    split
    · next hlt =>
      refine List.pairwise_cons.2 ⟨fun s hs => ?_, h⟩
      rcases List.mem_cons.1 hs with rfl | hs
      · exact hlt
      · exact hlt.trans (hr s hs)
    · split
      · exact h
      · refine List.pairwise_cons.2 ⟨fun s hs => ?_, ih h.of_cons⟩
        rcases mem_insert.1 hs with rfl | hs
        · omega
        · exact hr s hs

theorem pairwise_ofList (positions : List Nat) : (ofList positions).Pairwise (· < ·) := by
  induction positions with
  | nil => exact .nil
  | cons r rest ih => exact pairwise_insert ih

theorem pairwise_dropRepeats (h : positions.Pairwise (· ≤ ·)) :
    (dropRepeats positions).Pairwise (· < ·) := by
  fun_induction dropRepeats positions with
  | case1 r rest ih => exact ih h.of_cons
  | case2 r s rest hne ih =>
    refine List.pairwise_cons.2 ⟨fun t ht => ?_, ih h.of_cons⟩
    have hrs : r ≤ s := List.rel_of_pairwise_cons h List.mem_cons_self
    rcases List.mem_cons.1 (mem_dropRepeats.1 ht) with rfl | ht
    · omega
    · have hst : s ≤ t := List.rel_of_pairwise_cons h.of_cons ht
      omega
  | case3 positions hshort =>
    -- a list of at most one position
    match positions, hshort with
    | [], _ => exact .nil
    | [r], _ => exact List.pairwise_singleton _ r
    | r :: s :: rest, hshort => exact absurd rfl (hshort r s rest)

theorem pairwise_union (ha : a.Pairwise (· < ·)) (hb : b.Pairwise (· < ·)) :
    (union a b).Pairwise (· < ·) := by
  refine pairwise_dropRepeats ?_
  have hmerge : (a.merge b fun m n => decide (m ≤ n)).Pairwise fun m n => decide (m ≤ n) = true :=
    List.pairwise_merge
      (fun _ _ _ hmn hno => decide_eq_true ((of_decide_eq_true hmn).trans (of_decide_eq_true hno)))
      (fun m n => by simpa using Nat.le_total m n) a b
      (ha.imp fun h => decide_eq_true (Nat.le_of_lt h)) (hb.imp fun h => decide_eq_true (Nat.le_of_lt h))
  exact hmerge.imp of_decide_eq_true

theorem pairwise_advance (next : Nat → List Nat) (positions : List Nat) :
    (advance next positions).Pairwise (· < ·) :=
  pairwise_ofList _

/-! ## Rounds -/

variable {next : List Nat → List Nat} {R : Nat → Nat → Prop} {rounds : Nat} {frontier seen : List Nat}

/-- The rounds end early only where further ones change nothing. -/
theorem afterRounds_eq_iterate (next : List Nat → List Nat) (rounds : Nat) (positions : List Nat) :
    afterRounds next rounds positions = next^[rounds] positions := by
  induction rounds generalizing positions with
  | zero => rfl
  | succ rounds ih =>
    rw [afterRounds, Function.iterate_succ_apply]
    split
    · next hfixed => rw [hfixed, Function.iterate_fixed hfixed]
    · exact ih _

theorem pairwise_iterate (hnext : ∀ starts, starts.Pairwise (· < ·) → (next starts).Pairwise (· < ·))
    (h : positions.Pairwise (· < ·)) : (next^[rounds] positions).Pairwise (· < ·) := by
  induction rounds generalizing positions with
  | zero => exact h
  | succ rounds ih =>
    rw [Function.iterate_succ_apply]
    exact ih (hnext _ h)

theorem pairwise_withinRounds
    (hnext : ∀ starts, starts.Pairwise (· < ·) → (next starts).Pairwise (· < ·))
    (hfrontier : frontier.Pairwise (· < ·)) (hseen : seen.Pairwise (· < ·)) :
    (withinRounds next rounds frontier seen).Pairwise (· < ·) := by
  induction rounds generalizing frontier seen with
  | zero => exact hseen
  | succ rounds ih =>
    have hfresh := (hnext frontier hfrontier).filter fun p => !seen.contains p
    rw [withinRounds]
    split
    · exact hseen
    · exact ih hfresh (pairwise_union hseen hfresh)

/-- The positions that some number of steps of a relation lead to. -/
inductive Steps (R : Nat → Nat → Prop) : Nat → Nat → Nat → Prop
  | refl (p : Nat) : Steps R 0 p p
  | head {k p q r : Nat} (hfirst : R p q) (hothers : Steps R k q r) : Steps R (k + 1) p r

/-- A function of sets leads to the successors of their members. -/
def NextAlong (next : List Nat → List Nat) (R : Nat → Nat → Prop) : Prop :=
  ∀ starts q, q ∈ next starts ↔ ∃ p ∈ starts, R p q

theorem NextAlong.iterate (h : NextAlong next R) (rounds : Nat) :
    NextAlong (next^[rounds]) (Steps R rounds) := by
  induction rounds with
  | zero =>
    intro starts q
    constructor
    · intro hq
      exact ⟨q, hq, .refl q⟩
    · rintro ⟨p, hp, hsteps⟩
      cases hsteps
      exact hp
  | succ rounds ih =>
    intro starts q
    rw [Function.iterate_succ_apply, ih]
    constructor
    · rintro ⟨r, hr, hothers⟩
      obtain ⟨p, hp, hfirst⟩ := (h starts r).1 hr
      exact ⟨p, hp, .head hfirst hothers⟩
    · rintro ⟨p, hp, hsteps⟩
      cases hsteps with
      | head hfirst hothers => exact ⟨_, (h starts _).2 ⟨p, hp, hfirst⟩, hothers⟩

/-- The positions of the frontier have been seen, and so have the successors of all other positions that
have been seen. -/
structure Explored (R : Nat → Nat → Prop) (frontier seen : List Nat) : Prop where
  frontier_subset : ∀ p ∈ frontier, p ∈ seen
  closed : ∀ p ∈ seen, p ∉ frontier → ∀ q, R p q → q ∈ seen

namespace Explored

theorem start (R : Nat → Nat → Prop) (frontier : List Nat) : Explored R frontier frontier :=
  ⟨fun _ hp => hp, fun _ hp hnot => absurd hp hnot⟩

section Round

variable {fresh : List Nat} (h : Explored R frontier seen)
  (hfresh : ∀ q, q ∈ fresh ↔ (∃ p ∈ frontier, R p q) ∧ q ∉ seen)

include h hfresh

/-- Whatever follows what was seen was seen before or is fresh. -/
theorem mem_union_of_step (hp : p ∈ seen) (hstep : R p q) : q ∈ union seen fresh := by
  by_cases hq : q ∈ seen
  · exact mem_union.2 (.inl hq)
  · by_cases hpfrontier : p ∈ frontier
    · exact mem_union.2 (.inr ((hfresh q).2 ⟨⟨p, hpfrontier, hstep⟩, hq⟩))
    · exact absurd (h.closed p hp hpfrontier q hstep) hq

theorem round : Explored R fresh (union seen fresh) := by
  refine ⟨fun p hp => mem_union.2 (.inr hp), fun p hp hnot q hstep => ?_⟩
  have hpseen : p ∈ seen := (mem_union.1 hp).resolve_right hnot
  exact h.mem_union_of_step hfresh hpseen hstep

/-- One step less is left once the fresh positions are taken in. -/
theorem steps_iff : (∃ k ≤ rounds, ∃ p ∈ union seen fresh, Steps R k p q)
    ↔ ∃ k ≤ rounds + 1, ∃ p ∈ seen, Steps R k p q := by
  constructor
  · rintro ⟨k, hk, p, hp, hsteps⟩
    rcases mem_union.1 hp with hp | hp
    · exact ⟨k, by omega, p, hp, hsteps⟩
    · -- a fresh position is one step behind the frontier
      obtain ⟨⟨r, hr, hstep⟩, -⟩ := (hfresh p).1 hp
      exact ⟨k + 1, by omega, r, h.frontier_subset r hr, .head hstep hsteps⟩
  · rintro ⟨k, hk, p, hp, hsteps⟩
    cases hsteps with
    | refl => exact ⟨0, Nat.zero_le _, q, mem_union.2 (.inl hp), .refl q⟩
    | @head k _ r _ hfirst hothers =>
      exact ⟨k, by omega, r, h.mem_union_of_step hfresh hp hfirst, hothers⟩

end Round

/-- With nothing fresh, no step leads out of what was seen. -/
theorem mem_of_steps {k : Nat} (h : Explored R frontier seen) (hnone : ∀ p ∈ frontier, ∀ q, R p q → q ∈ seen)
    (hp : p ∈ seen) (hsteps : Steps R k p q) : q ∈ seen := by
  induction hsteps with
  | refl => exact hp
  | @head _ p r _ hfirst _ ih =>
    by_cases hpfrontier : p ∈ frontier
    · exact ih (hnone p hpfrontier r hfirst)
    · exact ih (h.closed p hp hpfrontier r hfirst)

end Explored

/-- The rounds reach what that many steps lead to, although each starts from new positions only. -/
theorem mem_withinRounds (hnext : NextAlong next R) (h : Explored R frontier seen) :
    q ∈ withinRounds next rounds frontier seen ↔ ∃ k ≤ rounds, ∃ p ∈ seen, Steps R k p q := by
  induction rounds generalizing frontier seen with
  | zero =>
    constructor
    · intro hq
      exact ⟨0, Nat.le_refl 0, q, hq, .refl q⟩
    · rintro ⟨k, hk, p, hp, hsteps⟩
      obtain rfl := Nat.le_zero.1 hk
      cases hsteps
      exact hp
  | succ rounds ih =>
    rw [withinRounds]
    generalize hfilter : (next frontier).filter (fun p => !seen.contains p) = fresh
    have hfresh : ∀ q, q ∈ fresh ↔ (∃ p ∈ frontier, R p q) ∧ q ∉ seen := by
      intro q
      rw [← hfilter, List.mem_filter, hnext]
      simp
    split
    · next hnone =>
      have hold : ∀ p ∈ frontier, ∀ q, R p q → q ∈ seen := by
        intro p hp q hstep
        by_contra hq
        simpa [hnone] using (hfresh q).2 ⟨⟨p, hp, hstep⟩, hq⟩
      constructor
      · intro hq
        exact ⟨0, Nat.zero_le _, q, hq, .refl q⟩
      · rintro ⟨k, -, p, hp, hsteps⟩
        exact h.mem_of_steps hold hp hsteps
    · rw [ih (h.round hfresh), h.steps_iff hfresh]

end NamedData.Pattern.Positions
