import Mathlib.Logic.Relation
import NamedData.Proofs.Pattern.Positions
import NamedData.TextPattern.Term

/-!
# What a text pattern matches

`Expr.Joins` relates the two ends of the stretches that an expression matches, whatever its tests ask
of what stands around them; a row of expressions is the composition of their relations. A search
decides this relation as long as no test leads backwards or out of the text (`mem_reach_iff_joins`): a
round that leads nowhere can be left out, so that the bound on the rounds loses nothing.

Simplifying terms changes no relation (`joins_row`). So a term between the two ends of the text occurs
in a text if and only if the term matches all of the text (`occursIn_between_ends_iff`).
-/

namespace NamedData.Pattern

open Positions (NextAlong Steps)
open Relation (Comp)

variable {σ : Type}

/-! ## Stretches that an expression matches -/

/-- An expression matches from one position to another, given which stretches pass its tests. The least
number of rounds is allowed whatever the upper bound. -/
def Expr.Joins (passes : σ → Nat → Nat → Prop) : Expr σ → Nat → Nat → Prop
  | test t => passes t
  | empty => Eq
  | cat first second => Comp (first.Joins passes) (second.Joins passes)
  | alt left right => fun p q => left.Joins passes p q ∨ right.Joins passes p q
  | rep inner min max => fun p q =>
    ∃ rounds, min ≤ rounds ∧ (∀ most ∈ max, rounds = min ∨ rounds ≤ most)
      ∧ Steps (inner.Joins passes) rounds p q

/-- A relation leads nowhere, or forwards to a position of a sequence with `length` items. -/
def LeadsWithin (length : Nat) (R : Nat → Nat → Prop) : Prop :=
  ∀ p q, R p q → q = p ∨ p < q ∧ q ≤ length

section Rounds

variable {R : Nat → Nat → Prop} {length j k p q : Nat}

theorem Positions.Steps.add_iff :
    Steps R (j + k) p q ↔ ∃ r, Steps R j p r ∧ Steps R k r q := by
  induction j generalizing p with
  | zero =>
    rw [Nat.zero_add]
    constructor
    · intro h
      exact ⟨p, .refl p, h⟩
    · rintro ⟨r, hnone, h⟩
      cases hnone
      exact h
  | succ j ih =>
    rw [Nat.add_right_comm]
    constructor
    · intro h
      cases h with
      | head hfirst hothers =>
        obtain ⟨r, hj, hk⟩ := ih.1 hothers
        exact ⟨r, .head hfirst hj, hk⟩
    · rintro ⟨r, hj, hk⟩
      cases hj with
      | head hfirst hothers => exact .head hfirst (ih.2 ⟨r, hothers, hk⟩)

theorem LeadsWithin.steps (h : LeadsWithin length R) (k : Nat) : LeadsWithin length (Steps R k) := by
  intro p q hsteps
  induction hsteps with
  | refl => exact .inl rfl
  | head hfirst _ ih =>
    have hpr := h _ _ hfirst
    omega

/-- Rounds that lead nowhere can be left out. -/
theorem LeadsWithin.exists_steps_le (h : LeadsWithin length R) (hsteps : Steps R k p q) :
    ∃ j ≤ k, j ≤ length ∧ Steps R j p q := by
  have hfew : ∃ j ≤ k, j ≤ q - p ∧ Steps R j p q := by
    induction hsteps with
    | refl p => exact ⟨0, Nat.le_refl 0, Nat.zero_le _, .refl p⟩
    | @head k p r q hfirst hothers ih =>
      obtain ⟨j, hjk, hj, hfewer⟩ := ih
      have hpr := h p r hfirst
      have hrq := h.steps k r q hothers
      by_cases hsame : r = p
      · subst hsame
        exact ⟨j, by omega, hj, hfewer⟩
      · exact ⟨j + 1, by omega, by omega, .head hfirst hfewer⟩
  obtain ⟨j, hjk, hj, hfewer⟩ := hfew
  have hpq := h.steps k p q hsteps
  exact ⟨j, hjk, by omega, hfewer⟩

end Rounds

namespace Expr

variable {passes : σ → Nat → Nat → Prop} {length : Nat}

theorem leadsWithin_joins (hpasses : ∀ t, LeadsWithin length (passes t)) (e : Expr σ) :
    LeadsWithin length (e.Joins passes) := by
  induction e with
  | test t => exact hpasses t
  | empty => exact fun p q h => .inl h.symm
  | cat first second ihfirst ihsecond =>
    rintro p q ⟨r, hfirst, hsecond⟩
    have hpr := ihfirst p r hfirst
    have hrq := ihsecond r q hsecond
    omega
  | alt left right ihleft ihright =>
    rintro p q (h | h)
    · exact ihleft p q h
    · exact ihright p q h
  | rep inner min max ih =>
    rintro p q ⟨rounds, -, -, hsteps⟩
    exact ih.steps rounds p q hsteps

/-- A repetition goes on from where its least number of rounds led to. -/
theorem joins_rep_iff (hpasses : ∀ t, LeadsWithin length (passes t)) (inner : Expr σ) (min : Nat)
    (max : Option Nat) (p q : Nat) :
    (rep inner min max).Joins passes p q ↔ ∃ r, Steps (inner.Joins passes) min p r
      ∧ ∃ k ≤ extraRounds length min max, Steps (inner.Joins passes) k r q := by
  constructor
  · rintro ⟨rounds, hmin, hmax, hsteps⟩
    obtain ⟨more, rfl⟩ := Nat.exists_eq_add_of_le hmin
    obtain ⟨r, hleast, hmore⟩ := Steps.add_iff.1 hsteps
    obtain ⟨j, hj, hlength, hfewer⟩ := (leadsWithin_joins hpasses inner).exists_steps_le hmore
    refine ⟨r, hleast, j, ?_, hfewer⟩
    cases max with
    | none => exact hlength.trans (Nat.le_succ length)
    | some most =>
      have hmost := hmax most rfl
      exact Nat.le_min.2 ⟨by omega, by omega⟩
  · rintro ⟨r, hleast, k, hk, hmore⟩
    refine ⟨min + k, Nat.le_add_right min k, ?_, Steps.add_iff.2 ⟨r, hleast, hmore⟩⟩
    rintro most rfl
    have hmost := (Nat.le_min.1 hk).1
    omega

/-- The positions that are reached are those to which the expression matches. -/
theorem mem_reach_iff_joins {step : σ → Nat → List Nat}
    (hstep : ∀ t, LeadsWithin length fun p q => q ∈ step t p) (e : Expr σ) :
    NextAlong (e.reach step length) (e.Joins fun t p q => q ∈ step t p) := by
  induction e with
  | test t =>
    intro starts q
    exact Positions.mem_advance
  | empty =>
    intro starts q
    rw [reach, Joins]
    exact ⟨fun hq => ⟨q, hq, rfl⟩, fun ⟨_, hp, hpq⟩ => hpq ▸ hp⟩
  | cat first second ihfirst ihsecond =>
    intro starts q
    rw [reach, ihsecond]
    simp only [ihfirst starts, Joins]
    constructor
    · rintro ⟨r, ⟨p, hp, hfirst⟩, hsecond⟩
      exact ⟨p, hp, r, hfirst, hsecond⟩
    · rintro ⟨p, hp, r, hfirst, hsecond⟩
      exact ⟨r, ⟨p, hp, hfirst⟩, hsecond⟩
  | alt left right ihleft ihright =>
    intro starts q
    rw [reach, Positions.mem_union, ihleft, ihright]
    simp only [Joins, and_or_left, exists_or]
  | rep inner min max ih =>
    intro starts q
    rw [reach, Positions.afterRounds_eq_iterate,
      Positions.mem_withinRounds ih (Positions.Explored.start _ _)]
    simp only [ih.iterate min starts, joins_rep_iff hstep]
    constructor
    · rintro ⟨k, hk, r, ⟨p, hp, hleast⟩, hmore⟩
      exact ⟨p, hp, r, hleast, k, hk, hmore⟩
    · rintro ⟨p, hp, r, hleast, k, hk, hmore⟩
      exact ⟨k, hk, r, ⟨p, hp, hleast⟩, hmore⟩

end Expr

end NamedData.Pattern

namespace NamedData.TextPattern

open Pattern (Expr LeadsWithin)
open Relation (Comp)

/-! ## Rows of terms -/

namespace Term

variable {passes : TextTest → Nat → Nat → Prop}

/-- Terms match one after the other. -/
def RowJoins (passes : TextTest → Nat → Nat → Prop) : List Term → Nat → Nat → Prop
  | [] => Eq
  | t :: rest => Comp (t.expr.Joins passes) (RowJoins passes rest)

theorem rowJoins_singleton (t : Term) : RowJoins passes [t] = t.expr.Joins passes :=
  Relation.comp_eq

theorem rowJoins_append (before after : List Term) :
    RowJoins passes (before ++ after) = Comp (RowJoins passes before) (RowJoins passes after) := by
  induction before with
  | nil => exact Relation.eq_comp.symm
  | cons t before ih => rw [List.cons_append, RowJoins, RowJoins, ih, Relation.comp_assoc]

theorem joins_chain (terms : List Term) : (chain terms).expr.Joins passes = RowJoins passes terms := by
  fun_induction chain terms with
  | case1 => rfl
  | case2 t => exact (rowJoins_singleton t).symm
  | case3 t rest _ ih => rw [expr, Expr.Joins, ih, RowJoins]

theorem rowJoins_parts (t : Term) : RowJoins passes t.parts = t.expr.Joins passes := by
  induction t with
  | empty => rfl
  | cat first rest _ ih => rw [parts, RowJoins, ih, expr, Expr.Joins]
  | _ => exact rowJoins_singleton _

theorem rowJoins_flatMap_parts (terms : List Term) :
    RowJoins passes (terms.flatMap parts) = RowJoins passes terms := by
  induction terms with
  | nil => rfl
  | cons t rest ih => rw [List.flatMap_cons, rowJoins_append, rowJoins_parts, ih, RowJoins]

theorem joins_literal_append (text more : List Char) : (literal (text ++ more)).expr.Joins passes
    = Comp ((literal text).expr.Joins passes) ((literal more).expr.Joins passes) := by
  induction text with
  | nil => exact Relation.eq_comp.symm
  | cons c text ih =>
    simp only [expr, List.cons_append, List.foldr_cons, Expr.Joins] at ih ⊢
    rw [ih, Relation.comp_assoc]

theorem rowJoins_joinPart (part : Term) (row : List Term) :
    RowJoins passes (joinPart part row) = RowJoins passes (part :: row) := by
  unfold joinPart
  split
  · rw [RowJoins, RowJoins, RowJoins, joins_literal_append, Relation.comp_assoc]
  · rfl

/-- Flattening a row and joining its literals changes nothing. -/
theorem joins_row (terms : List Term) : (row terms).expr.Joins passes = RowJoins passes terms := by
  have hjoined : ∀ parts, RowJoins passes (parts.foldr joinPart []) = RowJoins passes parts := by
    intro parts
    induction parts with
    | nil => rfl
    | cons part parts ih => rw [List.foldr_cons, rowJoins_joinPart, RowJoins, RowJoins, ih]
  rw [row, joins_chain, hjoined, rowJoins_flatMap_parts]

end Term

/-! ## Between the ends of a text -/

variable {text : List Char}

/-- A stretch of a text passes a test. -/
def TextTest.Passes (text : List Char) (test : TextTest) (p q : Nat) : Prop :=
  q ∈ test.step text.toArray p

/-- A term matches all of a text. -/
def Term.MatchesAll (t : Term) (text : List Char) : Prop :=
  t.expr.Joins (TextTest.Passes text) 0 text.length

theorem TextTest.passes_one_iff {set : Unicode.Charset} {p q : Nat} :
    TextTest.Passes text (.one set) p q ↔ text[p]?.any set.contains = true ∧ q = p + 1 := by
  rw [Passes, step, List.mem_ite_nil_right, List.mem_singleton, List.getElem?_toArray]

theorem TextTest.passes_boundary_iff {kind : Boundary} {p q : Nat} :
    TextTest.Passes text (.boundary kind) p q
      ↔ kind.holds (if p = 0 then none else text[p - 1]?) text[p]? = true ∧ q = p := by
  rw [Passes, step, List.mem_ite_nil_right, List.mem_singleton, List.getElem?_toArray,
    List.getElem?_toArray]

theorem TextTest.leadsWithin_passes (text : List Char) (test : TextTest) :
    LeadsWithin text.length (test.Passes text) := by
  intro p q h
  cases test with
  | one set =>
    obtain ⟨hany, rfl⟩ := passes_one_iff.1 h
    obtain ⟨c, hc, -⟩ := (Option.any_eq_true _ _).1 hany
    obtain ⟨hp, -⟩ := List.getElem?_eq_some_iff.1 hc
    exact .inr ⟨Nat.lt_succ_self p, hp⟩
  | boundary kind => exact .inl (passes_boundary_iff.1 h).2

theorem TextTest.passes_textStart_iff {p q : Nat} (hp : p ≤ text.length) :
    TextTest.Passes text (.boundary .textStart) p q ↔ p = 0 ∧ q = p := by
  rw [passes_boundary_iff, Boundary.holds]
  refine and_congr_left fun _ => ?_
  by_cases hzero : p = 0
  · simp [hzero]
  · -- behind the start there is a character before the position
    have hbefore : p - 1 < text.length := by omega
    simp [hzero, hbefore]

theorem TextTest.passes_textEnd_iff {p q : Nat} :
    TextTest.Passes text (.boundary .textEnd) p q ↔ text.length ≤ p ∧ q = p := by
  rw [passes_boundary_iff, Boundary.holds, Option.isNone_iff_eq_none, List.getElem?_eq_none_iff]

theorem occursIn_iff (pattern : TextPattern) :
    pattern.occursIn text = true
      ↔ ∃ p ≤ text.length, ∃ q, pattern.expr.Joins (TextTest.Passes text) p q := by
  have hreach := Expr.mem_reach_iff_joins (TextTest.leadsWithin_passes text) pattern.expr
  unfold occursIn Expr.search
  simp only [Bool.false_eq_true, if_false, Bool.not_eq_true', List.isEmpty_eq_false_iff_exists_mem]
  constructor
  · rintro ⟨q, hq⟩
    obtain ⟨p, hp, hjoins⟩ := (hreach _ q).1 hq
    exact ⟨p, Nat.lt_succ_iff.1 (List.mem_range.1 hp), q, hjoins⟩
  · rintro ⟨p, hp, q, hjoins⟩
    exact ⟨q, (hreach _ q).2 ⟨p, List.mem_range.2 (Nat.lt_succ_of_le hp), hjoins⟩⟩

/-- A term between the two ends of the text occurs where it matches all of the text. -/
theorem occursIn_between_ends_iff (t : Term) :
    TextPattern.occursIn ⟨(Term.row [.boundary .textStart, t, .boundary .textEnd]).expr⟩ text = true
      ↔ t.MatchesAll text := by
  rw [occursIn_iff, Term.joins_row]
  constructor
  · rintro ⟨p, hp, q, r, hstart, r', ht, hend⟩
    rw [Term.rowJoins_singleton] at hend
    obtain ⟨rfl, rfl⟩ := (TextTest.passes_textStart_iff hp).1 hstart
    obtain ⟨hlength, -⟩ := TextTest.passes_textEnd_iff.1 hend
    have hwithin := Expr.leadsWithin_joins (TextTest.leadsWithin_passes text) t.expr 0 r' ht
    obtain rfl : r' = text.length := by omega
    exact ht
  · intro ht
    refine ⟨0, Nat.zero_le _, text.length, 0, ?_, text.length, ht, ?_⟩
    · exact (TextTest.passes_textStart_iff (Nat.zero_le _)).2 ⟨rfl, rfl⟩
    · rw [Term.rowJoins_singleton]
      exact TextTest.passes_textEnd_iff.2 ⟨Nat.le_refl _, rfl⟩

end NamedData.TextPattern
