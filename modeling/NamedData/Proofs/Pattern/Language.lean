import Mathlib.Computability.Language
import NamedData.Pattern.NamePattern
import NamedData.Proofs.Pattern.Positions

/-!
# The language of an expression

A selector accepts single items and an expression builds larger languages from these, repetition as the
powers that its bounds allow. `Spans items L p q` says that a word of `L` stands in a list between two
positions; concatenation is the composition of these relations, so a power of a language is a number of
steps. The matcher gives the positions that the language spans to, each once and in order
(`mem_reach`, `pairwise_reach`), and a search finds a stretch if the list has one (`search_iff`).
Rounds beyond the number of items find nothing new (`withinRounds_reach`): whatever the bound,
the loop ends on its own.
-/

namespace NamedData.Pattern

open Positions (Steps NextAlong Explored)

/-! ## Languages -/

/-- The single items that pass. -/
def Selector.language {τ α : Type} (passes : τ → α → Bool) : Selector τ → Language α
  | one test => {w | ∃ item, w = [item] ∧ passes test item = true}
  | set tests false => {w | ∃ item, w = [item] ∧ ∃ test ∈ tests, passes test item = true}
  | set tests true => {w | ∃ item, w = [item] ∧ ∀ test ∈ tests, passes test item = false}

namespace Expr

variable {σ α : Type}

/-- The stretches that an expression accepts, given those that pass a test. -/
def language (accepted : σ → Language α) : Expr σ → Language α
  | test t => accepted t
  | empty => 1
  | cat first second => language accepted first * language accepted second
  | alt left right => language accepted left + language accepted right
  | rep inner min max =>
    {w | ∃ k, min ≤ k ∧ (∀ most ∈ max, k ≤ most) ∧ w ∈ language accepted inner ^ k}

/-- No repetition has bounds in the wrong order. -/
def InOrder : Expr σ → Prop
  | test _ | empty => True
  | cat first second => first.InOrder ∧ second.InOrder
  | alt left right => left.InOrder ∧ right.InOrder
  | rep inner min max => inner.InOrder ∧ ∀ most ∈ max, min ≤ most

end Expr

/-! ## Stretches of a list -/

variable {α : Type} {items : List α} {L M : Language α} {p q : Nat}

/-- A word of a language stands between two positions of a list. -/
def Spans (items : List α) (L : Language α) (p q : Nat) : Prop :=
  ∃ w ∈ L, w <+: items.drop p ∧ p + w.length = q

namespace Spans

theorem le (h : Spans items L p q) : p ≤ q := by
  obtain ⟨w, -, -, rfl⟩ := h
  exact Nat.le_add_right _ _

/-- No stretch is longer than the list. -/
theorem sub_le (h : Spans items L p q) : q - p ≤ items.length := by
  obtain ⟨w, -, hw, rfl⟩ := h
  have hlength := hw.length_le
  rw [List.length_drop] at hlength
  omega

theorem le_length (h : Spans items L p q) (hp : p ≤ items.length) : q ≤ items.length := by
  obtain ⟨w, -, hw, rfl⟩ := h
  have hlength := hw.length_le
  rw [List.length_drop] at hlength
  omega

theorem iff_extract (hp : p ≤ items.length) :
    Spans items L p q ↔ p ≤ q ∧ q ≤ items.length ∧ items.extract p q ∈ L := by
  constructor
  · intro h
    refine ⟨h.le, h.le_length hp, ?_⟩
    obtain ⟨w, hwL, hw, rfl⟩ := h
    have hextract : items.extract p (p + w.length) = w := by
      rw [List.extract, Nat.add_sub_cancel_left]
      exact (List.prefix_iff_eq_take.1 hw).symm
    rwa [hextract]
  · rintro ⟨hpq, hq, hL⟩
    refine ⟨items.extract p q, hL, List.take_prefix _ _, ?_⟩
    rw [List.extract, List.length_take, List.length_drop]
    omega

theorem one_iff : Spans items 1 p q ↔ p = q := by
  constructor
  · rintro ⟨w, hw, -, rfl⟩
    rw [(Language.mem_one w).1 hw]
    rfl
  · rintro rfl
    exact ⟨[], rfl, List.nil_prefix, rfl⟩

theorem add_iff : Spans items (L + M) p q ↔ Spans items L p q ∨ Spans items M p q := by
  constructor
  · rintro ⟨w, hL | hM, hw⟩
    · exact .inl ⟨w, hL, hw⟩
    · exact .inr ⟨w, hM, hw⟩
  · rintro (⟨w, hL, hw⟩ | ⟨w, hM, hw⟩)
    · exact ⟨w, .inl hL, hw⟩
    · exact ⟨w, .inr hM, hw⟩

theorem mul_iff : Spans items (L * M) p q ↔ ∃ r, Spans items L p r ∧ Spans items M r q := by
  constructor
  · rintro ⟨w, hw, ⟨rest, hrest⟩, rfl⟩
    obtain ⟨u, hu, v, hv, rfl⟩ := Language.mem_mul.1 hw
    rw [List.append_assoc] at hrest
    have hv' : items.drop (p + u.length) = v ++ rest := by
      rw [← List.drop_drop, ← hrest, List.drop_left]
    refine ⟨p + u.length, ⟨u, hu, ⟨v ++ rest, hrest⟩, rfl⟩, v, hv, ⟨rest, hv'.symm⟩, ?_⟩
    rw [List.length_append, Nat.add_assoc]
  · rintro ⟨r, ⟨u, hu, ⟨rest, hrest⟩, rfl⟩, v, hv, hprefix, rfl⟩
    rw [← List.drop_drop, ← hrest, List.drop_left] at hprefix
    refine ⟨u ++ v, Language.append_mem_mul hu hv, ?_, ?_⟩
    · rw [← hrest]
      exact (List.prefix_append_right_inj u).2 hprefix
    · rw [List.length_append, Nat.add_assoc]

theorem pow_iff {k : Nat} : Spans items (L ^ k) p q ↔ Steps (Spans items L) k p q := by
  induction k generalizing p with
  | zero =>
    rw [pow_zero, one_iff]
    constructor
    · rintro rfl
      exact .refl p
    · intro h
      cases h
      rfl
  | succ k ih =>
    rw [pow_succ', mul_iff]
    constructor
    · rintro ⟨r, hfirst, hothers⟩
      exact .head hfirst (ih.1 hothers)
    · intro h
      cases h with
      | head hfirst hothers => exact ⟨_, hfirst, ih.2 hothers⟩

theorem pow_add_iff {j k : Nat} :
    Spans items (L ^ (j + k)) p q ↔ ∃ r, Spans items (L ^ j) p r ∧ Spans items (L ^ k) r q := by
  rw [pow_add, mul_iff]

/-- Empty words can be left out, so that no more words are needed than items. -/
theorem exists_pow_le {k : Nat} (h : Spans items (L ^ k) p q) :
    ∃ j ≤ k, j ≤ q - p ∧ Spans items (L ^ j) p q := by
  have hsteps := pow_iff.1 h
  clear h
  induction hsteps with
  | refl => exact ⟨0, Nat.le_refl 0, Nat.zero_le _, pow_iff.2 (.refl _)⟩
  | @head k p r q hfirst hothers ih =>
    obtain ⟨j, hjk, hj, hspans⟩ := ih
    have hpr := hfirst.le
    have hrq := hspans.le
    by_cases hsame : p = r
    · subst hsame
      exact ⟨j, by omega, hj, hspans⟩
    · exact ⟨j + 1, by omega, by omega, pow_iff.2 (.head hfirst (pow_iff.1 hspans))⟩

end Spans

/-! ## The matcher -/

theorem Selector.mem_language {τ : Type} {passes : τ → α → Bool} {selector : Selector τ} {w : List α} :
    w ∈ selector.language passes ↔ ∃ item, w = [item] ∧ selector.accepts passes item = true := by
  cases selector with
  | one test => rfl
  | set tests negated =>
    cases negated with
    | false =>
      refine exists_congr fun item => and_congr_right fun _ => ?_
      simp [accepts]
    | true =>
      refine exists_congr fun item => and_congr_right fun _ => ?_
      simp [accepts]

theorem Selector.mem_step {τ : Type} {passes : τ → α → Bool} {selector : Selector τ} :
    q ∈ selector.step passes items p ↔ Spans items (selector.language passes) p q := by
  unfold step
  constructor
  · intro h
    split at h
    · next hany =>
      obtain rfl := List.mem_singleton.1 h
      obtain ⟨item, hitem, haccepts⟩ := (Option.any_eq_true _ _).1 hany
      refine ⟨[item], mem_language.2 ⟨item, rfl, haccepts⟩, ?_, rfl⟩
      obtain ⟨hp, rfl⟩ := List.getElem?_eq_some_iff.1 hitem
      rw [List.drop_eq_getElem_cons hp]
      exact ⟨_, rfl⟩
    · cases h
  · rintro ⟨w, hw, ⟨rest, hrest⟩, rfl⟩
    obtain ⟨item, rfl, haccepts⟩ := mem_language.1 hw
    have hitem : items[p]? = some item := by
      rw [← List.head?_drop, ← hrest]
      rfl
    simp [hitem, haccepts]

namespace Expr

variable {σ : Type} {step : σ → Nat → List Nat} {accepted : σ → Language α} {e inner : Expr σ} {starts : List Nat}
  {min : Nat} {max : Option Nat}

/-- The bound on the rounds lets as many pass as the upper bound allows, up to the length of the list. -/
theorem le_extraRounds_iff {length k : Nat} (hk : k ≤ length) (hbounds : ∀ most ∈ max, min ≤ most) :
    k ≤ extraRounds length min max ↔ ∀ most ∈ max, min + k ≤ most := by
  cases max with
  | none =>
    simp only [extraRounds, Option.mem_def, reduceCtorEq, false_implies, implies_true, iff_true]
    omega
  | some most =>
    have hmost := hbounds most rfl
    simp only [extraRounds, Option.mem_def, Option.some.injEq, forall_eq']
    rw [Nat.le_min]
    omega

/-- A repetition goes on from where its least number of rounds led to. -/
theorem spans_rep_iff (hbounds : ∀ most ∈ max, min ≤ most) :
    Spans items ((rep inner min max).language accepted) p q
      ↔ ∃ r, Spans items (inner.language accepted ^ min) p r
        ∧ ∃ k ≤ extraRounds items.length min max, Spans items (inner.language accepted ^ k) r q := by
  constructor
  · rintro ⟨w, ⟨k, hmin, hmax, hw⟩, hspans⟩
    obtain ⟨more, rfl⟩ := Nat.exists_eq_add_of_le hmin
    obtain ⟨r, hleast, hmore⟩ := Spans.pow_add_iff.1 ⟨w, hw, hspans⟩
    obtain ⟨j, hj, hlength, hfewer⟩ := hmore.exists_pow_le
    refine ⟨r, hleast, j, (le_extraRounds_iff (hlength.trans hmore.sub_le) hbounds).2 ?_, hfewer⟩
    intro most hmost
    exact (Nat.add_le_add_left hj min).trans (hmax most hmost)
  · rintro ⟨r, hleast, k, hk, hmore⟩
    obtain ⟨j, hj, hlength, hfewer⟩ := hmore.exists_pow_le
    have hmax := (le_extraRounds_iff (hlength.trans hmore.sub_le) hbounds).1 (hj.trans hk)
    obtain ⟨w, hw, hspans⟩ := Spans.pow_add_iff.2 ⟨r, hleast, hfewer⟩
    exact ⟨w, ⟨min + j, Nat.le_add_right _ _, hmax, hw⟩, hspans⟩

/-- The positions that are reached are those to which the language spans. -/
theorem mem_reach (hstep : ∀ t p q, q ∈ step t p ↔ Spans items (accepted t) p q) (he : e.InOrder) :
    NextAlong (e.reach step items.length) (Spans items (e.language accepted)) := by
  induction e with
  | test t =>
    intro starts q
    rw [reach, Positions.mem_advance]
    simp only [hstep, language]
  | empty =>
    intro starts q
    simp only [reach, language, Spans.one_iff, exists_eq_right]
  | cat first second ihfirst ihsecond =>
    intro starts q
    rw [reach, ihsecond he.2, language]
    simp only [ihfirst he.1 starts, Spans.mul_iff]
    constructor
    · rintro ⟨r, ⟨p, hp, hfirst⟩, hsecond⟩
      exact ⟨p, hp, r, hfirst, hsecond⟩
    · rintro ⟨p, hp, r, hfirst, hsecond⟩
      exact ⟨r, ⟨p, hp, hfirst⟩, hsecond⟩
  | alt left right ihleft ihright =>
    intro starts q
    rw [reach, Positions.mem_union, ihleft he.1, ihright he.2, language]
    simp only [Spans.add_iff, and_or_left, exists_or]
  | rep inner min max ih =>
    intro starts q
    have hnext := ih he.1
    rw [reach, Positions.afterRounds_eq_iterate,
      Positions.mem_withinRounds hnext (Explored.start _ _)]
    simp only [hnext.iterate min starts, spans_rep_iff he.2, Spans.pow_iff]
    constructor
    · rintro ⟨k, hk, r, ⟨p, hp, hleast⟩, hmore⟩
      exact ⟨p, hp, r, hleast, k, hk, hmore⟩
    · rintro ⟨p, hp, r, hleast, k, hk, hmore⟩
      exact ⟨k, hk, r, ⟨p, hp, hleast⟩, hmore⟩

/-- The positions that are reached are in order. -/
theorem pairwise_reach {length : Nat} (e : Expr σ) (h : starts.Pairwise (· < ·)) :
    (e.reach step length starts).Pairwise (· < ·) := by
  induction e generalizing starts with
  | test t => exact Positions.pairwise_advance _ _
  | empty => exact h
  | cat first second ihfirst ihsecond => exact ihsecond (ihfirst h)
  | alt left right ihleft ihright => exact Positions.pairwise_union (ihleft h) (ihright h)
  | rep inner min max ih =>
    rw [reach, Positions.afterRounds_eq_iterate]
    have hleast : ((reach step length inner)^[min] starts).Pairwise (· < ·) :=
      Positions.pairwise_iterate (fun _ => ih) h
    exact Positions.pairwise_withinRounds (fun _ => ih) hleast hleast

/-- Rounds beyond the number of positions change nothing. -/
theorem withinRounds_reach (hstep : ∀ t p q, q ∈ step t p ↔ Spans items (accepted t) p q) (he : e.InOrder)
    (h : starts.Pairwise (· < ·)) (rounds : Nat) :
    Positions.withinRounds (e.reach step items.length) rounds starts starts
      = Positions.withinRounds (e.reach step items.length) (Nat.min rounds (items.length + 1)) starts
        starts := by
  have hkeeps : ∀ starts : List Nat, starts.Pairwise (· < ·) →
      (e.reach step items.length starts).Pairwise (· < ·) := fun _ => pairwise_reach e
  refine (Positions.pairwise_withinRounds hkeeps h h).eq_of_mem_iff
    (Positions.pairwise_withinRounds hkeeps h h) fun q => ?_
  have hnext := mem_reach hstep he
  rw [Positions.mem_withinRounds hnext (Explored.start _ _),
    Positions.mem_withinRounds hnext (Explored.start _ _)]
  constructor
  · rintro ⟨k, hk, p, hp, hsteps⟩
    have hspans := Spans.pow_iff.2 hsteps
    obtain ⟨j, hj, hlength, hfewer⟩ := hspans.exists_pow_le
    have hitems := hspans.sub_le
    exact ⟨j, Nat.le_min.2 ⟨by omega, by omega⟩, p, hp, Spans.pow_iff.1 hfewer⟩
  · rintro ⟨k, hk, hreached⟩
    exact ⟨k, (Nat.le_min.1 hk).1, hreached⟩

/-- A search finds a stretch that is accepted and stands where it has to. -/
theorem search_iff (hstep : ∀ t p q, q ∈ step t p ↔ Spans items (accepted t) p q) (he : e.InOrder)
    (fromStart toEnd : Bool) : e.search step items.length fromStart toEnd = true ↔
      ∃ p q, (p ≤ q ∧ q ≤ items.length ∧ items.extract p q ∈ e.language accepted)
        ∧ (fromStart = true → p = 0) ∧ (toEnd = true → q = items.length) := by
  have hstarts : ∀ p, p ∈ (if fromStart then [0] else List.range (items.length + 1)) ↔
      p ≤ items.length ∧ (fromStart = true → p = 0) := by
    intro p
    cases fromStart with
    | true => simp +contextual
    | false =>
      rw [if_neg Bool.false_ne_true, List.mem_range, Nat.lt_succ_iff]
      exact (and_iff_left nofun).symm
  have hstops : ∀ q, q ∈ e.reach step items.length
        (if fromStart then [0] else List.range (items.length + 1)) ↔
      ∃ p, (p ≤ q ∧ q ≤ items.length ∧ items.extract p q ∈ e.language accepted)
        ∧ (fromStart = true → p = 0) := by
    intro q
    rw [mem_reach hstep he]
    simp only [hstarts]
    constructor
    · rintro ⟨p, ⟨hp, hstart⟩, hspans⟩
      exact ⟨p, (Spans.iff_extract hp).1 hspans, hstart⟩
    · rintro ⟨p, hstretch, hstart⟩
      have hp : p ≤ items.length := hstretch.1.trans hstretch.2.1
      exact ⟨p, ⟨hp, hstart⟩, (Spans.iff_extract hp).2 hstretch⟩
  unfold search
  cases toEnd with
  | true =>
    simp only [if_true, List.contains_iff_mem, hstops]
    constructor
    · rintro ⟨p, hstretch, hstart⟩
      exact ⟨p, items.length, hstretch, hstart, fun _ => rfl⟩
    · rintro ⟨p, q, hstretch, hstart, hend⟩
      obtain rfl := hend trivial
      exact ⟨p, hstretch, hstart⟩
  | false =>
    simp only [Bool.false_eq_true, if_false, Bool.not_eq_true', List.isEmpty_eq_false_iff_exists_mem, hstops]
    constructor
    · rintro ⟨q, p, hstretch, hstart⟩
      exact ⟨p, q, hstretch, hstart, nofun⟩
    · rintro ⟨p, q, hstretch, hstart, -⟩
      exact ⟨q, p, hstretch, hstart⟩

end Expr

/-- The matcher decides the language of an expression: from each position it gives the ends of all
stretches in the language, each once and in ascending order, and it accepts a list if and only if some
stretch of it is in the language, one from the start and one to the end where these are demanded. The
rounds of a repetition come to rest on their own: a list has only so many positions. -/
theorem matcher_decides_language {τ : Type} (passes : τ → α → Bool) (items : List α)
    (e : Expr (Selector τ)) (he : e.InOrder) :
    (∀ p ≤ items.length,
      (e.ends (Selector.step passes items) items.length p).Pairwise (· < ·)
        ∧ ∀ q, q ∈ e.ends (Selector.step passes items) items.length p ↔
          p ≤ q ∧ q ≤ items.length ∧ items.extract p q ∈ e.language (Selector.language passes))
    ∧ (∀ fromStart toEnd, (⟨fromStart, toEnd, e⟩ : Parsed τ).accepts passes items = true ↔
        ∃ p q, (p ≤ q ∧ q ≤ items.length ∧ items.extract p q ∈ e.language (Selector.language passes))
          ∧ (fromStart = true → p = 0) ∧ (toEnd = true → q = items.length))
    ∧ ∀ starts, starts.Pairwise (· < ·) → ∀ rounds,
        Positions.withinRounds (e.reach (Selector.step passes items) items.length) rounds starts starts
          = Positions.withinRounds (e.reach (Selector.step passes items) items.length)
            (Nat.min rounds (items.length + 1)) starts starts := by
  have hstep : ∀ (selector : Selector τ) p q, q ∈ selector.step passes items p ↔
      Spans items (selector.language passes) p q := fun _ _ _ => Selector.mem_step
  refine ⟨fun p hp => ⟨Expr.pairwise_reach e (List.pairwise_singleton _ p), fun q => ?_⟩,
    Expr.search_iff hstep he, fun starts => Expr.withinRounds_reach hstep he⟩
  rw [← Spans.iff_extract hp, Expr.ends, Expr.mem_reach hstep he]
  simp

/-- Any number of rows of twos and then a three or a four; a test is a number that items have to equal. -/
def nestedRepetition : Expr (Selector Nat) :=
  .cat (.rep (.rep (.test (.one 2)) 0 none) 0 none) (.test (.set [3, 4] false))

theorem matcher_decides_language_nested :
    nestedRepetition.InOrder
      ∧ [2, 2, 3].extract 0 3 ∈ nestedRepetition.language (Selector.language fun m n : Nat => m == n)
      ∧ [2, 5, 3].extract 0 3 ∉ nestedRepetition.language (Selector.language fun m n : Nat => m == n) := by
  have horder : nestedRepetition.InOrder := by simp [nestedRepetition, Expr.InOrder]
  have hthree : nestedRepetition.ends (Selector.step (fun m n : Nat => m == n) [2, 2, 3])
      [2, 2, 3].length 0 = [3] := by
    cbv
  have hnone : nestedRepetition.ends (Selector.step (fun m n : Nat => m == n) [2, 5, 3])
      [2, 5, 3].length 0 = [] := by
    cbv
  obtain ⟨hfound, -⟩ := matcher_decides_language (fun m n : Nat => m == n) [2, 2, 3] nestedRepetition horder
  obtain ⟨hmissed, -⟩ := matcher_decides_language (fun m n : Nat => m == n) [2, 5, 3] nestedRepetition horder
  refine ⟨horder, (((hfound 0 (Nat.zero_le _)).2 3).1 ?_).2.2, fun h => ?_⟩
  · rw [hthree]
    exact List.mem_singleton_self 3
  · have hmem := ((hmissed 0 (Nat.zero_le _)).2 3).2 ⟨by decide, by decide, h⟩
    rw [hnone] at hmem
    cases hmem

end NamedData.Pattern
