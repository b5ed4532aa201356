/-!
# Expressions over a sequence

An expression says which stretches of a sequence it accepts. What a single test accepts is left
open: a function `step` gives, for a test and a position, the positions at which a stretch that
starts there and passes the test may end. `Expr.reach` carries this over to a whole expression and
to several starts at once, and `Expr.search` asks whether some stretch of the sequence is accepted.

Repetition goes breadth first: after the least number of rounds, every further round starts from the
positions that were not seen before. A sequence of `length` items has `length + 1` positions, so
that many rounds see all there is to see, and the loop needs no other bound.
-/

namespace NamedData.Pattern

/-- An expression over tests of type `σ`. -/
inductive Expr (σ : Type) where
  /-- A stretch that passes a test. -/
  | test (t : σ)
  /-- The empty stretch. -/
  | empty
  /-- Two stretches in a row. -/
  | cat (first second : Expr σ)
  /-- A stretch that one of two expressions accepts. -/
  | alt (left right : Expr σ)
  /-- As many stretches in a row as the bounds allow. -/
  | rep (inner : Expr σ) (min : Nat) (max : Option Nat)
  deriving DecidableEq, Repr

/-! ## Sets of positions are ascending lists -/

namespace Positions

/-- Adds a position to an ascending list. -/
def insert (p : Nat) : List Nat → List Nat
  | [] => [p]
  | q :: rest => if p < q then p :: q :: rest else if p = q then q :: rest else q :: insert p rest

/-- The positions of a list, ascending and without repetition. -/
def ofList (positions : List Nat) : List Nat :=
  positions.foldr insert []

/-- An ascending list with every position once. -/
def dropRepeats : List Nat → List Nat
  | p :: q :: rest => if p = q then dropRepeats (q :: rest) else p :: dropRepeats (q :: rest)
  | positions => positions

/-- The positions of two ascending lists. -/
def union (a b : List Nat) : List Nat :=
  dropRepeats (List.merge a b)

/-- The positions that one step leads to from any of the given positions. -/
def advance (next : Nat → List Nat) (positions : List Nat) : List Nat :=
  ofList (positions.flatMap next)

/-- The positions after exactly `rounds` steps; a round that changes nothing is the last. -/
def afterRounds (next : List Nat → List Nat) : (rounds : Nat) → List Nat → List Nat
  | 0, positions => positions
  | rounds + 1, positions =>
    let following := next positions
    if following = positions then positions else afterRounds next rounds following

/-- The positions seen so far and those that at most `rounds` more steps reach, where the steps of a
round start from the positions that the round before was the first to see. -/
def withinRounds (next : List Nat → List Nat) :
    (rounds : Nat) → (frontier seen : List Nat) → List Nat
  | 0, _, seen => seen
  | rounds + 1, frontier, seen =>
    let fresh := (next frontier).filter fun p => !seen.contains p
    if fresh = [] then seen else withinRounds next rounds fresh (union seen fresh)

end Positions

namespace Expr

variable {σ : Type}

/-- How many rounds beyond the least number a repetition over `length` items may need. -/
def extraRounds (length min : Nat) : (max : Option Nat) → Nat
  | none => length + 1
  | some max => Nat.min (max - min) (length + 1)

/-- The positions at which an accepted stretch that starts at one of the given positions may end;
both lists are ascending. The sequence has `length` items. -/
def reach (step : σ → Nat → List Nat) (length : Nat) : Expr σ → List Nat → List Nat
  | test t, starts => Positions.advance (step t) starts
  | empty, starts => starts
  | cat first second, starts => reach step length second (reach step length first starts)
  | alt left right, starts =>
    Positions.union (reach step length left starts) (reach step length right starts)
  | rep inner min max, starts =>
    let next := reach step length inner
    let frontier := Positions.afterRounds next min starts
    Positions.withinRounds next (extraRounds length min max) frontier frontier

/-- The positions at which an accepted stretch that starts at a given position may end, ascending.
The sequence has `length` items. -/
def ends (step : σ → Nat → List Nat) (length : Nat) (e : Expr σ) (p : Nat) : List Nat :=
  e.reach step length [p]

/-- Whether some stretch of a sequence of `length` items is accepted, one from the first item if
`fromStart` is set, and one up to the last item if `toEnd` is set. -/
def search (step : σ → Nat → List Nat) (length : Nat) (fromStart toEnd : Bool) (e : Expr σ) :
    Bool :=
  let stops := e.reach step length (if fromStart then [0] else List.range (length + 1))
  if toEnd then stops.contains length else !stops.isEmpty

/-- Accepts the same as `e` in a row after what `before` accepts, if there is one. -/
def after (before : Option (Expr σ)) (e : Expr σ) : Expr σ :=
  match before with
  | none => e
  | some first => .cat first e

/-- Accepts the same as `e` or what `other` accepts, if there is one. -/
def orElse (other : Option (Expr σ)) (e : Expr σ) : Expr σ :=
  match other with
  | none => e
  | some left => .alt left e

end Expr

end NamedData.Pattern
