import NamedData.TextPattern.Basic

/-!
# Simplified expressions

A text pattern is kept as a `Term`, which is simplified as it is put together: neighbouring
characters are joined to a literal, rows and choices are flattened, a choice of characters or of
sets becomes a set, a start that all choices have in common is taken out of them, and a repetition
of what is always empty is not counted. So terms that are written in different ways agree more
often, and the size of a pattern, which is limited, is that of its term.

`Term.expr` is the expression that a term stands for.
-/

namespace NamedData.TextPattern

open Pattern (Expr)
open Unicode (Charset)

/-- A simplified expression. A row is a chain of `cat` in which no first part is a row or empty, and
a choice is a chain of `alt` in which no first part is a choice. -/
inductive Term where
  | empty
  /-- Characters in a row; there is at least one. -/
  | literal (text : List Char)
  /-- A character of a set; `unicode` tells whether the set might have gone beyond ASCII. -/
  | set (unicode : Bool) (members : Charset)
  | boundary (kind : Boundary)
  /-- A group in parentheses with its number. -/
  | group (number : Nat) (inner : Term)
  /-- A repetition that prefers more rounds if `greedy` is set. -/
  | rep (inner : Term) (min : Nat) (max : Option Nat) (greedy : Bool)
  | cat (first rest : Term)
  | alt (first rest : Term)
  deriving DecidableEq, Repr

namespace Term

/-! ## What a term matches -/

/-- The expression that a term stands for. -/
def expr : Term → Expr TextTest
  | empty => .empty
  | literal text => text.foldr (fun c rest => .cat (.test (.one (.single c))) rest) .empty
  | set _ members => .test (.one members)
  | boundary kind => .test (.boundary kind)
  | group _ inner => inner.expr
  | rep inner min max _ => .rep inner.expr min max
  | cat first rest => .cat first.expr rest.expr
  | alt first rest => .alt first.expr rest.expr

/-- The least number of characters that a term matches; none if it holds a set without members at a
place that every match passes, or in a choice. -/
def minLength : Term → Option Nat
  | empty | boundary _ => some 0
  | literal text => some text.length
  | set _ members => if members.ranges.isEmpty then none else some 1
  | group _ inner => inner.minLength
  | rep inner min _ _ => inner.minLength.map (· * min)
  | cat first rest => do return (← first.minLength) + (← rest.minLength)
  | alt first rest => do return Nat.min (← first.minLength) (← rest.minLength)

/-- The greatest number of characters that a term matches; none if there is no bound, or as for the
least number. -/
def maxLength : Term → Option Nat
  | empty | boundary _ => some 0
  | literal text => some text.length
  | set _ members => if members.ranges.isEmpty then none else some 1
  | group _ inner => inner.maxLength
  | rep inner _ max _ => do return (← inner.maxLength) * (← max)
  | cat first rest => do return (← first.maxLength) + (← rest.maxLength)
  | alt first rest => do return Nat.max (← first.maxLength) (← rest.maxLength)

/-- Whether a term asks for the start of the text before it consumes anything. -/
def asksForStart : Term → Bool
  | boundary kind => kind = .textStart
  | group _ inner => inner.asksForStart
  | rep inner min _ _ => 0 < min && inner.asksForStart
  | cat first rest =>
    first.asksForStart || (first.maxLength = some 0 && rest.asksForStart)
  | alt first rest => first.asksForStart && rest.asksForStart
  | _ => false

/-- Whether a term asks for the end of the text after all that it consumes. -/
def asksForEnd : Term → Bool
  | boundary kind => kind = .textEnd
  | group _ inner => inner.asksForEnd
  | rep inner min _ _ => 0 < min && inner.asksForEnd
  | cat first rest => rest.asksForEnd || (rest.maxLength = some 0 && first.asksForEnd)
  | alt first rest => first.asksForEnd && rest.asksForEnd
  | _ => false

/-! ## Putting terms together -/

/-- The term that matches nothing, not even the empty text. -/
def never : Term := set false .empty

/-- A character of a set. -/
def ofSet (unicode : Bool) (members : Charset) : Term :=
  match members.ranges with
  | [] => never
  | [(first, last)] => if first = last then literal [Char.ofNat first] else set unicode members
  | _ => set unicode members

/-- The parts of a row. -/
def parts : Term → List Term
  | empty => []
  | cat first rest => first :: rest.parts
  | t => [t]

/-- The branches of a choice. -/
def branches : Term → List Term
  | alt first rest => first :: rest.branches
  | t => [t]

/-- Puts a part before a row in which no two neighbours are literals. -/
def joinPart (part : Term) (row : List Term) : List Term :=
  match part, row with
  | literal text, literal more :: rest => literal (text ++ more) :: rest
  | part, row => part :: row

/-- The row of the given parts. -/
def chain : List Term → Term
  | [] => empty
  | [t] => t
  | t :: rest => cat t (chain rest)

/-- Terms in a row. -/
def row (terms : List Term) : Term :=
  chain ((terms.flatMap parts).foldr joinPart [])

/-- The choice between the given branches. -/
def either : List Term → Term
  | [] => never
  | [t] => t
  | t :: rest => alt t (either rest)

/-- The character of a literal of one character. -/
def character? : Term → Option Char
  | literal [c] => some c
  | _ => none

/-- The members of a set. -/
def members? : Term → Option Charset
  | set _ members => some members
  | _ => none

/-- What two lists start with. -/
def commonStart : List Term → List Term → List Term
  | a :: as, b :: bs => if a = b then a :: commonStart as bs else []
  | _, _ => []

/-- Whether a term is a row of two parts at least. -/
def isRow : Term → Bool
  | cat _ _ => true
  | _ => false

/-- The parts that all rows of a list start with; there are none if a term is no row. -/
def sharedStart : List Term → List Term
  | [] => []
  | t :: rest =>
    if (t :: rest).all isRow then rest.foldl (fun start r => commonStart start r.parts) t.parts
    else []

/-- The number of constructors of a term. -/
def weight : Term → Nat
  | group _ inner | rep inner _ _ _ => inner.weight + 1
  | cat first rest | alt first rest => first.weight + rest.weight + 1
  | _ => 1

/-- A choice between terms, where at most `fuel` times a start that all have in common is taken out
of what is left. -/
def chooseWith : (fuel : Nat) → List Term → Term
  | fuel, terms =>
    let all := terms.flatMap branches
    match all with
    | [] | [_] => either all
    | _ =>
      match all.mapM character? with
      | some characters => ofSet true (.unions (characters.map .single))
      | none =>
        match all.mapM members? with
        | some sets => ofSet true (.unions sets)
        | none =>
          match fuel, sharedStart all with
          | fuel + 1, part :: start =>
            let shared := part :: start
            let rests := all.map fun t => row (t.parts.drop shared.length)
            row (shared ++ [chooseWith fuel rests])
          | _, _ => either all

/-- A choice between terms. -/
def choose (terms : List Term) : Term :=
  -- What is taken out makes the rest lighter, so the weight is fuel enough.
  chooseWith (terms.foldl (fun n t => n + t.weight) 0) terms

/-- A term that is repeated. What is always empty is repeated once at most. -/
def repeated (inner : Term) (min : Nat) (max : Option Nat) (greedy : Bool) : Term :=
  let (min, max) :=
    if inner.maxLength = some 0 then (Nat.min min 1, some (max.elim 1 (Nat.min · 1)))
    else (min, max)
  if min = 0 ∧ max = some 0 then empty
  else if min = 1 ∧ max = some 1 then inner
  else rep inner min max greedy

end Term

end NamedData.TextPattern
