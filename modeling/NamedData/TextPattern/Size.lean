import NamedData.Text.Utf8Rows
import NamedData.TextPattern.Term
import Std.Data.HashMap

/-!
# The size of a pattern

The text is searched by an automaton that reads it byte by byte, forwards to find where a match ends
and backwards to find where it starts. The automaton of a term is put together from those of its
parts, repetitions written out; `Term.size` counts the memory that it takes, and `Term.fits` tells
whether it stays below the limit in both directions.

A state takes 32 bytes. On top of them, a state that reads one of several ranges of bytes takes 8
for every range, and a state that branches without reading takes 4 for every branch. The automaton
of a set shares states between its rows of bytes as far as a cache of a fixed number of slots finds
them; a slot holds the last state that was put there.
-/

namespace NamedData.TextPattern

open Text (ByteRange)

/-- The size of an automaton. -/
structure Size where
  /-- The number of states, which are numbered from 0 on. -/
  states : Nat
  /-- The bytes that ranges and branches take. -/
  extra : Nat
  deriving DecidableEq, Repr

namespace Size

/-- The memory that an automaton takes, in bytes. -/
def bytes (size : Size) : Nat :=
  32 * size.states + size.extra

/-- The memory that an automaton may take: 10 MiB. -/
def limit : Nat := 10 * 1024 * 1024

/-- The size with more states and more bytes for ranges and branches, unless that is too much. -/
def grow (states extra : Nat) (size : Size) : Option Size :=
  let size := ⟨size.states + states, size.extra + extra⟩
  if size.bytes ≤ limit then some size else none

/-- Repeats a step that adds to a size. -/
def times (step : Size → Option Size) : (n : Nat) → Size → Option Size
  | 0, size => some size
  | n + 1, size =>
    match step size with
    | some size => times step n size
    | none => none

end Size

/-! ## Sets -/

/-- A range of bytes and the state that it leads to. -/
abbrev Edge := ByteRange × Nat

/-- A hash over numbers: each is mixed into what the numbers before it gave. -/
def mix (numbers : List Nat) : Nat :=
  (numbers.foldl (fun h n => (h ^^^ n.toUInt64) * 1099511628211)
    (14695981039346656037 : UInt64)).toNat

/-- An automaton that is being put together for a set, with the states that its cache holds. -/
structure Draft (κ : Type) where
  size : Size
  /-- What is known of the state that a slot of the cache holds, and its number. -/
  cache : Std.HashMap Nat (κ × Nat)

/-- The state with the given description: the one in its slot, or a new one that takes `extra` bytes
for ranges. -/
def Draft.state {κ : Type} [DecidableEq κ] (slots extra : Nat) (numbers : List Nat) (key : κ)
    (draft : Draft κ) : Option (Nat × Draft κ) :=
  let slot := mix numbers % slots
  let fresh := do
    let size ← draft.size.grow 1 extra
    return (draft.size.states, ⟨size, draft.cache.insert slot (key, draft.size.states)⟩)
  match draft.cache[slot]? with
  | some (known, number) => if known = key then some (number, draft) else fresh
  | none => fresh

/-- The state from which the rows lead to `target`; they are in ascending order and have at most
`depth` ranges each. Rows that start with the same range share what follows it. -/
def forwardState (target : Nat) :
    (depth : Nat) → List (List ByteRange) → Draft (List Edge) → Option (Nat × Draft (List Edge))
  | 0, _, draft => some (target, draft)
  | depth + 1, rows, draft => do
    let (edges, draft) ← (rows.splitBy fun a b => a.head? = b.head?).foldlM
      (fun (edges, draft) group =>
        match group with
        | [range] :: _ => some ((range, target) :: edges, draft)
        | (range :: _) :: _ => do
          let (next, draft) ← forwardState target depth (group.map List.tail) draft
          return ((range, next) :: edges, draft)
        | _ => some (edges, draft))
      ([], draft)
    let edges := edges.reverse
    let numbers := edges.flatMap fun (range, next) => [range.1.toNat, range.2.toNat, next]
    draft.state 10000 (8 * edges.length) numbers edges

/-- Adds the automaton that reads the rows forwards. -/
def growForward (rows : List (List ByteRange)) (size : Size) : Option Size := do
  let target := size.states
  let size ← size.grow 1 0
  let (_, draft) ← forwardState target 4 rows ⟨size, ∅⟩
  return draft.size

/-- Adds the automaton that reads the rows backwards: every row is a chain of states that ends at
the same place, and chains share what their first bytes have in common. -/
def growBackward (rows : List (List ByteRange)) (size : Size) : Option Size := do
  let stop := size.states + 1
  let size ← size.grow 2 0
  let draft ← rows.foldlM
    (fun draft row => do
      let (_, draft) ← row.foldlM
        (fun (state, draft) range =>
          draft.state 1000 0 [state, range.1.toNat, range.2.toNat] (state, range))
        (stop, draft)
      return { draft with size := ← draft.size.grow 0 4 })
    (⟨size, ∅⟩ : Draft (Nat × ByteRange))
  return draft.size

/-- Adds the automaton of a set. -/
def growSet (backward : Bool) (members : Unicode.Charset) (size : Size) : Option Size :=
  if members.isAscii then size.grow 2 (8 * members.ranges.length)
  else if backward then growBackward (Text.utf8Rows members) size
  else growForward (Text.utf8Rows members) size

/-! ## Choices of literals -/

/-- A place in a tree of literals: the rows of edges that lead on, where a new row starts whenever a
literal ends there, since a longer one that comes later counts less. -/
structure Fork where
  /-- The complete rows, the last first. -/
  rows : List (List (UInt8 × List (List UInt8)))
  /-- The row in progress: bytes, each with what follows it in the literals, the last first. -/
  row : List (UInt8 × List (List UInt8))

namespace Fork

/-- Adds what follows a byte to a row. -/
def addEdge (byte : UInt8) (rest : List UInt8) :
    List (UInt8 × List (List UInt8)) → List (UInt8 × List (List UInt8))
  | [] => [(byte, [rest])]
  | (b, rests) :: others =>
    if b = byte then (b, rest :: rests) :: others else (b, rests) :: addEdge byte rest others

/-- Adds a literal. One that ends here where nothing leads on is not counted again. -/
def add (fork : Fork) : List UInt8 → Fork
  | [] =>
    if fork.row.isEmpty && fork.rows.all List.isEmpty && !fork.rows.isEmpty then fork
    else ⟨fork.row :: fork.rows, []⟩
  | byte :: rest => { fork with row := addEdge byte rest fork.row }

end Fork

/-- Adds the automaton below a place of a tree of literals that have at most `depth` bytes left. -/
def growTree : (depth : Nat) → (literals : List (List UInt8)) → Size → Option Size
  | 0, _, size => some size
  | depth + 1, literals, size => do
    let fork := literals.foldl Fork.add ⟨[], []⟩
    let rows := (fork.row :: fork.rows).filter (!·.isEmpty)
    let size ← size.grow 1 (4 * (rows.length + fork.rows.length))
    rows.foldlM
      (fun size row => do
        let size ← size.grow 1 (if row.length = 1 then 0 else 8 * row.length)
        row.foldlM
          (fun size (_, rests) =>
            if rests.all List.isEmpty then some size else growTree depth rests.reverse size)
          size)
      size

/-- Adds the automaton of a choice between literals. -/
def growLiterals (backward : Bool) (literals : List (List Char)) (size : Size) : Option Size := do
  let bytes := literals.map fun text =>
    let bytes := text.flatMap String.utf8EncodeChar
    if backward then bytes.reverse else bytes
  let depth := bytes.foldl (fun n b => max n b.length) 0
  growTree depth bytes (← size.grow 1 0)

/-! ## Terms -/

namespace Term

/-- The literals of a choice that has no other branches. -/
def literals? : Term → Option (List (List Char))
  | literal text => some [text]
  | alt (literal text) rest => rest.literals?.map (text :: ·)
  | _ => none

/-- Whether the last state of the automaton is the branch of a loop, so that every way on from there
is a branch more. -/
def endsInLoop (backward : Bool) : Term → Bool
  | group _ inner => backward && inner.endsInLoop backward
  | rep inner min none _ => 0 < min || inner.minLength.any (0 < ·)
  | rep inner min (some max) _ => min = max && inner.endsInLoop backward
  | cat first rest => if backward then first.endsInLoop backward else rest.endsInLoop backward
  | _ => false

/-- The bytes that a way on from the last state takes. -/
def exitCost (backward : Bool) (t : Term) : Nat :=
  if t.endsInLoop backward then 4 else 0

/-- Adds the automaton of a term that is the branch number `branch` of a choice; a term that is no
part of a choice counts as a first branch. -/
def grow (backward : Bool) : (branch : Nat) → Term → Size → Option Size
  | branch, alt first rest, size =>
    match if branch = 0 then literals? (alt first rest) else none with
    | some literals => growLiterals backward literals size
    | none => do
      let size ← grow backward 0 first size
      -- The state that branches and the one that all branches lead to come after two branches.
      let size ← size.grow (if branch = 1 then 2 else 0) (4 + first.exitCost backward)
      grow backward (branch + 1) rest size
  | branch, t, size => do
    let size ← match t with
      | empty | boundary _ => size.grow 1 0
      | literal text => size.grow (text.flatMap String.utf8EncodeChar).length 0
      | set _ members => growSet backward members size
      | group _ inner =>
        if backward then grow backward 0 inner size
        else do
          let size ← size.grow 1 0
          let size ← grow backward 0 inner size
          size.grow 1 (inner.exitCost backward)
      | rep inner min max _ =>
        let exit := inner.exitCost backward
        let once := grow backward 0 inner
        let copies (n : Nat) (size : Size) :=
          if n = 0 then size.grow 1 0
          else do (← once size).times (fun size => do (← once size).grow 0 exit) (n - 1)
        match max with
        | none =>
          if min = 0 then
            if inner.minLength.any (0 < ·) then do
              let size ← size.grow 1 4
              (← once size).grow 0 exit
            else do (← once size).grow 3 (16 + exit)
          else if min = 1 then do (← once size).grow 1 (4 + exit)
          else do
            let size ← copies (min - 1) size
            (← once size).grow 1 (4 + 2 * exit)
        | some max =>
          if min = max then copies min size
          else if min = 0 ∧ max = 1 then do
            let size ← size.grow 1 8
            (← once size).grow 1 exit
          else do
            let size ← copies min size
            let size ← size.grow 1 (if min = 0 then 0 else exit)
            size.times
              (fun size => do
                let size ← size.grow 1 8
                (← once size).grow 0 exit)
              (max - min)
      | cat first rest =>
        if backward then do
          let size ← grow backward 0 rest size
          grow backward 0 first (← size.grow 0 (rest.exitCost backward))
        else do
          let size ← grow backward 0 first size
          grow backward 0 rest (← size.grow 0 (first.exitCost backward))
      | alt _ _ => none
    if branch = 0 then some size
    else size.grow (if branch = 1 then 2 else 0) (4 + t.exitCost backward)

/-- The size of the automaton for a pattern, unless it is too large. It starts with a loop over all
bytes if a match may start anywhere; forwards it also notes where the match starts and ends. -/
def size (backward : Bool) (t : Term) : Option Size := do
  let fixed := if backward then t.asksForEnd else t.asksForStart
  let size ← if fixed then Size.grow 1 0 ⟨0, 0⟩ else Size.grow 3 16 ⟨0, 0⟩
  let size ← if backward then some size else size.grow 1 0
  let size ← t.grow backward 0 size
  size.grow (if backward then 1 else 2) (t.exitCost backward)

/-- Whether the automata for a pattern stay within the limit. -/
def fits (t : Term) : Bool :=
  (t.size false).isSome && (t.size true).isSome

end Term

end NamedData.TextPattern
