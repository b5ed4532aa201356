import NamedData.Text.Numeral
import NamedData.TextPattern.Class
import NamedData.TextPattern.Size

/-!
# Reading text patterns

A text pattern is a row of alternatives with bars between them; an alternative is a row of atoms,
each with any number of repetitions behind it; an atom is a character, a class, a position, or a
group in parentheses. A group may set options for itself, or for all that follows in the group
around it. `TextPattern.read` answers none for a text that is no pattern, whose notation is nested
too deep or that stands for an automaton that is too large.

A repetition may be marked as lazy. That matters for which match is found first, but not for whether
there is one.
-/

namespace NamedData.TextPattern

open Unicode (Charset)

/-! ## Repetitions -/

/-- Reads decimal digits, after which what does not count is left out. -/
def readDigits (flags : Flags) : (inComment : Bool) → List Char → List Char × List Char
  | _, [] => ([], [])
  | true, c :: rest => readDigits flags (c ≠ '\n') rest
  | false, c :: rest =>
    if c.isDigit then
      let (digits, after) := readDigits flags false rest
      (c :: digits, after)
    else if flags.blanks && Text.isBlank c then readDigits flags false rest
    else if flags.blanks && c = '#' then readDigits flags true rest
    else ([], c :: rest)

/-- Reads a decimal number below 2 to the power of 32, with blanks around it. -/
def readDecimal (flags : Flags) (text : List Char) : Option (Nat × List Char) :=
  match Text.trimStart text with
  | [] => none
  | c :: rest =>
    if !c.isDigit then none
    else
      let (digits, after) := readDigits flags false (c :: rest)
      match Text.Numeral.read UInt32.size digits with
      | .ok n => some (n, Text.trimStart after)
      | .error _ => none

/-- Reads the bounds of a repetition after the opening brace. -/
def readBounds (flags : Flags) (text : List Char) : Option ((Nat × Option Nat) × List Char) := do
  let (min, rest) ← readDecimal flags (flags.skip text)
  match rest with
  | '\x7d' :: rest => return ((min, some min), flags.skip rest)
  | ',' :: rest =>
    match flags.skip rest with
    | '\x7d' :: rest => return ((min, none), flags.skip rest)
    | rest =>
      let (max, rest) ← readDecimal flags rest
      match rest with
      | '\x7d' :: rest =>
        if min ≤ max then return ((min, some max), flags.skip rest) else none
      | _ => none
  | _ => none

/-- Whether a repetition is marked as lazy, and the text after the question mark that says so. -/
def readLazy : List Char → Bool × List Char
  | '?' :: rest => (true, rest)
  | text => (false, text)

/-! ## Atoms -/

/-- A term, and how deep its notation is nested. -/
structure Piece where
  term : Term
  depth : Nat

/-- The term for a character, unless it is a byte beyond ASCII where only ASCII counts. -/
def literalTerm (flags : Flags) (c : Char) (byte : Bool) : Option Term :=
  if flags.unicode then some (.ofSet true (flags.fold (.single c)))
  else if c.toNat < 0x80 then some (.ofSet false (flags.fold (.single c)))
  else if byte then none
  else some (.literal [c])

/-- The term for a character, a class or a position. -/
def Primitive.term (flags : Flags) : Primitive → Option Term
  | literal c byte => literalTerm flags c byte
  | set members => some (.ofSet flags.unicode members)
  | boundary kind => some (.boundary kind)

/-- The characters that a dot stands for. -/
def dotSet (flags : Flags) : Charset :=
  if flags.dotAll then .full
  else if flags.crlf then (Charset.ofTable "A D").complement
  else (Charset.ofTable "A").complement

/-- Reads an atom that is neither a group nor a class in brackets. A dot goes beyond ASCII. -/
def readAtom (flags : Flags) : List Char → Option (Term × List Char)
  | [] => none
  | '\\' :: rest => do
    let (primitive, rest) ← readEscape flags rest
    return (← primitive.term flags, rest)
  | '.' :: rest => if flags.unicode then some (.ofSet true (dotSet flags), rest) else none
  | '^' :: rest =>
    let kind := if flags.multiLine then .lineStart flags.crlf else .textStart
    some (.boundary kind, rest)
  | '$' :: rest =>
    let kind := if flags.multiLine then .lineEnd flags.crlf else .textEnd
    some (.boundary kind, rest)
  | c :: rest => (literalTerm flags c false).map (·, rest)

/-! ## Groups -/

/-- The greatest depth of some pieces. -/
def greatestDepth (pieces : List Piece) : Nat :=
  pieces.foldl (fun depth piece => max depth piece.depth) 0

/-- The depth of pieces that stand side by side: one more than theirs if there are several. -/
def depthTogether (pieces : List Piece) : Nat :=
  match pieces with
  | [] => 0
  | [piece] => piece.depth
  | pieces => greatestDepth pieces + 1

/-- Pieces in a row, the last first. -/
def rowOf (pieces : List Piece) : Piece :=
  ⟨.row (pieces.reverse.map Piece.term), depthTogether pieces⟩

/-- The choice between pieces, the last first. -/
def choiceOf (pieces : List Piece) : Piece :=
  match pieces with
  | [piece] => piece
  | pieces => ⟨.choose (pieces.reverse.map Piece.term), depthTogether pieces⟩

/-- A group that is being read. -/
structure Level where
  /-- The options in force. -/
  flags : Flags
  /-- The number of the group, unless none is counted for it. -/
  number : Option Nat
  /-- The alternatives before the last bar, the last first. -/
  alternatives : List Piece
  /-- The atoms after the last bar, the last first. -/
  row : List Piece
  /-- Whether the last atom may be repeated; options may not. -/
  repeatable : Bool

namespace Level

/-- A group of which nothing has been read. -/
def start (flags : Flags) (number : Option Nat) : Level := ⟨flags, number, [], [], false⟩

/-- What stands in the group. -/
def whole (level : Level) : Piece :=
  choiceOf (rowOf level.row :: level.alternatives)

/-- The group once it is complete. -/
def close (level : Level) : Piece :=
  let inner := level.whole
  ⟨level.number.elim inner.term (.group · inner.term), inner.depth + 1⟩

/-- The group after one more atom. -/
def push (level : Level) (atom : Piece) : Level :=
  { level with row := atom :: level.row, repeatable := true }

/-- The group after its last atom is repeated; `lazy` tells whether the repetition is marked. -/
def repeatLast (level : Level) (min : Nat) (max : Option Nat) (lazy : Bool) : Option Level :=
  match level.repeatable, level.row with
  | true, last :: row =>
    let term := last.term.repeated min max (lazy = level.flags.lazy)
    some { level with row := ⟨term, last.depth + 1⟩ :: row }
  | _, _ => none

/-- The group after a bar. -/
def bar (level : Level) : Level :=
  { level with
    alternatives := rowOf level.row :: level.alternatives, row := [], repeatable := false }

/-- The group after options that hold from here on. -/
def setFlags (level : Level) (flags : Flags) : Level :=
  { level with flags := flags, row := ⟨.empty, 0⟩ :: level.row, repeatable := false }

end Level

/-- What follows an opening parenthesis. -/
inductive GroupStart where
  /-- A group, given before anything in it is read. -/
  | group (inner : Level)
  /-- Options for what follows. -/
  | options (flags : Flags)

/-- Reads what follows an opening parenthesis where the given options are in force and `number` is
free. -/
def readGroupStart (flags : Flags) (number : Nat) (text : List Char) :
    Option (GroupStart × List Char) := do
  match flags.skip text with
  | '?' :: ')' :: _ => none
  | '?' :: rest =>
    let (flags, opens, rest) ← readFlags flags [] false false rest
    return (if opens then .group (.start flags none) else .options flags, rest)
  | rest => return (.group (.start flags (some number)), rest)

/-- Reads the rest of a pattern. The groups around the innermost one are in `outer`, and `number` is
the number of the next group that is counted. -/
def readRest : (fuel number : Nat) → (outer : List Level) → Level → List Char → Option Piece
  | 0, _, _, _, _ => none
  | fuel + 1, number, outer, level, text =>
    match level.flags.skip text with
    | [] => if outer.isEmpty then some level.whole else none
    | '(' :: rest => do
      match ← readGroupStart level.flags number rest with
      | (.group inner, rest) =>
        let next := if inner.number.isSome then number + 1 else number
        readRest fuel next (level :: outer) inner rest
      | (.options flags, rest) => readRest fuel number outer (level.setFlags flags) rest
    | ')' :: rest =>
      match outer with
      | [] => none
      | parent :: outer => readRest fuel number outer (parent.push level.close) rest
    | '|' :: rest => readRest fuel number outer level.bar rest
    | '[' :: rest => do
      let (cls, rest) ← readClass level.flags rest
      let term := Term.ofSet level.flags.unicode cls.members
      readRest fuel number outer (level.push ⟨term, cls.depth⟩) rest
    | '?' :: rest => do
      let (lazy, rest) := readLazy rest
      readRest fuel number outer (← level.repeatLast 0 (some 1) lazy) rest
    | '*' :: rest => do
      let (lazy, rest) := readLazy rest
      readRest fuel number outer (← level.repeatLast 0 none lazy) rest
    | '+' :: rest => do
      let (lazy, rest) := readLazy rest
      readRest fuel number outer (← level.repeatLast 1 none lazy) rest
    | '\x7b' :: rest => do
      let ((min, max), rest) ← readBounds level.flags rest
      let (lazy, rest) := readLazy rest
      readRest fuel number outer (← level.repeatLast min max lazy) rest
    | text => do
      let (atom, rest) ← readAtom level.flags text
      readRest fuel number outer (level.push ⟨atom, 0⟩) rest

/-- The greatest depth of the notation of a pattern. -/
def depthLimit : Nat := 250

end NamedData.TextPattern

namespace NamedData

/-- The pattern that a text denotes. -/
def TextPattern.read (text : List Char) : Option TextPattern := do
  -- Every step takes a character at least, so the fuel lasts to the end of the text.
  let piece ← TextPattern.readRest (text.length + 1) 1 [] (.start .initial none) text
  if piece.depth ≤ TextPattern.depthLimit ∧ piece.term.fits then some ⟨piece.term.expr⟩ else none

end NamedData
