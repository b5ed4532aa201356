import NamedData.TextPattern.Escape

/-!
# Classes of text patterns

A class in square brackets is a union of characters, ranges and other classes; `&&`, `--` and `~~`
between unions are intersection, difference and symmetric difference, from left to right. Where
letters stand for both cases, the other case is added to a class before it is negated, and to both
sides of an operation.
-/

namespace NamedData.TextPattern

open Unicode (Charset)

/-- The set of ASCII characters with a name of the kind that stands between `[:` and `:]`. -/
def asciiClass? (name : String) : Option Charset :=
  match name with
  | "alnum" => some (.ofTable "30-39 41-5A 61-7A")
  | "alpha" => some (.ofTable "41-5A 61-7A")
  | "ascii" => some .ascii
  | "blank" => some (.ofTable "9 20")
  | "cntrl" => some (.ofTable "0-1F 7F")
  | "digit" => some (.ofTable "30-39")
  | "graph" => some (.ofTable "21-7E")
  | "lower" => some (.ofTable "61-7A")
  | "print" => some (.ofTable "20-7E")
  | "punct" => some (.ofTable "21-2F 3A-40 5B-60 7B-7E")
  | "space" => some (.ofTable "9-D 20")
  | "upper" => some (.ofTable "41-5A")
  | "word" => some (.ofTable "30-39 41-5A 5F 61-7A")
  | "xdigit" => some (.ofTable "30-39 41-46 61-66")
  | _ => none

/-- Whether a character may stand in a class. -/
def classLiteral (flags : Flags) (c : Char) : Option Char :=
  if flags.unicode || c.toNat < 0x80 then some c else none

/-- Reads a character or a class that stands in brackets. -/
def readItem (flags : Flags) : List Char → Option (Primitive × List Char)
  | [] => none
  | '\\' :: rest => readEscape flags rest
  | c :: rest => some (.literal c false, rest)

/-- The class that an item on its own stands for. -/
def itemClass (flags : Flags) : Primitive → Option Charset
  | .literal c _ => (classLiteral flags c).map .single
  | .set members => some members
  | .boundary _ => none

/-- Reads an item or the range between two items. A hyphen before a closing bracket or before
another hyphen makes no range. -/
def readRange (flags : Flags) (text : List Char) : Option (Charset × List Char) := do
  let (first, rest) ← readItem flags text
  match flags.skip rest with
  | [] => none
  | '-' :: rest =>
    let next := flags.peek rest
    if next = some ']' ∨ next = some '-' then return (← itemClass flags first, '-' :: rest)
    else
      let (second, rest) ← readItem flags (flags.skip rest)
      match first, second with
      | .literal low _, .literal high _ =>
        let low ← classLiteral flags low
        let high ← classLiteral flags high
        if low ≤ high then return (.range low high, rest) else none
      | _, _ => none
  | rest => return (← itemClass flags first, rest)

/-- Reads a named class, after the bracket before its first colon. -/
def readNamed (text : List Char) : Option ((Charset × Bool) × List Char) :=
  match text with
  | ':' :: rest =>
    let (negated, rest) :=
      match rest with
      | '^' :: rest => (true, rest)
      | _ => (false, rest)
    let name := rest.takeWhile (· ≠ ':')
    match rest.drop name.length with
    | ':' :: ']' :: rest =>
      (asciiClass? (String.ofList name)).map fun members => ((members, negated), rest)
    | _ => none
  | _ => none

/-- The operations between unions. -/
inductive ClassOp where
  | inter
  | diff
  | symmDiff
  deriving DecidableEq, Repr

/-- The result of an operation. -/
def ClassOp.apply : ClassOp → Charset → Charset → Charset
  | inter => .inter
  | diff => .diff
  | symmDiff => .symmDiff

/-- A class, or a part of one, and how deep its notation is nested. -/
structure Nested where
  members : Charset
  depth : Nat

/-- A class that is being read. -/
structure OpenClass where
  negated : Bool
  /-- What stands before the last operation, and the operation. -/
  left : Option (Nested × ClassOp)
  /-- The union of the items after the last operation, and the greatest depth among them. -/
  items : Nested
  /-- The number of the items. -/
  count : Nat

namespace OpenClass

/-- A class of which no item has been read. -/
def start (negated : Bool) : OpenClass := ⟨negated, none, ⟨.empty, 0⟩, 0⟩

/-- The class with one more item. -/
def add (cls : OpenClass) (members : Charset) (depth : Nat) : OpenClass :=
  { cls with
    items := ⟨cls.items.members.union members, max cls.items.depth depth⟩
    count := cls.count + 1 }

/-- The union of the items, which is one level deeper if there are several. -/
def unionOfItems (cls : OpenClass) : Nested :=
  { cls.items with depth := if cls.count ≤ 1 then cls.items.depth else cls.items.depth + 1 }

/-- The characters of all that was read. -/
def value (flags : Flags) (cls : OpenClass) : Nested :=
  let right := cls.unionOfItems
  match cls.left with
  | none => right
  | some (left, op) =>
    ⟨op.apply (flags.fold left.members) (flags.fold right.members), max left.depth right.depth + 1⟩

/-- The class before the right side of an operation. -/
def operate (flags : Flags) (op : ClassOp) (cls : OpenClass) : OpenClass :=
  { cls with left := some (cls.value flags, op), items := ⟨.empty, 0⟩, count := 0 }

/-- The class once it is complete. -/
def close (flags : Flags) (cls : OpenClass) : Option Nested := do
  let value := cls.value flags
  return ⟨← flags.negateIf cls.negated (flags.fold value.members), value.depth + 1⟩

/-- Reads hyphens that stand for themselves at the start of a class. -/
def readHyphens (flags : Flags) : (fuel : Nat) → OpenClass → List Char → OpenClass × List Char
  | 0, cls, text => (cls, text)
  | fuel + 1, cls, text =>
    match text with
    | '-' :: rest => readHyphens flags fuel (cls.add (.single '-') 0) (flags.skip rest)
    | _ => (cls, text)

/-- Reads the start of a class after its bracket: a caret that negates it, hyphens, and if there are
none a closing bracket that stands for itself. -/
def readStart (flags : Flags) (text : List Char) : OpenClass × List Char :=
  let (negated, text) :=
    match flags.skip text with
    | '^' :: rest => (true, flags.skip rest)
    | text => (false, text)
  match text with
  | ']' :: rest => ((start negated).add (.single ']') 0, flags.skip rest)
  | text => readHyphens flags text.length (start negated) text

end OpenClass

/-- Reads the rest of a class. The classes around it are in `outer`, the innermost first. -/
def readClassRest (flags : Flags) :
    (fuel : Nat) → (outer : List OpenClass) → OpenClass → List Char → Option (Nested × List Char)
  | 0, _, _, _ => none
  | fuel + 1, outer, cls, text =>
    match flags.skip text with
    | [] => none
    | '[' :: rest =>
      match readNamed rest with
      | some ((members, negated), rest) => do
        let members ← flags.negateIf negated (flags.fold members)
        readClassRest flags fuel outer (cls.add members 0) rest
      | none =>
        let (inner, rest) := OpenClass.readStart flags rest
        readClassRest flags fuel (cls :: outer) inner rest
    | ']' :: rest => do
      let value ← cls.close flags
      match outer with
      | [] => return (value, rest)
      | parent :: outer =>
        readClassRest flags fuel outer (parent.add value.members value.depth) rest
    | '&' :: '&' :: rest => readClassRest flags fuel outer (cls.operate flags .inter) rest
    | '-' :: '-' :: rest => readClassRest flags fuel outer (cls.operate flags .diff) rest
    | '~' :: '~' :: rest => readClassRest flags fuel outer (cls.operate flags .symmDiff) rest
    | text => do
      let (members, rest) ← readRange flags text
      readClassRest flags fuel outer (cls.add members 0) rest

/-- Reads a class after its opening bracket. -/
def readClass (flags : Flags) (text : List Char) : Option (Nested × List Char) :=
  let (cls, rest) := OpenClass.readStart flags text
  readClassRest flags (text.length + 1) [] cls rest

end NamedData.TextPattern
