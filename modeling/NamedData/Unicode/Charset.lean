import NamedData.Text.Hex
import NamedData.Text.Segments

/-!
# Sets of characters

A set of characters is kept as the ranges of its code points, in ascending order and apart from each
other; so equal sets have equal ranges, and a table of the Unicode standard can be written down as
it stands there. Surrogate code points are no characters: the complement of a set leaves them out.

`Charset.ofTable` reads a set from a text of ranges such as `30-39 41-5A 5F`, where `100-12E/2`
stands for every second code point of a range.
-/

namespace NamedData.Unicode

/-- A range of code points, given by the first and the last of them. -/
abbrev CodeRange := Nat × Nat

/-- A set of characters. -/
structure Charset where
  /-- The ranges of the set, in ascending order, with a code point outside the set between every two
  of them. -/
  ranges : List CodeRange
  deriving DecidableEq, Repr

namespace Charset

/-! ## Ranges in ascending order -/

/-- Joins ranges that overlap or touch; `current` starts first and the others follow in ascending
order of their starts. -/
def joinFrom : (current : CodeRange) → List CodeRange → List CodeRange
  | current, [] => [current]
  | current, range :: rest =>
    if range.1 ≤ current.2 + 1 then joinFrom (current.1, max current.2 range.2) rest
    else current :: joinFrom range rest

/-- The set with ranges that are in ascending order of their starts. -/
def ofAscending (ranges : List CodeRange) : Charset :=
  match ranges with
  | [] => ⟨[]⟩
  | first :: rest => ⟨joinFrom first rest⟩

/-- Whether the first range does not start after the second. -/
def startsFirst (a b : CodeRange) : Bool :=
  a.1 ≤ b.1

/-- The set with the given ranges, in any order. -/
def ofRanges (ranges : List CodeRange) : Charset :=
  ofAscending (ranges.mergeSort startsFirst)

/-- The range of the characters from `first` to the one before `stop`, if there are any. -/
def between (first stop : Nat) : List CodeRange :=
  let first := if 0xD800 ≤ first ∧ first < 0xE000 then 0xE000 else first
  let stop := if 0xD800 < stop ∧ stop ≤ 0xE000 then 0xD800 else stop
  if first < stop then [(first, stop - 1)] else []

/-- The ranges of the characters from `start` on that lie in none of the given ranges. -/
def gaps : (start : Nat) → List CodeRange → List CodeRange
  | start, [] => between start 0x110000
  | start, range :: rest => between start range.1 ++ gaps (range.2 + 1) rest

/-- Whether a code point lies in one of the ranges. -/
def covers : List CodeRange → Nat → Bool
  | [], _ => false
  | range :: rest, n => if n < range.1 then false else n ≤ range.2 || covers rest n

/-! ## Sets -/

/-- No character. -/
def empty : Charset := ⟨[]⟩

/-- Every character. -/
def full : Charset := ⟨[(0, 0x10FFFF)]⟩

/-- The characters of ASCII. -/
def ascii : Charset := ⟨[(0, 0x7F)]⟩

/-- One character. -/
def single (c : Char) : Charset := ⟨[(c.toNat, c.toNat)]⟩

/-- The characters from one to another that does not come before it. -/
def range (first last : Char) : Charset := ⟨[(first.toNat, last.toNat)]⟩

/-- Whether a character belongs to the set. -/
def contains (set : Charset) (c : Char) : Bool :=
  covers set.ranges c.toNat

/-- Whether the set has ASCII characters only. -/
def isAscii (set : Charset) : Bool :=
  set.ranges.all fun range => range.2 < 0x80

/-- The characters of either set. -/
def union (a b : Charset) : Charset :=
  ofAscending (List.merge a.ranges b.ranges startsFirst)

/-- The characters of any of the sets. -/
def unions (sets : List Charset) : Charset :=
  ofRanges (sets.flatMap ranges)

/-- All other characters. -/
def complement (a : Charset) : Charset :=
  ⟨gaps 0 a.ranges⟩

/-- The characters of both sets. -/
def inter (a b : Charset) : Charset :=
  (a.complement.union b.complement).complement

/-- The characters of the first set but not the second. -/
def diff (a b : Charset) : Charset :=
  (a.complement.union b).complement

/-- The characters of exactly one of the sets. -/
def symmDiff (a b : Charset) : Charset :=
  (a.union b).diff (a.inter b)

/-! ## Tables -/

/-- The code point that hexadecimal digits denote. -/
def codePoint (digits : List Char) : Nat :=
  digits.foldl (fun n c => n * 16 + (Text.Hex.digit? c).getD 0) 0

/-- Every second code point of a range, from the first on. -/
def everySecond (first last : Nat) : List CodeRange :=
  (List.range ((last - first) / 2 + 1)).map fun k => (first + 2 * k, first + 2 * k)

/-- The ranges that an entry of a table stands for. -/
def entryRanges (entry : List Char) : List CodeRange :=
  match Text.splitOnce '-' entry with
  | none => [(codePoint entry, codePoint entry)]
  | some (first, last) =>
    match Text.splitOnce '/' last with
    | none => [(codePoint first, codePoint last)]
    | some (last, _) => everySecond (codePoint first) (codePoint last)

/-- The entries of a table: what stands between spaces and ends of lines. -/
def entries (table : String) : List (List Char) :=
  ((Text.segments '\n' table.toList).flatMap (Text.segments ' ')).filter (· ≠ [])

/-- The set that a table lists. -/
def ofTable (table : String) : Charset :=
  ofRanges ((entries table).flatMap entryRanges)

end Charset

end NamedData.Unicode
