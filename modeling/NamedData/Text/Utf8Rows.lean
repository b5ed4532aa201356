import NamedData.Unicode.Charset

/-!
# Sets of characters in UTF-8

A row of byte ranges stands for the byte strings with one byte of each range. The UTF-8 forms of the
characters of a set are those of a list of such rows: a range of characters is cut where the length
of the form changes and where the bytes after one that changes do not run through all their values.
-/

namespace NamedData.Text

open Unicode (Charset CodeRange)

/-- A range of bytes, given by the first and the last of them. -/
abbrev ByteRange := UInt8 × UInt8

/-- The ranges of characters whose forms have the same length, without the surrogates, each with the
numbers of characters that share all bytes but the last, the last two and so on. -/
def formLengths : List (CodeRange × List Nat) :=
  [((0, 0x7F), []), ((0x80, 0x7FF), [64]), ((0x800, 0xD7FF), [64, 4096]),
   ((0xE000, 0xFFFF), [64, 4096]), ((0x10000, 0x10FFFF), [64, 4096, 262144])]

/-- Cuts a range so that every part lies in one block or consists of whole blocks, for blocks of
each of the given sizes; a block of one size is part of one of the next. -/
def cutAtBlocks : (sizes : List Nat) → CodeRange → List CodeRange
  | [], range => [range]
  | size :: sizes, (first, last) =>
    if first / size = last / size then [(first, last)]
    else
      let start := if first % size = 0 then first else (first / size + 1) * size
      let stop := if (last + 1) % size = 0 then last + 1 else last / size * size
      let before := if first < start then [(first, start - 1)] else []
      let whole := if start < stop then cutAtBlocks sizes (start, stop - 1) else []
      let after := if stop ≤ last then [(stop, last)] else []
      before ++ whole ++ after

/-- The bytes of a code point. -/
def form (code : Nat) : List UInt8 :=
  String.utf8EncodeChar (Char.ofNat code)

/-- The rows for a range of characters, in ascending order. -/
def rangeRows (range : CodeRange) : List (List ByteRange) :=
  formLengths.flatMap fun (bounds, sizes) =>
    let first := max range.1 bounds.1
    let last := min range.2 bounds.2
    if first ≤ last then
      (cutAtBlocks sizes (first, last)).map fun part => (form part.1).zip (form part.2)
    else []

/-- The rows for the characters of a set, in ascending order. -/
def utf8Rows (set : Charset) : List (List ByteRange) :=
  set.ranges.flatMap rangeRows

end NamedData.Text
