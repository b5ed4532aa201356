import NamedData.Text.Utf8

/-!
# Errors in patterns

An error of a pattern points at a stretch of the pattern's text. Its ends are byte offsets, because
that is how an editor finds them. `report` shows the stretch with some text around it and a line of
carets below.
-/

namespace NamedData.Pattern

/-- A stretch of a text, between two byte offsets. -/
structure Span where
  start : Nat
  stop : Nat
  deriving DecidableEq, Repr

/-- What is wrong with a pattern, and where. -/
structure PatternError where
  span : Span
  message : String
  deriving DecidableEq, Repr

/-! ## Cutting a text at byte offsets -/

/-- The number of bytes of a text. -/
def byteLength (text : List Char) : Nat :=
  text.foldl (fun length c => length + c.utf8Size) 0

/-- The parts of a text before and after a byte offset, unless the offset falls into the middle of a
character or beyond the end. -/
def splitAtByte : (offset : Nat) → List Char → Option (List Char × List Char)
  | 0, text => some ([], text)
  | _ + 1, [] => none
  | offset + 1, c :: rest =>
    if offset + 1 < c.utf8Size then none
    else
      (splitAtByte (offset + 1 - c.utf8Size) rest).map fun (before, after) => (c :: before, after)

/-- The shortest start of a text that has at least the given number of bytes, or all of the text. -/
def cover : (bytes : Nat) → List Char → List Char
  | 0, _ => []
  | _ + 1, [] => []
  | bytes + 1, c :: rest => c :: cover (bytes + 1 - c.utf8Size) rest

/-! ## Showing an error -/

namespace PatternError

/-- The error in one line. -/
def display (e : PatternError) : String :=
  e.message ++ s!" at {e.span.start}..{e.span.stop}"

/-- How many bytes of text a report shows on both sides of the stretch. -/
def context : Nat := 20

/-- The stretch in its surroundings, marked with carets, and the message. Offsets beyond the end of
the text count as its end. There is no report if the stretch ends before it starts or cuts a
character. -/
def report (e : PatternError) (text : List Char) : Option (List Char) := do
  let length := byteLength text
  let start := min e.span.start length
  let stop := min e.span.stop length
  if stop < start then none
  let (before, rest) ← splitAtByte start text
  let (marked, after) ← splitAtByte (stop - start) rest
  -- The surroundings end with whole characters, so they may be a few bytes longer than asked for.
  let lead := (cover context before.reverse).reverse
  let marker := List.replicate lead.length ' ' ++ List.replicate (max marked.length 1) '^'
  return lead ++ marked ++ cover context after ++ '\n' :: marker ++ '\n' :: e.message.toList

end PatternError

end NamedData.Pattern
