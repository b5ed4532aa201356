import NamedData.Pattern.Expr
import NamedData.Unicode.Charset

/-!
# Matching texts

A text pattern is an expression over two kinds of tests: one consumes a character of a set, the
other consumes nothing and looks at the characters on both sides of its position.

The texts that patterns are tried on show names and so consist of ASCII characters; for those the
characters of words are the ASCII letters, digits and the underscore.
-/

namespace NamedData.TextPattern

open Unicode (Charset)

/-- A condition on what stands around a position, in terms of words. -/
inductive WordEdge where
  /-- Between a character of a word and one of no word. -/
  | change
  /-- Not between two such characters. -/
  | noChange
  | start
  | stop
  /-- Not after a character of a word. -/
  | noWordBefore
  /-- Not before a character of a word. -/
  | noWordAfter
  deriving DecidableEq, Repr

/-- A condition on a position of a text. -/
inductive Boundary where
  | textStart
  | textEnd
  /-- The start of a line; lines end with a line feed, or if `crlf` is set also with a carriage
  return or with both in a row. -/
  | lineStart (crlf : Bool)
  /-- The end of a line. -/
  | lineEnd (crlf : Bool)
  /-- A condition in terms of words, whose characters go beyond ASCII if `unicode` is set. -/
  | word (edge : WordEdge) (unicode : Bool)
  deriving DecidableEq, Repr

/-- Whether an ASCII character belongs to words. -/
def isWordCharacter (c : Char) : Bool :=
  c.isAlphanum || c = '_'

/-- Whether the condition holds between two places, given which of them are characters of words. -/
def WordEdge.holds (before after : Bool) : WordEdge → Bool
  | change => before != after
  | noChange => before == after
  | start => !before && after
  | stop => before && !after
  | noWordBefore => !before
  | noWordAfter => !after

/-- Whether the condition holds between two characters, where none stands for an end of the text. -/
def Boundary.holds (before after : Option Char) : Boundary → Bool
  | textStart => before.isNone
  | textEnd => after.isNone
  | lineStart false => before.isNone || before = some '\n'
  | lineStart true =>
    before.isNone || before = some '\n' || (before = some '\r' && after != some '\n')
  | lineEnd false => after.isNone || after = some '\n'
  | lineEnd true =>
    after.isNone || after = some '\r' || (after = some '\n' && before != some '\r')
  | word edge _ => edge.holds (before.any isWordCharacter) (after.any isWordCharacter)

/-- A test of a text pattern. -/
inductive TextTest where
  /-- A character of a set. -/
  | one (set : Charset)
  /-- A condition on the position. -/
  | boundary (kind : Boundary)

/-- The positions at which a stretch of a text that passes a test may end. -/
def TextTest.step (text : Array Char) (test : TextTest) (p : Nat) : List Nat :=
  match test with
  | one set => if text[p]?.any set.contains then [p + 1] else []
  | boundary kind =>
    let before := if p = 0 then none else text[p - 1]?
    if kind.holds before text[p]? then [p] else []

end NamedData.TextPattern

namespace NamedData

/-- A pattern for texts. -/
structure TextPattern where
  expr : Pattern.Expr TextPattern.TextTest

/-- Whether some stretch of a text matches the pattern. -/
def TextPattern.occursIn (pattern : TextPattern) (text : List Char) : Bool :=
  pattern.expr.search (TextPattern.TextTest.step text.toArray) text.length false false

end NamedData
