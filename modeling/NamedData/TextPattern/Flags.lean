import NamedData.Text.Blank
import NamedData.Unicode.CaseVariants

/-!
# Options of text patterns

Options change how the notation of a text pattern is read from some place on: whether letters stand
for both cases, whether classes go beyond ASCII, whether blanks and comments count, and so on. They
are given by letters after `(?`.
-/

namespace NamedData.TextPattern

open Unicode (Charset)

/-- The options that are in force at a place of a pattern. -/
structure Flags where
  /-- Letters stand for both cases. -/
  ignoreCase : Bool
  /-- A caret and a dollar sign also stand for the ends of lines. -/
  multiLine : Bool
  /-- A dot also stands for the end of a line. -/
  dotAll : Bool
  /-- Repetitions prefer few rounds unless they are marked. -/
  lazy : Bool
  /-- Lines may end with a carriage return. -/
  crlf : Bool
  /-- Classes go beyond ASCII. -/
  unicode : Bool
  /-- Blanks and comments in the pattern do not count. -/
  blanks : Bool
  deriving DecidableEq, Repr

namespace Flags

/-- The options at the start of a pattern. -/
def initial : Flags :=
  { ignoreCase := false, multiLine := false, dotAll := false, lazy := false, crlf := false
    unicode := true, blanks := false }

/-- The text after blanks and comments; a comment runs from `#` to the end of the line. -/
def skipFrom : (inComment : Bool) → List Char → List Char
  | _, [] => []
  | true, c :: rest => skipFrom (c ≠ '\n') rest
  | false, c :: rest =>
    if Text.isBlank c then skipFrom false rest
    else if c = '#' then skipFrom true rest
    else c :: rest

/-- The text after what does not count. -/
def skip (flags : Flags) (text : List Char) : List Char :=
  if flags.blanks then skipFrom false text else text

/-- The character that follows what does not count, where of a comment only the first `#` is looked
past. -/
def peek (flags : Flags) (text : List Char) : Option Char :=
  if flags.blanks then
    match text.dropWhile Text.isBlank with
    | '#' :: rest => (rest.dropWhile Text.isBlank).head?
    | rest => rest.head?
  else text.head?

/-- The set with the other case of its letters if case does not matter. -/
def fold (flags : Flags) (set : Charset) : Charset :=
  if !flags.ignoreCase then set
  else if flags.unicode then set.folded
  else set.folded.inter .ascii

/-- The complement of a set if `negated` is set, unless it goes beyond ASCII where it may not. -/
def negateIf (flags : Flags) (negated : Bool) (set : Charset) : Option Charset :=
  if !negated then some set
  else if flags.unicode then some set.complement
  else none

end Flags

/-! ## Letters for options -/

/-- An option of a pattern. -/
inductive Flag where
  | ignoreCase
  | multiLine
  | dotAll
  | lazy
  | unicode
  | crlf
  | blanks
  deriving DecidableEq, Repr

/-- The option that a letter stands for. -/
def Flag.ofLetter? (c : Char) : Option Flag :=
  match c with
  | 'i' => some .ignoreCase
  | 'm' => some .multiLine
  | 's' => some .dotAll
  | 'U' => some .lazy
  | 'u' => some .unicode
  | 'R' => some .crlf
  | 'x' => some .blanks
  | _ => none

/-- The options after one is set or cleared. -/
def Flags.assign (flags : Flags) (flag : Flag) (on : Bool) : Flags :=
  match flag with
  | .ignoreCase => { flags with ignoreCase := on }
  | .multiLine => { flags with multiLine := on }
  | .dotAll => { flags with dotAll := on }
  | .lazy => { flags with lazy := on }
  | .unicode => { flags with unicode := on }
  | .crlf => { flags with crlf := on }
  | .blanks => { flags with blanks := on }

/-- Reads the letters of options up to a colon or a closing parenthesis, which tells whether a group
follows. Options after a hyphen are cleared; there is at most one hyphen, an option follows it, and
no option occurs twice. -/
def readFlags :
    (flags : Flags) → (seen : List Flag) → (clearing dangling : Bool) → List Char →
      Option (Flags × Bool × List Char)
  | _, _, _, _, [] => none
  | flags, seen, clearing, dangling, c :: rest =>
    if c = ':' ∨ c = ')' then if dangling then none else some (flags, c = ':', rest)
    else if c = '-' then if clearing then none else readFlags flags seen true true rest
    else
      match Flag.ofLetter? c with
      | none => none
      | some flag =>
        if seen.contains flag then none
        else readFlags (flags.assign flag (!clearing)) (flag :: seen) clearing false rest

end NamedData.TextPattern
