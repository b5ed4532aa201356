import NamedData.Text.Hex
import NamedData.Text.Segments
import NamedData.TextPattern.Basic
import NamedData.TextPattern.Flags
import NamedData.Unicode.Name

/-!
# Escapes of text patterns

What follows a backslash stands for a character, for a class of characters or for a position. A
class that does not go beyond ASCII cannot be negated, since the complement goes beyond it.

Every reader takes the text that is left and returns what follows the part that it reads; none means
that the notation is wrong.
-/

namespace NamedData.TextPattern

open Unicode (Category Charset ListedProperty Property)

/-! ## Classes that letters stand for -/

/-- A class that a letter stands for. -/
inductive LetterClass where
  | digit
  | blank
  | word
  deriving DecidableEq, Repr

/-- The characters of the class, with those beyond ASCII if `unicode` is set. -/
def LetterClass.members : (unicode : Bool) → LetterClass → Charset
  | true, digit => Category.members .decimalNumber
  | true, blank => ListedProperty.members .whiteSpace
  | true, word =>
    (Property.members .alphabetic).union
      (Property.anyOf (.decimalNumber :: .connectorPunctuation :: Category.marks) [.joinControl])
  | false, digit => .ofTable "30-39"
  | false, blank => .ofTable "9-D 20"
  | false, word => .ofTable "30-39 41-5A 5F 61-7A"

/-! ## Escapes -/

/-- What stands for a single character or a position. -/
inductive Primitive where
  /-- A character; `byte` tells that it is given by the two digits of a byte. -/
  | literal (c : Char) (byte : Bool)
  /-- A class. -/
  | set (members : Charset)
  /-- A position. -/
  | boundary (kind : Boundary)

/-- Whether a character has a meaning of its own in patterns. -/
def isMeta (c : Char) : Bool :=
  "\\.+*?()|[]\x7b\x7d^$#&-~".toList.contains c

/-- Whether a backslash before a character makes it stand for itself. -/
def isEscapable (c : Char) : Bool :=
  isMeta c || (c.toNat < 0x80 && !(c.isAlphanum || c = '<' || c = '>'))

/-- The character with a code point. -/
def charOf? (n : Nat) : Option Char :=
  if n.isValidChar then some (Char.ofNat n) else none

/-- Reads a fixed number of hexadecimal digits. -/
def readHexDigits (flags : Flags) :
    (digits value : Nat) → List Char → Option (Char × List Char)
  | 0, value, text => (charOf? value).map fun c => (c, text)
  | _ + 1, _, [] => none
  | digits + 1, value, c :: rest =>
    match Text.Hex.digit? c with
    | some d => readHexDigits flags digits (value * 16 + d) (flags.skip rest)
    | none => none

/-- The number that hexadecimal digits denote. -/
def hexNumber? (digits : List Char) : Option Nat :=
  if digits = [] then none
  else digits.foldlM (fun value c => (Text.Hex.digit? c).map (value * 16 + ·)) 0

/-- Reads the text up to the next closing brace, without what does not count. -/
def readBraced (flags : Flags) : (inComment : Bool) → List Char → Option (List Char × List Char)
  | _, [] => none
  | true, c :: rest => readBraced flags (c ≠ '\n') rest
  | false, c :: rest =>
    if flags.blanks && Text.isBlank c then readBraced flags false rest
    else if flags.blanks && c = '#' then readBraced flags true rest
    else if c = '\x7d' then some ([], rest)
    else (readBraced flags false rest).map fun (content, after) => (c :: content, after)

/-- Reads a character given by its code point, after the letter that stands for the number of
digits. -/
def readHex (flags : Flags) (digits : Nat) (text : List Char) : Option (Primitive × List Char) :=
  match flags.skip text with
  | '\x7b' :: rest => do
    let (content, rest) ← readBraced flags false rest
    let c ← charOf? (← hexNumber? content)
    return (.literal c false, rest)
  | text => do
    let (c, rest) ← readHexDigits flags digits 0 text
    return (.literal c (digits = 2), rest)

/-- The text before and after the first `!=`. -/
def splitUnequal : List Char → Option (List Char × List Char)
  | '!' :: '=' :: rest => some ([], rest)
  | c :: rest => (splitUnequal rest).map fun (before, after) => (c :: before, after)
  | [] => none

/-- The class with a property that is written as a name or as a name and a value, and whether what
is meant is that it does not have that value. -/
def propertyClass (text : List Char) : Option (Charset × Bool) :=
  match splitUnequal text with
  | some (key, value) => (Charset.withValue? key value).map (·, true)
  | none =>
    match Text.splitOnce ':' text <|> Text.splitOnce '=' text with
    | some (key, value) => (Charset.withValue? key value).map (·, false)
    | none => (Charset.named? text).map (·, false)

/-- Reads a class given by a property, after the letter `p`. -/
def readProperty (flags : Flags) (negated : Bool) (text : List Char) :
    Option (Primitive × List Char) := do
  let (name, rest) ←
    match flags.skip text with
    | [] => none
    | '\x7b' :: rest => readBraced flags false rest
    | c :: rest => if c = '\\' then none else some ([c], rest)
  let (members, unequal) ← propertyClass name
  if flags.unicode then
    return (.set (← flags.negateIf (negated != unequal) (flags.fold members)), rest)
  else none

/-- A class that a letter stands for; it has both cases of its letters anyway. -/
def letterClass (flags : Flags) (negated : Bool) (cls : LetterClass) : Option Primitive :=
  (flags.negateIf negated (cls.members flags.unicode)).map .set

/-- The edge of a word that a word in braces after `\b` stands for. -/
def edgeNamed? (name : String) : Option WordEdge :=
  match name with
  | "start" => some .start
  | "end" => some .stop
  | "start-half" => some .noWordBefore
  | "end-half" => some .noWordAfter
  | _ => none

/-- Reads what follows `\b`: a word in braces that tells which edge of a word is meant. Braces that
hold no word are left for the reader of repetitions. -/
def readEdge (flags : Flags) (text : List Char) : Option (Primitive × List Char) :=
  let plain : Primitive := .boundary (.word .change flags.unicode)
  match text with
  | '\x7b' :: inner =>
    match flags.skip inner with
    | [] => none
    | c :: _ =>
      if c.isAlpha || c = '-' then do
        let (name, rest) ← readBraced flags false inner
        let edge ← edgeNamed? (String.ofList name)
        return (.boundary (.word edge flags.unicode), rest)
      else some (plain, text)
  | _ => some (plain, text)

/-- Reads what follows a backslash. -/
def readEscape (flags : Flags) : List Char → Option (Primitive × List Char)
  | [] => none
  | c :: rest =>
    match c with
    | 'x' => readHex flags 2 rest
    | 'u' => readHex flags 4 rest
    | 'U' => readHex flags 8 rest
    | 'p' => readProperty flags false rest
    | 'P' => readProperty flags true rest
    | 'd' => (letterClass flags false .digit).map (·, rest)
    | 'D' => (letterClass flags true .digit).map (·, rest)
    | 's' => (letterClass flags false .blank).map (·, rest)
    | 'S' => (letterClass flags true .blank).map (·, rest)
    | 'w' => (letterClass flags false .word).map (·, rest)
    | 'W' => (letterClass flags true .word).map (·, rest)
    | 'a' => some (.literal '\x07' false, rest)
    | 'f' => some (.literal '\x0C' false, rest)
    | 't' => some (.literal '\t' false, rest)
    | 'n' => some (.literal '\n' false, rest)
    | 'r' => some (.literal '\r' false, rest)
    | 'v' => some (.literal '\x0B' false, rest)
    | 'A' => some (.boundary .textStart, rest)
    | 'z' => some (.boundary .textEnd, rest)
    | 'b' => readEdge flags rest
    | 'B' => some (.boundary (.word .noChange flags.unicode), rest)
    | '<' => some (.boundary (.word .start flags.unicode), rest)
    | '>' => some (.boundary (.word .stop flags.unicode), rest)
    | c => if isEscapable c then some (.literal c false, rest) else none

end NamedData.TextPattern
