import NamedData.Pattern.Error
import NamedData.Text.Blank
import NamedData.Text.Numeral
import NamedData.Text.Quoted
import NamedData.Text.Segments

/-!
# The tokens of a pattern

A pattern is written with component tests in angle brackets, numbers of repetitions in braces, and
single characters for all else; blanks between them do not count. `tokenize` cuts a text into these
tokens, each with its place in the text.
-/

namespace NamedData.Pattern

/-- The kinds of tokens. -/
inductive TokenKind where
  /-- A component test, with the text between its brackets. -/
  | component (text : List Char)
  | openSet
  | closeSet
  | caret
  | dollar
  | bar
  | openGroup
  | closeGroup
  | question
  | plus
  | star
  /-- A repetition between two bounds. -/
  | repetition (min : Nat) (max : Option Nat)
  /-- The end of the pattern. -/
  | finish
  deriving DecidableEq, Repr

/-- The name of a kind of token, as messages show it. -/
def TokenKind.label : TokenKind → String
  | component text => "Component(" ++ String.ofList (Text.Quoted.text text) ++ ")"
  | openSet => "LBracket"
  | closeSet => "RBracket"
  | caret => "Caret"
  | dollar => "Dollar"
  | bar => "Or"
  | openGroup => "LParen"
  | closeGroup => "RParen"
  | question => "QMark"
  | plus => "Plus"
  | star => "Star"
  | repetition min none => "Repeat \x7b min: " ++ toString min ++ ", max: None \x7d"
  | repetition min (some max) =>
    "Repeat \x7b min: " ++ toString min ++ ", max: Some(" ++ toString max ++ ") \x7d"
  | finish => "EOI"

/-- A token and its place in the text. -/
structure Token where
  kind : TokenKind
  span : Span
  deriving DecidableEq, Repr

/-- Why a text cannot be cut into tokens. -/
inductive TokenFault where
  /-- A component test has no closing bracket. -/
  | openComponent
  /-- A repetition has no closing brace. -/
  | openRepetition
  /-- A character that starts no token. -/
  | stray (c : Char)
  /-- A bound of a repetition is no number. -/
  | badCount (text : List Char) (fault : Text.Numeral.Fault)
  /-- The bounds of a repetition are in the wrong order. -/
  | reversedBounds (max min : Nat)
  deriving DecidableEq, Repr

/-- The fault in words. -/
def TokenFault.message : TokenFault → String
  | openComponent => "unterminated component, expected '>'"
  | openRepetition => "unterminated repetition, expected '\x7d'"
  | stray c =>
    "unexpected character '" ++ String.singleton c ++ "' outside of a component matcher"
  | badCount text fault =>
    "invalid repetition count '" ++ String.ofList text ++ "': " ++ fault.message
  | reversedBounds max min =>
    "repetition maximum " ++ toString max ++ " is below minimum " ++ toString min

/-- The error of a fault at a place. -/
def TokenFault.at (span : Span) (fault : TokenFault) : PatternError :=
  ⟨span, fault.message⟩

/-! ## Repetitions -/

/-- The number that a bound of a repetition stands for. -/
def readCount (text : List Char) : Except TokenFault Nat :=
  match Text.Numeral.read UInt64.size (Text.trim text) with
  | .ok n => .ok n
  | .error fault => .error (.badCount text fault)

/-- The bounds that the text between the braces of a repetition stands for. A single number is both
bounds; with a comma the lower bound may be left out, which means zero, and the upper one too, which
means none. -/
def readBounds (text : List Char) : Except TokenFault (Nat × Option Nat) := do
  match Text.splitOnce ',' text with
  | none =>
    let n ← readCount text
    return (n, some n)
  | some (low, high) =>
    let min ← if Text.trim low = [] then pure 0 else readCount low
    if Text.trim high = [] then return (min, none)
    let max ← readCount high
    if max < min then throw (.reversedBounds max min)
    return (min, some max)

/-! ## Cutting a text -/

/-- Where in a pattern a character stands. -/
inductive Place where
  /-- Between two tokens. -/
  | between
  /-- In a component test that starts at `start`, after `text` in reverse order. -/
  | component (start : Nat) (text : List Char)
  /-- In a repetition that starts at `start`, after `text` in reverse order. -/
  | repetition (start : Nat) (text : List Char)
  deriving DecidableEq, Repr

/-- The kind of token that a single character is. -/
def symbol? (c : Char) : Option TokenKind :=
  match c with
  | '[' => some .openSet
  | ']' => some .closeSet
  | '^' => some .caret
  | '$' => some .dollar
  | '|' => some .bar
  | '(' => some .openGroup
  | ')' => some .closeGroup
  | '?' => some .question
  | '+' => some .plus
  | '*' => some .star
  | _ => none

/-- The tokens of the rest of a pattern, which starts at a byte offset in the given place. -/
def tokensFrom : Place → (offset : Nat) → List Char → Except PatternError (List Token)
  | .between, offset, [] => .ok [⟨.finish, ⟨offset, offset⟩⟩]
  | .component start _, offset, [] => .error (TokenFault.openComponent.at ⟨start, offset⟩)
  | .repetition start _, offset, [] => .error (TokenFault.openRepetition.at ⟨start, offset⟩)
  | .between, offset, c :: rest =>
    let next := offset + c.utf8Size
    if c = '<' then tokensFrom (.component offset []) next rest
    else if c = '\x7b' then tokensFrom (.repetition offset []) next rest
    else
      match symbol? c with
      | some kind => (⟨kind, ⟨offset, next⟩⟩ :: ·) <$> tokensFrom .between next rest
      | none =>
        if Text.isBlank c then tokensFrom .between next rest
        else .error ((TokenFault.stray c).at ⟨offset, next⟩)
  | .component start text, offset, c :: rest =>
    let next := offset + c.utf8Size
    if c = '>' then
      (⟨.component text.reverse, ⟨start, next⟩⟩ :: ·) <$> tokensFrom .between next rest
    else tokensFrom (.component start (c :: text)) next rest
  | .repetition start text, offset, c :: rest =>
    let next := offset + c.utf8Size
    if c = '\x7d' then
      match readBounds text.reverse with
      | .ok (min, max) =>
        (⟨.repetition min max, ⟨start, next⟩⟩ :: ·) <$> tokensFrom .between next rest
      | .error fault => .error (fault.at ⟨start, next⟩)
    else tokensFrom (.repetition start (c :: text)) next rest

/-- The tokens of a pattern, the last of which is its end. -/
def tokenize (text : List Char) : Except PatternError (List Token) :=
  tokensFrom .between 0 text

end NamedData.Pattern
