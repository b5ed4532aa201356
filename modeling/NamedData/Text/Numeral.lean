/-!
# Decimal numerals

`render` writes a number in decimal and `read` takes one back under a bound: an optional plus sign,
then ASCII digits only. The bound is checked digit by digit, so a numeral that outgrows it before
its first foreign character is too large, and one that meets the character first is not a numeral.
-/

namespace NamedData.Text.Numeral

/-- The decimal digits of a number, without leading zeros. -/
def render (n : Nat) : List Char :=
  Nat.toDigits 10 n

/-- The decimal digits of a number, with leading zeros up to the given width. -/
def renderPadded (width n : Nat) : List Char :=
  let digits := render n
  List.replicate (width - digits.length) '0' ++ digits

/-- Why a text is no numeral below the bound. -/
inductive Fault where
  /-- The text is empty. -/
  | empty
  /-- A character is no digit. -/
  | invalidDigit
  /-- The number reaches the bound. -/
  | tooLarge
  deriving DecidableEq, Repr

/-- The fault in words. -/
def Fault.message : Fault → String
  | .empty => "cannot parse integer from empty string"
  | .invalidDigit => "invalid digit found in string"
  | .tooLarge => "number too large to fit in target type"

/-- Whether a character is an ASCII digit. -/
def isDigit (c : Char) : Bool :=
  '0' ≤ c && c ≤ '9'

/-- The value of an ASCII digit. -/
def digitValue (c : Char) : Nat :=
  c.toNat - 48

/-- Reads the digits that follow those whose value is `value`. -/
def readDigits (bound : Nat) : (value : Nat) → List Char → Except Fault Nat
  | value, [] => .ok value
  | value, c :: rest =>
    if !isDigit c then .error .invalidDigit
    else
      let next := value * 10 + digitValue c
      if bound ≤ next then .error .tooLarge else readDigits bound next rest

/-- The number below `bound` that a text denotes. -/
def read (bound : Nat) (text : List Char) : Except Fault Nat :=
  match text with
  | [] => .error .empty
  | ['+'] => .error .invalidDigit
  | '+' :: digits => readDigits bound 0 digits
  | digits => readDigits bound 0 digits

end NamedData.Text.Numeral
