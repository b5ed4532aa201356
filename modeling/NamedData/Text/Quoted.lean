import NamedData.Text.Printable
import NamedData.Text.Hex

/-!
# Quoted text

A text shown inside a message stands between quotation marks, and a character that would not show as
itself is written as an escape: a backslash and a letter for the usual control characters, a
backslash before a backslash and before the quotation mark in use, and `\\u` with the code point in
braces for every other character that is not printable.
-/

namespace NamedData.Text.Quoted

/-- The hexadecimal digits of a number in lower case, without leading zeros. -/
def hexNumeral (n : Nat) : List Char :=
  Nat.toDigits 16 n

/-- How a character is written between two `mark`s. -/
def escape (mark c : Char) : List Char :=
  if c = '\x00' then ['\\', '0']
  else if c = '\t' then ['\\', 't']
  else if c = '\n' then ['\\', 'n']
  else if c = '\r' then ['\\', 'r']
  else if c = '\\' ∨ c = mark then ['\\', c]
  else if isPrintable c then [c]
  else ['\\', 'u', '\x7b'] ++ hexNumeral c.toNat ++ ['\x7d']

/-- A text between double quotation marks. -/
def text (chars : List Char) : List Char :=
  '"' :: chars.flatMap (escape '"') ++ ['"']

/-- A character between single quotation marks. -/
def char (c : Char) : List Char :=
  '\'' :: escape '\'' c ++ ['\'']

end NamedData.Text.Quoted
