import NamedData.Name.Component
import NamedData.Text.Hex
import NamedData.Text.Utf8

/-!
# Escaped values

The value of a component is shown with its letters, digits and `+ - . _` as themselves and every
other byte as a percent sign and two upper-case digits. A value of periods only, the empty one
included, gets three more periods, so that no value is shown as `.` or `..`, which segments of a
path use for other things. `unescape` reads such texts back, and takes every other character for its
UTF-8 bytes.
-/

namespace NamedData.Name

/-- Whether a byte is shown as itself. -/
def isUnreserved (b : UInt8) : Bool :=
  (0x41 ≤ b && b ≤ 0x5A) || (0x61 ≤ b && b ≤ 0x7A) || (0x30 ≤ b && b ≤ 0x39)
    || b = 0x2B || b = 0x2D || b = 0x2E || b = 0x5F

/-- The byte of a period. -/
def period : UInt8 := 0x2E

/-- How one byte is shown. -/
def escapeByte (b : UInt8) : List Char :=
  if isUnreserved b then [Char.ofNat b.toNat]
  else ['%', Text.Hex.upperDigit (b.toNat / 16), Text.Hex.upperDigit (b.toNat % 16)]

/-- How a value is shown. -/
def escape (value : Bytes) : List Char :=
  if value.all (· == period) then List.replicate (3 + value.length) '.'
  else value.flatMap escapeByte

/-- The bytes that an escaped text spells out, none if an escape lacks its two digits. -/
def unescapeBytes : List Char → Option Bytes
  | [] => some []
  | '%' :: high :: low :: rest => do
    let h ← Text.Hex.digit? high
    let l ← Text.Hex.digit? low
    let bytes ← unescapeBytes rest
    return UInt8.ofNat (h * 16 + l) :: bytes
  | c :: rest =>
    if c = '%' then none else (String.utf8EncodeChar c ++ ·) <$> unescapeBytes rest

/-- What a text in a component's place stands for. -/
inductive Unescaped where
  /-- An escape lacks its two digits. -/
  | malformed
  /-- The text is `.`, `..` or empty, or spells one of these. -/
  | noValue
  /-- The text shows this value. -/
  | value (bytes : Bytes)
  deriving DecidableEq, Repr

/-- Reads an escaped value, taking three periods off a value of periods only. -/
def unescape (text : List Char) : Unescaped :=
  match unescapeBytes text with
  | none => .malformed
  | some bytes =>
    if bytes.all (· == period) then
      if bytes.length ≤ 2 then .noValue else .value (bytes.take (bytes.length - 3))
    else .value bytes

end NamedData.Name
