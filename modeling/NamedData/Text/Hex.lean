import NamedData.Bytes

/-!
# Hexadecimal text

`encode` writes two lower-case digits a byte. `decode` takes digits of either case from a string of
bytes and says which byte is no digit; an odd count is refused before any digit is looked at.
-/

namespace NamedData.Text.Hex

/-- The digit of a number below 16, in lower case. -/
def lowerDigit (n : Nat) : Char :=
  if n < 10 then Char.ofNat (48 + n) else Char.ofNat (87 + n)

/-- The digit of a number below 16, in upper case. -/
def upperDigit (n : Nat) : Char :=
  if n < 10 then Char.ofNat (48 + n) else Char.ofNat (55 + n)

/-- The value of a hexadecimal digit of either case. -/
def digit? (c : Char) : Option Nat :=
  if '0' ≤ c ∧ c ≤ '9' then some (c.toNat - 48)
  else if 'a' ≤ c ∧ c ≤ 'f' then some (c.toNat - 87)
  else if 'A' ≤ c ∧ c ≤ 'F' then some (c.toNat - 55)
  else none

/-- Two lower-case digits for every byte. -/
def encode (bytes : Bytes) : List Char :=
  bytes.flatMap fun b => [lowerDigit (b.toNat / 16), lowerDigit (b.toNat % 16)]

/-- Why a text is no hexadecimal text. -/
inductive Fault where
  /-- The number of digits is odd. -/
  | oddLength
  /-- The byte at `index` is no digit. -/
  | notADigit (byte : UInt8) (index : Nat)
  deriving DecidableEq, Repr

/-- The value of the digit at `index`. -/
def digitAt (byte : UInt8) (index : Nat) : Except Fault Nat :=
  match digit? (Char.ofNat byte.toNat) with
  | some n => .ok n
  | none => .error (.notADigit byte index)

/-- Reads pairs of digits, the first of which stands at `index`. -/
def decodePairs : (index : Nat) → Bytes → Except Fault Bytes
  | index, high :: low :: rest => do
    let h ← digitAt high index
    let l ← digitAt low (index + 1)
    let bytes ← decodePairs (index + 2) rest
    return UInt8.ofNat (h * 16 + l) :: bytes
  | _, [_] => .error .oddLength
  | _, [] => .ok []

/-- The bytes that a hexadecimal text stands for. -/
def decode (text : Bytes) : Except Fault Bytes :=
  if text.length % 2 = 1 then .error .oddLength else decodePairs 0 text

end NamedData.Text.Hex
