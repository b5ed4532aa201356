import NamedData.Wire.ElementType
import NamedData.Wire.Integer

/-!
# Writing elements

An element is a type number, the length of its value, and the value. Both numbers are written in the
shortest of four forms: one byte below 253, else a byte that tells the width and two, four or eight
bytes.
-/

namespace NamedData.Wire

/-- The shortest form of a type or length number. -/
def number (n : UInt64) : Bytes :=
  if n.toNat < 253 then Bytes.bigEndian 1 n.toNat
  else if n.toNat < UInt16.size then 253 :: Bytes.bigEndian 2 n.toNat
  else if n.toNat < UInt32.size then 254 :: Bytes.bigEndian 4 n.toNat
  else 255 :: Bytes.bigEndian 8 n.toNat

/-- The type and length in front of a value. -/
def header (type : UInt64) (length : Nat) : Bytes :=
  number type ++ number (UInt64.ofNat length)

/-- An element of the given type and value. -/
def element (type : UInt64) (value : Bytes) : Bytes :=
  header type value.length ++ value

/-- An element whose value is a number. -/
def integerElement (type n : UInt64) : Bytes :=
  element type (Integer.encode n)

/-- An element whose value is a number, or nothing. -/
def integerElement? (type : UInt64) (n : Option UInt64) : Bytes :=
  match n with
  | some n => integerElement type n
  | none => []

end NamedData.Wire
