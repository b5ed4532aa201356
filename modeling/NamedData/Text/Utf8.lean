import NamedData.Bytes

/-!
# UTF-8

`encode` writes characters as UTF-8 and `decode` reads them back, refusing every byte string that is
no shortest-form UTF-8 of scalar values. A refusal says where the offending sequence starts and how
many bytes of it rule the text out, or that the input ends inside a sequence.
-/

namespace NamedData.Text.Utf8

/-- The UTF-8 bytes of a text. -/
def encode (text : List Char) : Bytes :=
  text.flatMap String.utf8EncodeChar

/-- Why a byte string is not UTF-8. -/
structure Fault where
  /-- How many bytes before the fault are UTF-8. -/
  validUpTo : Nat
  /-- The length of the offending sequence, unless the input ended inside it. -/
  length : Option Nat
  deriving DecidableEq, Repr

/-- The fault in words. -/
def Fault.message (fault : Fault) : String :=
  match fault.length with
  | some n => s!"invalid utf-8 sequence of {n} bytes from index {fault.validUpTo}"
  | none => s!"incomplete utf-8 byte sequence from index {fault.validUpTo}"

/-- A byte that continues a sequence. -/
def isTail (b : UInt8) : Bool :=
  0x80 ≤ b && b ≤ 0xBF

/-- The second bytes that may follow a first byte of a sequence of two or more bytes. -/
def second (first b : UInt8) : Bool :=
  if first = 0xE0 then 0xA0 ≤ b && b ≤ 0xBF
  else if first = 0xED then 0x80 ≤ b && b ≤ 0x9F
  else if first = 0xF0 then 0x90 ≤ b && b ≤ 0xBF
  else if first = 0xF4 then 0x80 ≤ b && b ≤ 0x8F
  else isTail b

/-- How many bytes a sequence with this first byte has, if it can start one. -/
def width? (first : UInt8) : Option Nat :=
  if first < 0x80 then some 1
  else if first < 0xC2 then none
  else if first < 0xE0 then some 2
  else if first < 0xF0 then some 3
  else if first < 0xF5 then some 4
  else none

/-- The six payload bits of a continuation byte. -/
def payload (b : UInt8) : Nat :=
  b.toNat % 64

/-- Reads a text whose first byte stands at `index`. -/
def decodeFrom : (index : Nat) → Bytes → Except Fault (List Char)
  | _, [] => .ok []
  | index, a :: rest =>
    match width? a with
    | none => .error ⟨index, some 1⟩
    | some 1 => (Char.ofNat a.toNat :: ·) <$> decodeFrom (index + 1) rest
    | some width =>
      match rest with
      | [] => .error ⟨index, none⟩
      | b :: rest =>
        if !second a b then .error ⟨index, some 1⟩
        else if width = 2 then
          (Char.ofNat (a.toNat % 32 * 64 + payload b) :: ·) <$> decodeFrom (index + 2) rest
        else
          match rest with
          | [] => .error ⟨index, none⟩
          | c :: rest =>
            if !isTail c then .error ⟨index, some 2⟩
            else if width = 3 then
              (Char.ofNat (a.toNat % 16 * 4096 + payload b * 64 + payload c) :: ·)
                <$> decodeFrom (index + 3) rest
            else
              match rest with
              | [] => .error ⟨index, none⟩
              | d :: rest =>
                if !isTail d then .error ⟨index, some 3⟩
                else
                  (Char.ofNat (a.toNat % 8 * 262144 + payload b * 4096 + payload c * 64
                    + payload d) :: ·) <$> decodeFrom (index + 4) rest

/-- The characters that a byte string encodes. -/
def decode (bytes : Bytes) : Except Fault (List Char) :=
  decodeFrom 0 bytes

end NamedData.Text.Utf8
