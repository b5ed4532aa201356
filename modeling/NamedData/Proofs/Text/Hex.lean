import NamedData.Proofs.Text.Utf8
import NamedData.Text.Hex

/-!
# Hexadecimal text is read back

Each digit is read as the number it was written for, in either case, and a byte is its high digit times
sixteen plus its low digit. So the bytes that are shown in hexadecimal are what the text stands for.
-/

namespace NamedData.Text.Hex

/-! ## Digits -/

theorem digit?_lowerDigit : ∀ n < 16, digit? (lowerDigit n) = some n := by
  decide

theorem digit?_upperDigit : ∀ n < 16, digit? (upperDigit n) = some n := by
  decide

theorem high_lt (b : UInt8) : b.toNat / 16 < 16 := by
  have := b.toNat_lt
  omega

theorem low_lt (b : UInt8) : b.toNat % 16 < 16 := by
  omega

/-- The two digits of a byte make up the byte. -/
theorem ofNat_high_low (b : UInt8) : UInt8.ofNat (b.toNat / 16 * 16 + b.toNat % 16) = b := by
  rw [Nat.div_add_mod']
  exact UInt8.ofNat_toNat

/-! ## Texts -/

/-- The byte that a digit is written as. -/
def lowerByte (n : Nat) : UInt8 :=
  UInt8.ofNat (lowerDigit n).toNat

theorem encodeChar_lowerDigit : ∀ n < 16, String.utf8EncodeChar (lowerDigit n) = [lowerByte n] := by
  decide

theorem digitAt_lowerByte {n : Nat} (h : n < 16) (index : Nat) : digitAt (lowerByte n) index = .ok n := by
  have hchar : ∀ n < 16, Char.ofNat (lowerByte n).toNat = lowerDigit n := by decide
  rw [digitAt, hchar n h, digit?_lowerDigit n h]

/-- Every byte is written as the bytes of its two digits. -/
theorem encode_encode_cons (b : UInt8) (bytes : Bytes) : Utf8.encode (encode (b :: bytes)) =
    lowerByte (b.toNat / 16) :: lowerByte (b.toNat % 16) :: Utf8.encode (encode bytes) := by
  simp only [encode, Utf8.encode, List.flatMap_cons, List.flatMap_append, List.flatMap_nil,
    encodeChar_lowerDigit _ (high_lt b), encodeChar_lowerDigit _ (low_lt b)]
  rfl

theorem length_encode_encode (bytes : Bytes) :
    (Utf8.encode (encode bytes)).length = 2 * bytes.length := by
  induction bytes with
  | nil => rfl
  | cons b bytes ih =>
    rw [encode_encode_cons]
    simp only [List.length_cons, ih]
    omega

theorem decodePairs_encode (bytes : Bytes) (index : Nat) :
    decodePairs index (Utf8.encode (encode bytes)) = .ok bytes := by
  induction bytes generalizing index with
  | nil => rfl
  | cons b bytes ih =>
    simp only [encode_encode_cons, decodePairs, digitAt_lowerByte (high_lt b),
      digitAt_lowerByte (low_lt b), ih]
    exact congrArg (fun first => Except.ok (first :: bytes)) (ofNat_high_low b)

/-- Bytes are read back from the text that shows them. -/
theorem decode_encode (bytes : Bytes) : decode (Utf8.encode (encode bytes)) = .ok bytes := by
  have heven : (Utf8.encode (encode bytes)).length % 2 ≠ 1 := by
    rw [length_encode_encode]
    omega
  rw [decode, if_neg heven, decodePairs_encode]

theorem encode_injective : Function.Injective encode := by
  intro bytes bytes' h
  have hread := congrArg (fun text => decode (Utf8.encode text)) h
  simpa only [decode_encode, Except.ok.injEq] using hread

end NamedData.Text.Hex
