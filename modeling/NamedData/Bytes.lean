/-!
# Byte strings and big-endian numbers

A byte string is a list of bytes. `bigEndian w n` writes the low `w` base-256 digits of `n`, the
most significant first, and `ofBigEndian` reads such digits back; `ofBigEndian_bigEndian` says that
a number that fits its width survives the trip.
-/

namespace NamedData

/-- A string of bytes. -/
abbrev Bytes := List UInt8

namespace Bytes

/-- The `width` least significant base-256 digits of `n`, most significant first. -/
def bigEndian : (width : Nat) → (n : Nat) → Bytes
  | 0, _ => []
  | width + 1, n => bigEndian width (n / 256) ++ [UInt8.ofNat n]

/-- The number whose base-256 digits, most significant first, are the bytes. -/
def ofBigEndian (digits : Bytes) : Nat :=
  digits.foldl (fun n digit => n * 256 + digit.toNat) 0

@[simp] theorem length_bigEndian (width n : Nat) : (bigEndian width n).length = width := by
  induction width generalizing n with
  | zero => rfl
  | succ width ih => rw [bigEndian, List.length_append, ih, List.length_singleton]

/-- The last digit is the least significant one. -/
theorem ofBigEndian_concat (digits : Bytes) (digit : UInt8) :
    ofBigEndian (digits ++ [digit]) = ofBigEndian digits * 256 + digit.toNat := by
  rw [ofBigEndian, List.foldl_append, List.foldl_cons, List.foldl_nil, ofBigEndian]

/-- A number of at most `width` base-256 digits is read back from them. -/
theorem ofBigEndian_bigEndian {width n : Nat} (h : n < Nat.pow 256 width) :
    ofBigEndian (bigEndian width n) = n := by
  induction width generalizing n with
  | zero => exact (Nat.lt_one_iff.1 h).symm
  | succ width ih =>
    have hupper : n / 256 < Nat.pow 256 width := (Nat.div_lt_iff_lt_mul (by decide)).2 h
    have hdigit : (UInt8.ofNat n).toNat = n % 256 := UInt8.toNat_ofNat'
    rw [bigEndian, ofBigEndian_concat, ih hupper, hdigit, Nat.div_add_mod']

/-- Digits are the digits of their number. -/
theorem bigEndian_ofBigEndian {width : Nat} {digits : Bytes} (h : digits.length = width) :
    bigEndian width (ofBigEndian digits) = digits := by
  induction width generalizing digits with
  | zero => rw [List.length_eq_zero_iff.1 h, bigEndian]
  | succ width ih =>
    obtain rfl | ⟨upper, digit, rfl⟩ := List.eq_nil_or_concat digits
    · cases h
    have hdigit := digit.toNat_lt
    have hbyte : UInt8.ofNat (ofBigEndian upper * 256 + digit.toNat) = digit := by
      rw [← UInt8.toNat_inj, UInt8.toNat_ofNat']
      omega
    have hupper : (ofBigEndian upper * 256 + digit.toNat) / 256 = ofBigEndian upper := by omega
    rw [List.length_concat] at h
    rw [List.concat_eq_append, ofBigEndian_concat, bigEndian, hbyte, hupper, ih (Nat.succ.inj h)]

/-- A number has as many digits as its width. -/
theorem ofBigEndian_lt (digits : Bytes) : ofBigEndian digits < Nat.pow 256 digits.length := by
  generalize hwidth : digits.length = width
  induction width generalizing digits with
  | zero =>
    rw [List.length_eq_zero_iff.1 hwidth]
    exact Nat.one_pos
  | succ width ih =>
    obtain rfl | ⟨upper, digit, rfl⟩ := List.eq_nil_or_concat digits
    · cases hwidth
    have hdigit := digit.toNat_lt
    rw [List.length_concat] at hwidth
    have hupper := ih upper (Nat.succ.inj hwidth)
    rw [List.concat_eq_append, ofBigEndian_concat]
    show _ < Nat.pow 256 width * 256
    omega

end Bytes

end NamedData
