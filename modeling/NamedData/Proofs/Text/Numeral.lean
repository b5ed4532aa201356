import NamedData.Text.Blank
import NamedData.Text.Numeral

/-!
# Numerals

A numeral of a fixed width is made of as many digits, and their value is the number. No digit is
blank. A numeral without leading zeros is read back under any bound that the number keeps.
-/

namespace NamedData.Text

namespace Numeral

theorem isDigit_iff (c : Char) : isDigit c = true ↔ 48 ≤ c.toNat ∧ c.toNat ≤ 57 := by
  rw [isDigit, Bool.and_eq_true, decide_eq_true_eq, decide_eq_true_eq]
  exact Iff.rfl

theorem isDigit_of_mem_renderPadded {width n : Nat} {c : Char} (h : c ∈ renderPadded width n) :
    isDigit c = true := by
  rw [renderPadded, List.mem_append] at h
  rcases h with hzero | hdigit
  · rw [List.eq_of_mem_replicate hzero]
    rfl
  · have := Nat.isDigit_of_mem_toDigits (by decide) (by decide) hdigit
    rw [Char.isDigit, Bool.and_eq_true, decide_eq_true_eq, decide_eq_true_eq] at this
    exact (isDigit_iff c).2 this

theorem renderPadded_ne_nil (width n : Nat) : renderPadded width n ≠ [] := by
  intro h
  exact Nat.toDigits_ne_nil (List.append_eq_nil_iff.1 h).2

theorem length_renderPadded {width n : Nat} (hpos : 0 < width) (h : n < Nat.pow 10 width) :
    (renderPadded width n).length = width := by
  have hle : (render n).length ≤ width := (Nat.length_toDigits_le_iff (by decide) hpos).2 h
  rw [renderPadded, List.length_append, List.length_replicate]
  omega

/-- Leading zeros do not count. -/
theorem ofDigitChars_renderPadded (width n : Nat) :
    Nat.ofDigitChars 10 (renderPadded width n) 0 = n := by
  rw [renderPadded, Nat.ofDigitChars_append, Nat.ofDigitChars_replicate_zero, Nat.mul_zero, render,
    Nat.ofDigitChars_ten_toDigits]

/-- More digits never lower the value. -/
theorem le_ofDigitChars (digits : List Char) (value : Nat) :
    value ≤ Nat.ofDigitChars 10 digits value := by
  have hpos := Nat.pow_pos (n := digits.length) (show 0 < 10 by decide)
  calc
    value ≤ 10 ^ digits.length * value := Nat.le_mul_of_pos_left value hpos
    _ ≤ 10 ^ digits.length * value + Nat.ofDigitChars 10 digits 0 := Nat.le_add_right _ _
    _ = Nat.ofDigitChars 10 digits value := Nat.ofDigitChars_eq_ofDigitChars_zero.symm

/-! ## Reading -/

theorem renderPadded_zero (n : Nat) : renderPadded 0 n = render n := by
  simp [renderPadded]

theorem isDigit_of_mem_render {n : Nat} {c : Char} (h : c ∈ render n) : isDigit c = true := by
  rw [← renderPadded_zero] at h
  exact isDigit_of_mem_renderPadded h

theorem render_ne_nil (n : Nat) : render n ≠ [] :=
  Nat.toDigits_ne_nil

/-- A numeral starts with a digit. -/
theorem render_ne_cons {n : Nat} {c : Char} (hc : isDigit c = false) (rest : List Char) :
    render n ≠ c :: rest := by
  intro h
  have hdigit : isDigit c = true := isDigit_of_mem_render (h ▸ List.mem_cons_self)
  rw [hc] at hdigit
  cases hdigit

theorem render_injective : Function.Injective render := by
  intro n n' h
  rw [← ofDigitChars_renderPadded 0 n, renderPadded_zero, h, ← renderPadded_zero, ofDigitChars_renderPadded]

/-- Digits whose value keeps the bound are read one by one. -/
theorem readDigits_eq {bound value : Nat} {digits : List Char}
    (hdigits : ∀ c ∈ digits, isDigit c = true) (hbound : Nat.ofDigitChars 10 digits value < bound) :
    readDigits bound value digits = .ok (Nat.ofDigitChars 10 digits value) := by
  induction digits generalizing value with
  | nil => rfl
  | cons c digits ih =>
    have hnext : value * 10 + digitValue c = 10 * value + (c.toNat - '0'.toNat) := by
      rw [Nat.mul_comm]
      rfl
    rw [Nat.ofDigitChars_cons, ← hnext] at hbound ⊢
    have hle := le_ofDigitChars digits (value * 10 + digitValue c)
    have hc := hdigits c List.mem_cons_self
    have htail := ih (fun d hd => hdigits d (List.mem_cons_of_mem _ hd)) hbound
    rw [readDigits, if_neg (by simp [hc]), if_neg (by omega), htail]

/-- Without a plus sign all characters are digits. -/
theorem read_of_ne_plus {bound : Nat} {c : Char} {digits : List Char} (h : c ≠ '+') :
    read bound (c :: digits) = readDigits bound 0 (c :: digits) := by
  unfold read
  split <;> simp_all

theorem read_render {bound n : Nat} (h : n < bound) : read bound (render n) = .ok n := by
  have hvalue : Nat.ofDigitChars 10 (render n) 0 = n := Nat.ofDigitChars_ten_toDigits
  have hread : readDigits bound 0 (render n) = .ok n := by
    rw [readDigits_eq (fun _ => isDigit_of_mem_render) (by omega), hvalue]
  cases hrender : render n with
  | nil => exact absurd hrender (render_ne_nil n)
  | cons c digits =>
    have hc : isDigit c = true := isDigit_of_mem_render (hrender ▸ List.mem_cons_self)
    rw [read_of_ne_plus (by rintro rfl; cases hc), ← hrender, hread]

end Numeral

theorem not_isBlank_of_isDigit {c : Char} (h : Numeral.isDigit c = true) : isBlank c = false := by
  rw [Numeral.isDigit_iff] at h
  simp only [isBlank, Bool.or_eq_false_iff, Bool.and_eq_false_iff, decide_eq_false_iff_not]
  omega

/-- There is nothing to trim before a numeral. -/
theorem trimStart_renderPadded (width n : Nat) (rest : List Char) :
    trimStart (Numeral.renderPadded width n ++ rest) = Numeral.renderPadded width n ++ rest := by
  cases h : Numeral.renderPadded width n with
  | nil => exact absurd h (Numeral.renderPadded_ne_nil width n)
  | cons c digits =>
    have hdigit : Numeral.isDigit c = true :=
      Numeral.isDigit_of_mem_renderPadded (h ▸ List.mem_cons_self)
    rw [trimStart, List.cons_append, List.dropWhile_cons_of_neg]
    rw [not_isBlank_of_isDigit hdigit]
    exact Bool.false_ne_true

end NamedData.Text
