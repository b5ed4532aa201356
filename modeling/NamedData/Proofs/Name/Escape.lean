import NamedData.Name.Escape
import NamedData.Proofs.Text.Hex
import NamedData.Proofs.Text.Numeral
import NamedData.Text.Blank

/-!
# Escaped values are read back

A value is escaped byte by byte, after three periods were added to it if it consists of periods only. Each
byte is read back from its own few characters, and the periods are taken off again, so that every value, the
empty one included, is read back from its text (`unescape_escape`). The characters of the text are visible ones of
ASCII, but none of those that separate components, types, schemes or entries, and no asterisk (`isShown`).
-/

namespace NamedData.Name

open Text (isBlank)

/-! ## Characters -/

/-- Whether a character is a visible one of ASCII that separates neither components nor types nor schemes nor the
entries of an exclude, and is not the asterisk that stands for a range of them. -/
def isShown (c : Char) : Bool :=
  0x21 ≤ c.toNat && c.toNat ≤ 0x7E && c ≠ '/' && c ≠ ':' && c ≠ '=' && c ≠ ',' && c ≠ '*'

theorem not_isBlank_of_isShown {c : Char} (h : isShown c = true) : isBlank c = false := by
  simp only [isShown, Bool.and_eq_true, decide_eq_true_eq] at h
  simp only [isBlank, Bool.or_eq_false_iff, Bool.and_eq_false_iff, decide_eq_false_iff_not]
  omega

theorem isShown_of_isDigit {c : Char} (h : Text.Numeral.isDigit c = true) : isShown c = true := by
  have hbounds := (Text.Numeral.isDigit_iff c).1 h
  have hne : ∀ d : Char, d.toNat < 48 ∨ 57 < d.toNat → c ≠ d := by
    rintro d hd rfl
    omega
  simp only [isShown, Bool.and_eq_true, decide_eq_true_eq]
  exact ⟨⟨⟨⟨⟨by omega, hne _ (by decide)⟩, hne _ (by decide)⟩, hne _ (by decide)⟩, hne _ (by decide)⟩,
    hne _ (by decide)⟩

theorem isShown_of_mem_hex {bytes : Bytes} {c : Char} (h : c ∈ Text.Hex.encode bytes) :
    isShown c = true := by
  have hdigit : ∀ n < 16, isShown (Text.Hex.lowerDigit n) = true := by decide
  obtain ⟨b, -, hc⟩ := List.mem_flatMap.1 h
  simp only [List.mem_cons, List.not_mem_nil, or_false] at hc
  rcases hc with rfl | rfl
  · exact hdigit _ (Text.Hex.high_lt b)
  · exact hdigit _ (Text.Hex.low_lt b)

/-! ## Bytes -/

/-- What is escaped: the value, or three periods more if it has no other bytes. -/
def padded (value : Bytes) : Bytes :=
  if value.all (· == period) then List.replicate (3 + value.length) period else value

theorem escape_eq (value : Bytes) : escape value = (padded value).flatMap escapeByte := by
  unfold escape padded
  split
  · generalize 3 + value.length = n
    induction n with
    | zero => rfl
    | succ n ih => rw [List.replicate_succ, List.replicate_succ, List.flatMap_cons, ← ih]; rfl
  · rfl

theorem isShown_of_mem_escapeByte {b : UInt8} {c : Char} (h : c ∈ escapeByte b) : isShown c = true := by
  have hall : ∀ n < 256, (escapeByte (UInt8.ofNat n)).all isShown = true := by decide +kernel
  have hb := hall b.toNat b.toNat_lt
  rw [UInt8.ofNat_toNat, List.all_eq_true] at hb
  exact hb c h

theorem isShown_of_mem_escape {value : Bytes} {c : Char} (h : c ∈ escape value) : isShown c = true := by
  rw [escape_eq] at h
  obtain ⟨b, -, hc⟩ := List.mem_flatMap.1 h
  exact isShown_of_mem_escapeByte hc

theorem equals_not_mem_escape (value : Bytes) : '=' ∉ escape value :=
  fun h => absurd (isShown_of_mem_escape h) (by decide)

/-! ## Reading -/

/-- A character that is no percent sign stands for its bytes. -/
theorem unescapeBytes_of_ne {c : Char} (h : c ≠ '%') (rest : List Char) :
    unescapeBytes (c :: rest) = (String.utf8EncodeChar c ++ ·) <$> unescapeBytes rest := by
  rw [unescapeBytes.eq_def]
  split <;> simp_all

/-- A percent sign and two digits stand for one byte. -/
theorem unescapeBytes_percent {high low : Nat} (hhigh : high < 16) (hlow : low < 16) (rest : List Char) :
    unescapeBytes ('%' :: Text.Hex.upperDigit high :: Text.Hex.upperDigit low :: rest) =
      (UInt8.ofNat (high * 16 + low) :: ·) <$> unescapeBytes rest := by
  simp only [unescapeBytes, Text.Hex.digit?_upperDigit _ hhigh, Text.Hex.digit?_upperDigit _ hlow]
  cases unescapeBytes rest <;> rfl

theorem unescapeBytes_escapeByte (b : UInt8) (rest : List Char) :
    unescapeBytes (escapeByte b ++ rest) = (b :: ·) <$> unescapeBytes rest := by
  unfold escapeByte
  by_cases hb : isUnreserved b = true
  · have hplain : ∀ n < 256, isUnreserved (UInt8.ofNat n) = true →
        Char.ofNat n ≠ '%' ∧ String.utf8EncodeChar (Char.ofNat n) = [UInt8.ofNat n] := by
      decide +kernel
    obtain ⟨hne, hbyte⟩ := hplain b.toNat b.toNat_lt (by rwa [UInt8.ofNat_toNat])
    rw [UInt8.ofNat_toNat] at hbyte
    rw [if_pos hb, List.singleton_append, unescapeBytes_of_ne hne, hbyte]
    rfl
  · rw [if_neg hb]
    exact (unescapeBytes_percent (Text.Hex.high_lt b) (Text.Hex.low_lt b) rest).trans
      (by rw [Text.Hex.ofNat_high_low])

theorem unescapeBytes_flatMap (bytes : Bytes) : unescapeBytes (bytes.flatMap escapeByte) = some bytes := by
  induction bytes with
  | nil => rfl
  | cons b bytes ih => rw [List.flatMap_cons, unescapeBytes_escapeByte, ih]; rfl

theorem unescape_escape (value : Bytes) : unescape (escape value) = .value value := by
  rw [unescape, escape_eq, unescapeBytes_flatMap]
  unfold padded
  by_cases hperiods : value.all (· == period) = true
  · have hvalue : value = List.replicate value.length period :=
      List.eq_replicate_iff.2 ⟨rfl, by simpa using hperiods⟩
    simp only [hperiods, if_true]
    rw [if_pos (by simp), if_neg (by simp; omega), List.take_replicate]
    simpa using hvalue.symm
  · simp [hperiods]

theorem escape_injective : Function.Injective escape := by
  intro value value' h
  have hread := congrArg unescape h
  rw [unescape_escape, unescape_escape] at hread
  exact Unescaped.value.inj hread

theorem escape_ne_nil (value : Bytes) : escape value ≠ [] := by
  intro h
  have hvalue := unescape_escape value
  rw [h] at hvalue
  cases hvalue

end NamedData.Name
