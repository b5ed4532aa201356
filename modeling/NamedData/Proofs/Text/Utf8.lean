import NamedData.Proofs.Results
import NamedData.Text.Utf8

/-!
# Text is read back from UTF-8

The form of a character has one to four bytes, by its number. For each length there is one lemma on
how such a sequence is read (`decodeFrom_one` and so on); that the forms are such sequences is
arithmetic of their bytes, where the second byte is what keeps out longer forms of smaller numbers,
surrogates, and numbers that are too large. As every sequence that is read is the form of the character
that it is read as (`encodeChar_one` and so on), a text is read from no other bytes (`decode_eq_ok_iff`).
-/

namespace NamedData.Text.Utf8

variable {index : Nat} {a b c d : UInt8} {rest : Bytes}

/-! ## Sequences of each length -/

theorem isTail_iff : isTail b = true ↔ 128 ≤ b.toNat ∧ b.toNat ≤ 191 := by
  simp only [isTail, Bool.and_eq_true, decide_eq_true_eq, UInt8.le_iff_toNat_le, UInt8.reduceToNat]

/-- The second byte continues a sequence, within narrower bounds after four first bytes. -/
theorem second_iff : second a b = true ↔ isTail b = true ∧ (a.toNat = 0xE0 → 0xA0 ≤ b.toNat)
    ∧ (a.toNat = 0xED → b.toNat ≤ 0x9F) ∧ (a.toNat = 0xF0 → 0x90 ≤ b.toNat)
    ∧ (a.toNat = 0xF4 → b.toNat ≤ 0x8F) := by
  simp only [second, isTail_iff, ← UInt8.toNat_inj, UInt8.reduceToNat]
  split
  · simp only [Bool.and_eq_true, decide_eq_true_eq, UInt8.le_iff_toNat_le, UInt8.reduceToNat]
    omega
  split
  · simp only [Bool.and_eq_true, decide_eq_true_eq, UInt8.le_iff_toNat_le, UInt8.reduceToNat]
    omega
  split
  · simp only [Bool.and_eq_true, decide_eq_true_eq, UInt8.le_iff_toNat_le, UInt8.reduceToNat]
    omega
  split
  · simp only [Bool.and_eq_true, decide_eq_true_eq, UInt8.le_iff_toNat_le, UInt8.reduceToNat]
    omega
  · rw [isTail_iff]
    omega

/-- The length of a sequence by the number of its first byte. -/
theorem width?_eq (a : UInt8) : width? a =
    if a.toNat < 128 then some 1
    else if a.toNat < 194 then none
    else if a.toNat < 224 then some 2
    else if a.toNat < 240 then some 3
    else if a.toNat < 245 then some 4
    else none := by
  simp only [width?, UInt8.lt_iff_toNat_lt, UInt8.reduceToNat]

theorem decodeFrom_one (ha : a.toNat < 128) : decodeFrom index (a :: rest)
    = (Char.ofNat a.toNat :: ·) <$> decodeFrom (index + 1) rest := by
  have hwidth : width? a = some 1 := by rw [width?_eq, if_pos ha]
  rw [decodeFrom]
  simp only [hwidth]

theorem decodeFrom_two (ha : 194 ≤ a.toNat ∧ a.toNat < 224) (hb : isTail b = true) :
    decodeFrom index (a :: b :: rest)
      = (Char.ofNat (a.toNat % 32 * 64 + payload b) :: ·) <$> decodeFrom (index + 2) rest := by
  have hwidth : width? a = some 2 := by
    rw [width?_eq, if_neg (by omega), if_neg (by omega), if_pos (by omega)]
  have hsecond : second a b = true := second_iff.2 ⟨hb, by omega, by omega, by omega, by omega⟩
  rw [decodeFrom]
  simp only [hwidth, hsecond, Bool.not_true, Bool.false_eq_true, if_false, if_true]

theorem decodeFrom_three (ha : 224 ≤ a.toNat ∧ a.toNat < 240) (hb : second a b = true)
    (hc : isTail c = true) : decodeFrom index (a :: b :: c :: rest)
      = (Char.ofNat (a.toNat % 16 * 4096 + payload b * 64 + payload c) :: ·)
        <$> decodeFrom (index + 3) rest := by
  have hwidth : width? a = some 3 := by
    rw [width?_eq, if_neg (by omega), if_neg (by omega), if_neg (by omega), if_pos (by omega)]
  rw [decodeFrom]
  simp only [hwidth, hb, hc, Bool.not_true, Bool.false_eq_true, if_false, if_true,
    Nat.reduceEqDiff]

theorem decodeFrom_four (ha : 240 ≤ a.toNat ∧ a.toNat < 245) (hb : second a b = true)
    (hc : isTail c = true) (hd : isTail d = true) : decodeFrom index (a :: b :: c :: d :: rest)
      = (Char.ofNat (a.toNat % 8 * 262144 + payload b * 4096 + payload c * 64 + payload d) :: ·)
        <$> decodeFrom (index + 4) rest := by
  have hwidth : width? a = some 4 := by
    rw [width?_eq, if_neg (by omega), if_neg (by omega), if_neg (by omega), if_neg (by omega),
      if_pos (by omega)]
  rw [decodeFrom]
  simp only [hwidth, hb, hc, hd, Bool.not_true, Bool.false_eq_true, if_false, Nat.reduceEqDiff]

/-! ## Characters -/

/-- The form of a character is read as the character, whatever follows. -/
theorem decodeFrom_char (char : Char) (index : Nat) (rest : Bytes) : ∃ next,
    decodeFrom index (String.utf8EncodeChar char ++ rest)
      = (char :: ·) <$> decodeFrom next rest := by
  have hvalid : char.val.toNat < 0xD800 ∨ 0xDFFF < char.val.toNat ∧ char.val.toNat < 0x110000 :=
    char.valid
  have hchar : Char.ofNat char.val.toNat = char := char.ofNat_toNat
  generalize hn : char.val.toNat = n at hvalid hchar
  have hbyte {k : Nat} (hk : k < 256) : (UInt8.ofNat k).toNat = k := by
    rw [UInt8.toNat_ofNat', Nat.mod_eq_of_lt hk]
  rw [String.utf8EncodeChar, hn]
  split
  · have ha : (UInt8.ofNat n).toNat = n := hbyte (by omega)
    refine ⟨index + 1, ?_⟩
    rw [List.singleton_append, decodeFrom_one (by omega), ha, hchar]
  split
  · have ha : (UInt8.ofNat (n / 64 % 32 + 192)).toNat = n / 64 % 32 + 192 := hbyte (by omega)
    have hb : (UInt8.ofNat (n % 64 + 128)).toNat = n % 64 + 128 := hbyte (by omega)
    refine ⟨index + 2, ?_⟩
    have hsum : (n / 64 % 32 + 192) % 32 * 64 + (n % 64 + 128) % 64 = n := by omega
    show decodeFrom index (_ :: _ :: rest) = _
    rw [decodeFrom_two (by omega) (isTail_iff.2 (by omega)), payload, ha, hb, hsum, hchar]
  split
  · have ha : (UInt8.ofNat (n / 4096 % 16 + 224)).toNat = n / 4096 % 16 + 224 := hbyte (by omega)
    have hb : (UInt8.ofNat (n / 64 % 64 + 128)).toNat = n / 64 % 64 + 128 := hbyte (by omega)
    have hc : (UInt8.ofNat (n % 64 + 128)).toNat = n % 64 + 128 := hbyte (by omega)
    refine ⟨index + 3, ?_⟩
    have hsum : (n / 4096 % 16 + 224) % 16 * 4096 + (n / 64 % 64 + 128) % 64 * 64
        + (n % 64 + 128) % 64 = n := by omega
    show decodeFrom index (_ :: _ :: _ :: rest) = _
    rw [decodeFrom_three (by omega) (second_iff.2 ⟨isTail_iff.2 (by omega), by omega, by omega,
      by omega, by omega⟩) (isTail_iff.2 (by omega)), payload, payload, ha, hb, hc, hsum, hchar]
  · have ha : (UInt8.ofNat (n / 262144 % 8 + 240)).toNat = n / 262144 % 8 + 240 := hbyte (by omega)
    have hb : (UInt8.ofNat (n / 4096 % 64 + 128)).toNat = n / 4096 % 64 + 128 := hbyte (by omega)
    have hc : (UInt8.ofNat (n / 64 % 64 + 128)).toNat = n / 64 % 64 + 128 := hbyte (by omega)
    have hd : (UInt8.ofNat (n % 64 + 128)).toNat = n % 64 + 128 := hbyte (by omega)
    refine ⟨index + 4, ?_⟩
    have hsum : (n / 262144 % 8 + 240) % 8 * 262144 + (n / 4096 % 64 + 128) % 64 * 4096
        + (n / 64 % 64 + 128) % 64 * 64 + (n % 64 + 128) % 64 = n := by omega
    show decodeFrom index (_ :: _ :: _ :: _ :: rest) = _
    rw [decodeFrom_four (by omega) (second_iff.2 ⟨isTail_iff.2 (by omega), by omega, by omega,
      by omega, by omega⟩) (isTail_iff.2 (by omega)) (isTail_iff.2 (by omega)), payload, payload,
      payload, ha, hb, hc, hd, hsum, hchar]

/-! ## Texts -/

/-- A character has four bytes at most. -/
theorem length_encode_le (text : List Char) : (encode text).length ≤ 4 * text.length := by
  induction text with
  | nil => exact Nat.le_refl 0
  | cons char text ih =>
    have hchar := Char.utf8Size_le_four char
    rw [encode] at ih
    rw [encode, List.flatMap_cons, List.length_append, String.length_utf8EncodeChar, List.length_cons]
    omega

theorem decodeFrom_encode (text : List Char) (index : Nat) :
    decodeFrom index (encode text) = .ok text := by
  induction text generalizing index with
  | nil => rfl
  | cons char text ih =>
    obtain ⟨next, hchar⟩ := decodeFrom_char char index (encode text)
    rw [encode, List.flatMap_cons]
    refine hchar.trans ?_
    rw [ih next]
    rfl

/-- A text is read back from its UTF-8 bytes. -/
theorem decode_encode (text : List Char) : decode (encode text) = .ok text :=
  decodeFrom_encode text 0

/-! ## Nothing else is read -/

private theorem toNat_val_ofNat {n : Nat} (h : n.isValidChar) : (Char.ofNat n).val.toNat = n := by
  rw [Char.ofNat, dif_pos h]
  rfl

private theorem ofNat_eq_of_toNat {b : UInt8} {n : Nat} (h : n = b.toNat) : UInt8.ofNat n = b := by
  rw [h, UInt8.ofNat_toNat]

/-- A sequence of one byte is the form of the character that it is read as. -/
theorem encodeChar_one (ha : a.toNat < 128) : String.utf8EncodeChar (Char.ofNat a.toNat) = [a] := by
  rw [String.utf8EncodeChar, toNat_val_ofNat (.inl (by omega)), if_pos (by omega),
    UInt8.ofNat_toNat]

theorem encodeChar_two (ha : 194 ≤ a.toNat ∧ a.toNat < 224) (hb : isTail b = true) :
    String.utf8EncodeChar (Char.ofNat (a.toNat % 32 * 64 + payload b)) = [a, b] := by
  rw [isTail_iff] at hb
  rw [payload, String.utf8EncodeChar, toNat_val_ofNat (.inl (by omega)), if_neg (by omega),
    if_pos (by omega)]
  congr 2
  · exact ofNat_eq_of_toNat (by omega)
  · exact ofNat_eq_of_toNat (by omega)

theorem encodeChar_three (ha : 224 ≤ a.toNat ∧ a.toNat < 240) (hb : second a b = true)
    (hc : isTail c = true) :
    String.utf8EncodeChar (Char.ofNat (a.toNat % 16 * 4096 + payload b * 64 + payload c))
      = [a, b, c] := by
  rw [second_iff, isTail_iff] at hb
  rw [isTail_iff] at hc
  obtain ⟨hb, hlow, hhigh, -, -⟩ := hb
  have hvalid : (a.toNat % 16 * 4096 + b.toNat % 64 * 64 + c.toNat % 64).isValidChar := by
    rw [Nat.isValidChar]
    omega
  rw [payload, payload, String.utf8EncodeChar, toNat_val_ofNat hvalid, if_neg (by omega),
    if_neg (by omega), if_pos (by omega)]
  congr 3
  · exact ofNat_eq_of_toNat (by omega)
  · exact ofNat_eq_of_toNat (by omega)
  · exact ofNat_eq_of_toNat (by omega)

theorem encodeChar_four (ha : 240 ≤ a.toNat ∧ a.toNat < 245) (hb : second a b = true)
    (hc : isTail c = true) (hd : isTail d = true) :
    String.utf8EncodeChar (Char.ofNat (a.toNat % 8 * 262144 + payload b * 4096 + payload c * 64
      + payload d)) = [a, b, c, d] := by
  rw [second_iff, isTail_iff] at hb
  rw [isTail_iff] at hc hd
  obtain ⟨hb, -, -, hlow, hhigh⟩ := hb
  have hvalid : (a.toNat % 8 * 262144 + b.toNat % 64 * 4096 + c.toNat % 64 * 64
      + d.toNat % 64).isValidChar := by
    rw [Nat.isValidChar]
    omega
  rw [payload, payload, payload, String.utf8EncodeChar, toNat_val_ofNat hvalid, if_neg (by omega),
    if_neg (by omega), if_neg (by omega)]
  congr 4
  · exact ofNat_eq_of_toNat (by omega)
  · exact ofNat_eq_of_toNat (by omega)
  · exact ofNat_eq_of_toNat (by omega)
  · exact ofNat_eq_of_toNat (by omega)

/-- The bytes that a text is read from start with the form of its first character. -/
theorem exists_char_of_decodeFrom {text : List Char} (h : decodeFrom index (a :: rest) = .ok text) :
    ∃ char text' next rest', a :: rest = String.utf8EncodeChar char ++ rest'
      ∧ decodeFrom next rest' = .ok text' ∧ text = char :: text' := by
  have hwidth := width?_eq a
  unfold decodeFrom at h
  split at h
  · cases h
  · next hone =>
    rw [hone] at hwidth
    split at hwidth
    · next hsmall =>
      obtain ⟨text', hrest, rfl⟩ := exists_of_map_eq_ok h
      exact ⟨_, text', _, rest, by rw [encodeChar_one hsmall]; rfl, hrest, rfl⟩
    all_goals grind
  next width hone hsome =>
  rw [hsome] at hwidth
  split at h
  · cases h
  next b rest =>
  split at h
  · cases h
  next hsecond =>
  rw [Bool.not_eq_true, Bool.not_eq_false'] at hsecond
  split at h
  · next htwo =>
    have ha : 194 ≤ a.toNat ∧ a.toNat < 224 := by grind
    obtain ⟨text', hrest, rfl⟩ := exists_of_map_eq_ok h
    exact ⟨_, text', _, rest, by rw [encodeChar_two ha (second_iff.1 hsecond).1]; rfl, hrest, rfl⟩
  next htwo =>
  split at h
  · cases h
  next c rest =>
  split at h
  · cases h
  next hc =>
  rw [Bool.not_eq_true, Bool.not_eq_false'] at hc
  split at h
  · next hthree =>
    have ha : 224 ≤ a.toNat ∧ a.toNat < 240 := by grind
    obtain ⟨text', hrest, rfl⟩ := exists_of_map_eq_ok h
    exact ⟨_, text', _, rest, by rw [encodeChar_three ha hsecond hc]; rfl, hrest, rfl⟩
  next hthree =>
  split at h
  · cases h
  next d rest =>
  split at h
  · cases h
  next hd =>
  rw [Bool.not_eq_true, Bool.not_eq_false'] at hd
  have ha : 240 ≤ a.toNat ∧ a.toNat < 245 := by grind
  obtain ⟨text', hrest, rfl⟩ := exists_of_map_eq_ok h
  exact ⟨_, text', _, rest, by rw [encodeChar_four ha hsecond hc hd]; rfl, hrest, rfl⟩

theorem eq_encode_of_decodeFrom {bytes : Bytes} {text : List Char}
    (h : decodeFrom index bytes = .ok text) : bytes = encode text := by
  induction text generalizing index bytes with
  | nil =>
    cases bytes with
    | nil => rfl
    | cons a rest =>
      obtain ⟨_, _, _, _, _, _, heq⟩ := exists_char_of_decodeFrom h
      cases heq
  | cons char text ih =>
    cases bytes with
    | nil =>
      rw [decodeFrom] at h
      cases h
    | cons a rest =>
      obtain ⟨_, _, _, rest', hbytes, hrest, heq⟩ := exists_char_of_decodeFrom h
      cases heq
      rw [hbytes, ih hrest]
      rfl

/-- A text is read from its UTF-8 bytes and from no others. -/
theorem decode_eq_ok_iff {bytes : Bytes} {text : List Char} :
    decode bytes = .ok text ↔ bytes = encode text := by
  constructor
  · exact eq_encode_of_decodeFrom
  · rintro rfl
    exact decode_encode text

end NamedData.Text.Utf8
