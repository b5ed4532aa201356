import NamedData.Proofs.Results
import NamedData.Proofs.Text.Numeral
import NamedData.Proofs.Time.Calendar
import NamedData.Time.Instant

/-!
# Instants are read back to the second

The compact text of an instant in the years 0 to 9999 is read as that instant without its fraction;
of the nanoseconds only the billion that makes a leap second is kept. Instants that were read are without
a fraction already (`asRead_of_parse`). The text of an instant in another year has a sign, after which the
year takes the digits of the date as well, so that it is not read (`year_of_parse_write`).
-/

namespace NamedData.Time.Instant

open Text (trimStart_renderPadded)
open Text.Numeral (renderPadded isDigit isDigit_of_mem_renderPadded le_ofDigitChars
  length_renderPadded ofDigitChars_renderPadded)

/-- An instant without the fraction of its second. -/
def truncate (t : Instant) : Instant :=
  ⟨t.seconds, t.nanos / 1000000000 * 1000000000⟩

/-- An instant whose compact text is made of digits and the letter between date and time alone. -/
structure IsCompact (t : Instant) : Prop where
  valid : t.isValid = true
  year_nonneg : 0 ≤ t.date.year
  year_le : t.date.year ≤ 9999

/-- The same, but in any second, and not only in the last of a minute, there may be a leap second. -/
structure IsUnsigned (t : Instant) : Prop where
  nanos_lt : t.nanos < 2000000000
  year_nonneg : 0 ≤ t.date.year
  year_le : t.date.year ≤ 9999

theorem IsCompact.isUnsigned {t : Instant} (h : t.IsCompact) : t.IsUnsigned where
  nanos_lt := by
    have hvalid := h.valid
    simp only [isValid, Bool.and_eq_true, Bool.or_eq_true, decide_eq_true_eq] at hvalid
    omega
  year_nonneg := h.year_nonneg
  year_le := h.year_le

/-- An instant as its compact text is read. A leap second is told only in the last second of a minute;
in any other it is the next second. -/
def asRead (t : Instant) : Instant :=
  if t.secondOfDay % 60 + t.nanos / 1000000000 = 60 then ⟨t.seconds, 1000000000⟩
  else ⟨t.seconds + (t.nanos / 1000000000 : Nat), 0⟩

/-! ## Numbers -/

theorem readMore_digits {digits : List Char} (hdigits : ∀ c ∈ digits, isDigit c = true)
    (value : Nat) (rest : List Char) (hlimit : Nat.ofDigitChars 10 digits value < numberLimit) :
    readMore digits.length value (digits ++ rest)
      = .ok (Nat.ofDigitChars 10 digits value, rest) := by
  induction digits generalizing value with
  | nil => rfl
  | cons c digits ih =>
    have hc : isDigit c = true := hdigits c List.mem_cons_self
    have hnext : 10 * value + (c.toNat - '0'.toNat) = value * 10 + Text.Numeral.digitValue c :=
      congrArg (· + Text.Numeral.digitValue c) (Nat.mul_comm 10 value)
    rw [Nat.ofDigitChars_cons, hnext] at hlimit ⊢
    have hbelow := Nat.lt_of_le_of_lt (le_ofDigitChars digits _) hlimit
    rw [List.length_cons, List.cons_append, readMore, hc, Bool.not_true, if_neg Bool.false_ne_true]
    show (if numberLimit ≤ value * 10 + Text.Numeral.digitValue c then _ else _) = _
    rw [if_neg (Nat.not_le.2 hbelow)]
    exact ih (fun d hd => hdigits d (List.mem_cons_of_mem c hd)) _ hlimit

theorem readNumber_renderPadded {width n : Nat} (hpos : 0 < width) (h : n < Nat.pow 10 width)
    (hlimit : n < numberLimit) (rest : List Char) :
    readNumber width (renderPadded width n ++ rest) = .ok (n, rest) := by
  have hdigits : ∀ c ∈ renderPadded width n, isDigit c = true :=
    fun c => isDigit_of_mem_renderPadded
  have hread := readMore_digits hdigits 0 rest (by rw [ofDigitChars_renderPadded]; exact hlimit)
  rw [length_renderPadded hpos h, ofDigitChars_renderPadded] at hread
  cases htext : renderPadded width n with
  | nil => exact absurd htext (Text.Numeral.renderPadded_ne_nil width n)
  | cons c digits =>
    rw [htext] at hdigits hread
    rw [List.cons_append, readNumber, if_pos (hdigits c List.mem_cons_self)]
    exact hread

theorem readField_renderPadded {low high n : Nat} (hlow : low ≤ n) (hhigh : n ≤ high)
    (h : n < 100) (rest : List Char) :
    readField low high (renderPadded 2 n ++ rest) = .ok (n, rest) := by
  have hlimit : n < numberLimit := by rw [numberLimit]; omega
  rw [readField, trimStart_renderPadded, readNumber_renderPadded (by decide) (by omega) hlimit]
  exact if_pos ⟨hlow, hhigh⟩

/-- A result is handed on. Unfolding both sides, the checker would compute the ends of the range of
years in unary. -/
private theorem ok_bind {ε α β : Type} (a : α) (next : α → Except ε β) :
    (Except.ok a >>= next) = next a := rfl

/-- A year of four digits has no sign. -/
theorem readYear_writeYear {year : Int} (hnonneg : 0 ≤ year) (hle : year ≤ 9999)
    (rest : List Char) : readYear (writeYear year ++ rest) = .ok (year, rest) := by
  obtain ⟨n, rfl⟩ := Int.eq_ofNat_of_zero_le hnonneg
  have hlimit : n < numberLimit := by rw [numberLimit]; omega
  have hlt : n < Nat.pow 10 4 := show n < 10000 by omega
  have hnumber := readNumber_renderPadded (by decide) hlt hlimit rest
  have hrange : -2147483648 ≤ (n : Int) ∧ (n : Int) < 2147483648 := by omega
  rw [writeYear, if_pos ⟨hnonneg, hle⟩, Int.toNat_natCast, readYear, trimStart_renderPadded]
  cases htext : renderPadded 4 n with
  | nil => exact absurd htext (Text.Numeral.renderPadded_ne_nil 4 n)
  | cons c digits =>
    have hc : isDigit c = true := isDigit_of_mem_renderPadded (htext ▸ List.mem_cons_self)
    have hminus : c ≠ '-' := fun heq => absurd (heq ▸ hc) (by decide)
    have hplus : c ≠ '+' := fun heq => absurd (heq ▸ hc) (by decide)
    rw [htext] at hnumber
    simp only [List.cons_append, List.cons.injEq, hminus, hplus, false_and, imp_self, implies_true]
    rw [← List.cons_append, hnumber]
    rw [ok_bind, pure_bind, if_pos hrange]

/-! ## The whole text -/

/-- The time of day that is written, on the day that is written, is the instant without its
fraction, some seconds later. -/
private theorem ofDateTime_date (t : Instant) (later nanos : Nat) :
    ofDateTime t.date (t.secondOfDay / 3600) (t.secondOfDay / 60 % 60) (t.secondOfDay % 60 + later)
      nanos = ⟨t.seconds + later, nanos⟩ := by
  have hday : (t.secondOfDay : Int) = t.seconds % 86400 := by
    rw [secondOfDay]
    omega
  rw [ofDateTime, date, Date.toDays_ofDays]
  congr 1
  omega

/-- An instant in the years 0 to 9999 is read back, to the second. -/
theorem parse_write_asRead {t : Instant} (h : t.IsUnsigned) : parse t.write = .ok t.asRead := by
  obtain ⟨hnanos, hnonneg, hle⟩ := h
  have hdate : t.date.isValid = true :=
    (Date.isValid_ofDays_iff _).2 ⟨Int.le_trans (by decide) hnonneg, Int.le_trans hle (by decide)⟩
  have hfields := hdate
  have hlength := monthLength_le t.date.year t.date.month
  simp only [Date.isValid, Bool.and_eq_true, decide_eq_true_eq] at hfields
  have hsecond : t.secondOfDay < 86400 := by
    rw [secondOfDay]
    omega
  have hleap : t.nanos / 1000000000 ≤ 1 := by omega
  rw [asRead]
  generalize hlater : t.nanos / 1000000000 = later at hleap ⊢
  have hmonth := readField_renderPadded (n := t.date.month) hfields.1.1.1.2 hfields.1.1.2 (by omega)
  have hday := readField_renderPadded (n := t.date.day) hfields.1.2
    (Nat.le_trans hfields.2 hlength) (by omega)
  have hhour := readField_renderPadded (Nat.zero_le _) (show t.secondOfDay / 3600 ≤ 23 by omega)
    (by omega)
  have hminute := readField_renderPadded (Nat.zero_le _)
    (show t.secondOfDay / 60 % 60 ≤ 59 by omega) (by omega)
  have hend := readField_renderPadded (n := t.secondOfDay % 60 + later) (Nat.zero_le _)
    (show _ ≤ 60 by omega) (by omega) []
  rw [List.append_nil] at hend
  simp only [write, parse, hlater, List.append_assoc, List.cons_append, bind, Except.bind, readDivider,
    readYear_writeYear hnonneg hle, hmonth, hday, hhour, hminute, hend]
  have hexists : (!(Date.mk t.date.year t.date.month t.date.day).isValid) = false := by
    rw [Bool.not_eq_false']
    exact hdate
  rw [if_neg (fun hne => hne rfl), hexists, if_neg Bool.false_ne_true]
  by_cases hlast : t.secondOfDay % 60 + later = 60
  · have hminuteEnd : t.secondOfDay % 60 = 59 := by omega
    have hdateTime := ofDateTime_date t 0 1000000000
    rw [hminuteEnd] at hdateTime
    rw [if_pos hlast, if_pos hlast]
    exact congrArg Except.ok (hdateTime.trans (by rw [Int.natCast_zero, Int.add_zero]))
  · rw [if_neg hlast, if_neg hlast]
    exact congrArg Except.ok (ofDateTime_date t later 0)

theorem IsCompact.asRead_eq {t : Instant} (h : t.IsCompact) : t.asRead = t.truncate := by
  rw [asRead, truncate]
  have hvalid := h.valid
  simp only [isValid, Bool.and_eq_true, Bool.or_eq_true, decide_eq_true_eq] at hvalid
  -- a fraction holds a whole second only in a leap second, which is the last of a minute
  have hleap : t.nanos / 1000000000 = 0
      ∨ t.nanos / 1000000000 = 1 ∧ t.secondOfDay % 60 = 59 := by omega
  rcases hleap with hnone | ⟨hone, hlast⟩
  · rw [hnone, if_neg (by omega), Int.natCast_zero, Int.add_zero, Nat.zero_mul]
  · rw [hone, hlast, if_pos rfl, Nat.one_mul]

/-! ## What is read -/

theorem readField_range {low high n : Nat} {text rest : List Char}
    (h : readField low high text = .ok (n, rest)) : low ≤ n ∧ n ≤ high := by
  obtain ⟨⟨m, after⟩, -, hrange⟩ := exists_of_bind_eq_ok h
  dsimp only at hrange
  split at hrange
  · next hle =>
    cases hrange
    exact hle
  · cases hrange

/-- An instant that was read is a whole second of a day that is kept. There may be a leap second at the end
of a minute. -/
theorem exists_of_parse {text : List Char} {t : Instant} (h : parse text = .ok t) :
    ∃ (day : Date) (hour minute second nanos : Nat), day.isValid = true ∧ hour ≤ 23 ∧ minute ≤ 59
      ∧ second ≤ 59 ∧ (nanos = 0 ∨ second = 59 ∧ nanos = 1000000000)
      ∧ t = ofDateTime day hour minute second nanos := by
  obtain ⟨⟨year, text₁⟩, -, h⟩ := exists_of_bind_eq_ok h
  obtain ⟨⟨month, text₂⟩, -, h⟩ := exists_of_bind_eq_ok h
  obtain ⟨⟨day, text₃⟩, -, h⟩ := exists_of_bind_eq_ok h
  obtain ⟨text₄, -, h⟩ := exists_of_bind_eq_ok h
  obtain ⟨⟨hour, text₅⟩, hhour, h⟩ := exists_of_bind_eq_ok h
  obtain ⟨⟨minute, text₆⟩, hminute, h⟩ := exists_of_bind_eq_ok h
  obtain ⟨⟨second, text₇⟩, hsecond, h⟩ := exists_of_bind_eq_ok h
  have hhour := (readField_range hhour).2
  have hminute := (readField_range hminute).2
  have hsecond := (readField_range hsecond).2
  dsimp only at h
  split at h
  · cases h
  split at h
  · cases h
  next hvalid =>
  rw [Bool.not_eq_true', Bool.not_eq_false] at hvalid
  split at h
  · cases h
    exact ⟨_, hour, minute, 59, _, hvalid, hhour, hminute, Nat.le_refl _, .inr ⟨rfl, rfl⟩, rfl⟩
  · cases h
    exact ⟨_, hour, minute, second, _, hvalid, hhour, hminute, by omega, .inl rfl, rfl⟩

/-- An instant that was read is read as it is if its text can be read. -/
theorem asRead_of_parse {text : List Char} {t : Instant} (h : parse text = .ok t) :
    t.asRead = t ∧ t.nanos < 2000000000 := by
  obtain ⟨day, hour, minute, second, _, -, -, hminute, hsecond, rfl | ⟨rfl, rfl⟩, rfl⟩ := exists_of_parse h
  · rw [asRead, secondOfDay, ofDateTime]
    dsimp only
    rw [if_neg (by omega), Nat.zero_div, Int.natCast_zero, Int.add_zero]
    exact ⟨rfl, by decide⟩
  · have hlast : (ofDateTime day hour minute 59 1000000000).secondOfDay % 60 = 59 := by
      rw [secondOfDay, ofDateTime]
      dsimp only
      omega
    rw [asRead, hlast, show (ofDateTime day hour minute 59 1000000000).nanos = 1000000000 from rfl]
    exact ⟨if_pos rfl, by decide⟩

/-- The day of a time of day is the day that it was made of. -/
theorem date_ofDateTime {day : Date} {hour minute second nanos : Nat} (hhour : hour ≤ 23)
    (hminute : minute ≤ 59) (hsecond : second ≤ 59) :
    (ofDateTime day hour minute second nanos).date = Date.ofDays day.toDays := by
  rw [date, ofDateTime]
  dsimp only
  congr 1
  omega

/-! ## Lengths of texts -/

/-- Years that are kept have six digits at most. -/
theorem length_writeYear_le {year : Int} (h : Date.minYear ≤ year) (h' : year ≤ Date.maxYear) :
    (writeYear year).length ≤ 7 := by
  have hpadded {n : Nat} (hn : n < 1000000) : (renderPadded 4 n).length ≤ 6 := by
    have hdigits : (Text.Numeral.render n).length ≤ 6 :=
      (Nat.length_toDigits_le_iff (by decide) (by decide)).2 hn
    rw [renderPadded, List.length_append, List.length_replicate]
    omega
  rw [Date.minYear] at h
  rw [Date.maxYear] at h'
  unfold writeYear
  split
  · exact Nat.le_succ_of_le (hpadded (by omega))
  · exact Nat.succ_le_succ (hpadded (by omega))

/-- An instant that was read is written in at most 18 characters, however it was written before. -/
theorem length_write_le {text : List Char} {t : Instant} (h : parse text = .ok t) :
    t.write.length ≤ 18 := by
  have hnanos := (asRead_of_parse h).2
  obtain ⟨day, hour, minute, second, nanos, hvalid, hhour, hminute, hsecond, -, ht⟩ := exists_of_parse h
  have hdate : t.date = Date.ofDays day.toDays := ht ▸ date_ofDateTime hhour hminute hsecond
  obtain ⟨month, monthDay, hday, -, hmonth, -, hmonthDay, -⟩ := Date.ofDays_spec day.toDays
  have hyear := Date.year_ofDays_toDays hvalid
  simp only [Date.isValid, Bool.and_eq_true, decide_eq_true_eq] at hvalid
  have hyearLength : (writeYear t.date.year).length ≤ 7 := by
    rw [hdate, hyear]
    exact length_writeYear_le hvalid.1.1.1.1.1 hvalid.1.1.1.1.2
  have hmonthEq : t.date.month = month := by rw [hdate, hday]
  have hmonthDayEq : t.date.day = monthDay := by rw [hdate, hday]
  have hmonthLength := monthLength_le (Date.yearOf (day.toDays + epochDays)) month
  have hsecondOfDay : t.secondOfDay < 86400 := by
    rw [secondOfDay]
    omega
  have htwo {n : Nat} (hn : n < 100) : (renderPadded 2 n).length = 2 :=
    length_renderPadded (by decide) hn
  simp only [write, List.length_append, List.length_cons]
  rw [htwo (by omega), htwo (by omega), htwo (by omega), htwo (by omega), htwo (by omega)]
  omega

/-! ## Years with a sign -/

/-- Digits are read up to the next other character, or are too many. -/
theorem rest_of_readMore {digits rest rest' : List Char} {c : Char}
    (hdigits : ∀ d ∈ digits, isDigit d = true) (hc : isDigit c = false) {room value n : Nat}
    (hroom : digits.length < room) (h : readMore room value (digits ++ c :: rest) = .ok (n, rest')) :
    rest' = c :: rest := by
  induction digits generalizing room value with
  | nil =>
    obtain ⟨room, rfl⟩ := Nat.exists_eq_succ_of_ne_zero (Nat.ne_of_gt hroom)
    rw [List.nil_append, readMore, hc] at h
    cases h
    rfl
  | cons d digits ih =>
    obtain ⟨room, rfl⟩ := Nat.exists_eq_succ_of_ne_zero (Nat.ne_of_gt (Nat.zero_lt_of_lt hroom))
    rw [List.cons_append, readMore, hdigits d List.mem_cons_self, Bool.not_true,
      if_neg Bool.false_ne_true] at h
    dsimp only at h
    split at h
    · cases h
    · exact ih (fun e he => hdigits e (List.mem_cons_of_mem d he)) (Nat.lt_of_succ_lt_succ hroom) h

/-- A year after a sign takes all digits that follow it, and none are left for the month. -/
theorem not_parse_signed {sign : Char} (hsign : sign = '-' ∨ sign = '+') {digits rest : List Char}
    (hdigits : ∀ d ∈ digits, isDigit d = true) (t : Instant) :
    parse (sign :: (digits ++ 'T' :: rest)) ≠ .ok t := by
  intro h
  obtain ⟨⟨year, text₁⟩, hyear, h⟩ := exists_of_bind_eq_ok h
  obtain ⟨⟨month, text₂⟩, hmonth, -⟩ := exists_of_bind_eq_ok h
  have htext : text₁ = 'T' :: rest := by
    have hroom : digits.length < (digits ++ 'T' :: rest).length := by
      rw [List.length_append, List.length_cons]
      omega
    have hnumber {n : Nat} {after : List Char}
        (hread : readNumber (digits ++ 'T' :: rest).length (digits ++ 'T' :: rest) = .ok (n, after)) :
        after = 'T' :: rest := by
      cases digits with
      | nil => cases hread
      | cons d digits =>
        rw [List.cons_append, readNumber, if_pos (hdigits d List.mem_cons_self)] at hread
        exact rest_of_readMore hdigits rfl hroom hread
    rw [readYear] at hyear
    rcases hsign with rfl | rfl
    all_goals
      obtain ⟨⟨n, after⟩, hread, hyear⟩ := exists_of_bind_eq_ok hyear
      dsimp only at hyear
      rw [pure_bind] at hyear
      split at hyear <;> cases hyear
      exact hnumber hread
  rw [htext] at hmonth
  cases hmonth

/-- What is written for an instant is read if and only if its year has four digits and no sign. -/
theorem year_of_parse_write {t t' : Instant} (h : parse t.write = .ok t') :
    0 ≤ t.date.year ∧ t.date.year ≤ 9999 := by
  refine Classical.byContradiction fun hyear => ?_
  have hwrite : ∃ sign digits rest, (sign = '-' ∨ sign = '+') ∧ (∀ d ∈ digits, isDigit d = true)
      ∧ t.write = sign :: (digits ++ 'T' :: rest) := by
    refine ⟨if t.date.year < 0 then '-' else '+', renderPadded 4 t.date.year.natAbs
      ++ renderPadded 2 t.date.month ++ renderPadded 2 t.date.day, renderPadded 2 (t.secondOfDay / 3600)
      ++ renderPadded 2 (t.secondOfDay / 60 % 60)
      ++ renderPadded 2 (t.secondOfDay % 60 + t.nanos / 1000000000), ?_, ?_, ?_⟩
    · split
      · exact .inl rfl
      · exact .inr rfl
    · intro d hd
      simp only [List.mem_append] at hd
      rcases hd with (hd | hd) | hd <;> exact isDigit_of_mem_renderPadded hd
    · simp only [write, writeYear, if_neg hyear, List.cons_append, List.append_assoc]
  obtain ⟨sign, digits, rest, hsign, hdigits, heq⟩ := hwrite
  rw [heq] at h
  exact not_parse_signed hsign hdigits t' h

end NamedData.Time.Instant
