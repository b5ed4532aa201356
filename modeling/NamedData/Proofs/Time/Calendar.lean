import NamedData.Time.Calendar

/-!
# Days are counted from the calendar and back

`Date.toDays` is a left inverse of `Date.ofDays` for every number of days. A year takes up the days
from `daysBeforeYear` of it to `daysBeforeYear` of the next, which are as many as its months have
(`daysBeforeYear_succ`), and `Date.yearOf` finds the year of a day: a guess from the mean length of a
year is off by less than two years, so that one correction is enough.
-/

namespace NamedData.Time

theorem totalDays_cons (length : Nat) (lengths : List Nat) :
    totalDays (length :: lengths) = length + totalDays lengths := rfl

/-- A year has as many days as its months. -/
theorem daysBeforeYear_succ (year : Int) :
    daysBeforeYear (year + 1) = daysBeforeYear year + (totalDays (monthLengths year) : Nat) := by
  by_cases hleap : isLeapYear year = true
  · have hsum : totalDays (monthLengths year) = 366 := by rw [monthLengths, if_pos hleap]; rfl
    simp only [isLeapYear, Bool.and_eq_true, Bool.or_eq_true, decide_eq_true_eq] at hleap
    rw [hsum, daysBeforeYear, daysBeforeYear]
    omega
  · have hsum : totalDays (monthLengths year) = 365 := by rw [monthLengths, if_neg hleap]; rfl
    simp only [isLeapYear, Bool.and_eq_true, Bool.or_eq_true, decide_eq_true_eq] at hleap
    rw [hsum, daysBeforeYear, daysBeforeYear]
    omega

theorem monthLength_le (year : Int) (month : Nat) : monthLength year month ≤ 31 := by
  rw [monthLength]
  by_cases hzero : month = 0
  · rw [if_pos hzero]
    exact Nat.zero_le 31
  · rw [if_neg hzero]
    have hall : ∀ length ∈ monthLengths year, length ≤ 31 := by
      unfold monthLengths
      split <;> decide
    rw [List.getD_eq_getElem?_getD]
    cases hfound : (monthLengths year)[month - 1]? with
    | none => exact Nat.zero_le 31
    | some length => exact hall length (List.mem_of_getElem? hfound)

/-- The first day of a year lies less than a day after, and less than two days before, where years
of the mean length would put it. The mean length is 146097 days in 400 years. -/
theorem daysBeforeYear_bounds (year : Int) :
    146097 * (year - 1) - 700 < 400 * daysBeforeYear year
      ∧ 400 * daysBeforeYear year < 146097 * (year - 1) + 400 := by
  rw [daysBeforeYear]
  omega

/-- Later years start later. -/
theorem daysBeforeYear_mono {year later : Int} (h : year ≤ later) :
    daysBeforeYear year ≤ daysBeforeYear later := by
  rw [daysBeforeYear, daysBeforeYear]
  omega

/-- Some months and the one after them are months of the year. -/
theorem totalDays_take_le (lengths : List Nat) (past : Nat) :
    totalDays (lengths.take past) + lengths.getD past 0 ≤ totalDays lengths := by
  induction lengths generalizing past with
  | nil => exact Nat.le_of_eq (by simp [totalDays])
  | cons length lengths ih =>
    cases past with
    | zero =>
      rw [List.take_zero, List.getD_cons_zero, totalDays_cons]
      exact Nat.le_trans (Nat.le_of_eq (Nat.zero_add length)) (Nat.le_add_right _ _)
    | succ past =>
      have hlater := ih past
      rw [List.take_succ_cons, totalDays_cons, totalDays_cons, List.getD_cons_succ]
      omega

namespace Date

/-- A day lies in the year that is found for it. -/
theorem yearOf_bounds (days : Int) :
    daysBeforeYear (yearOf days) ≤ days ∧ days < daysBeforeYear (yearOf days + 1) := by
  rw [yearOf]
  -- the guess from the mean length is off by one year at most, in either direction
  generalize hguess : days * 400 / 146097 + 1 = guess
  have hprevious := daysBeforeYear_bounds (guess - 1)
  have hafterNext := daysBeforeYear_bounds (guess + 1 + 1)
  by_cases hbelow : days < daysBeforeYear guess
  · rw [if_pos hbelow, Int.sub_add_cancel]
    exact ⟨by omega, hbelow⟩
  · rw [if_neg hbelow]
    by_cases habove : daysBeforeYear (guess + 1) ≤ days
    · rw [if_pos habove]
      exact ⟨habove, by omega⟩
    · rw [if_neg habove]
      exact ⟨Int.not_lt.1 hbelow, Int.not_le.1 habove⟩

/-- Walking along the lengths finds a month that holds the day, with all days of the months before
it behind. -/
theorem monthAndDay_spec (month days : Nat) (lengths : List Nat) (h : days < totalDays lengths) :
    ∃ past day, monthAndDay month days lengths = (month + past, day) ∧ past < lengths.length
      ∧ 1 ≤ day ∧ day ≤ lengths.getD past 0 ∧ totalDays (lengths.take past) + day = days + 1 := by
  induction lengths generalizing month days with
  | nil => exact absurd h (Nat.not_lt_zero days)
  | cons length lengths ih =>
    rw [monthAndDay]
    by_cases hhere : days < length
    · rw [if_pos hhere]
      refine ⟨0, days + 1, rfl, Nat.succ_pos _, Nat.succ_pos days, hhere, ?_⟩
      exact Nat.zero_add _
    · rw [if_neg hhere]
      rw [totalDays_cons] at h
      obtain ⟨past, day, heq, hpast, hpos, hle, hsum⟩ := ih (month + 1) (days - length) (by omega)
      refine ⟨past + 1, day, ?_, Nat.succ_lt_succ hpast, hpos, hle, ?_⟩
      · rw [heq, Nat.add_assoc, Nat.add_comm 1 past]
      · rw [List.take_succ_cons, totalDays_cons]
        omega

/-- The day of the year that a number of days falls on, from zero, is a day of that year. -/
private theorem dayOfYear_lt (days : Int) :
    ((days - daysBeforeYear (yearOf days)).toNat : Int) = days - daysBeforeYear (yearOf days)
      ∧ (days - daysBeforeYear (yearOf days)).toNat < totalDays (monthLengths (yearOf days)) := by
  obtain ⟨hfirst, hlast⟩ := yearOf_bounds days
  rw [daysBeforeYear_succ] at hlast
  omega

/-- What is found for a number of days is a month of the year and a day of the month, the given
number of days after the day that counts are from. -/
theorem ofDays_spec (days : Int) :
    ∃ month day, ofDays days = ⟨yearOf (days + epochDays), month, day⟩
      ∧ 1 ≤ month ∧ month ≤ 12 ∧ 1 ≤ day ∧ day ≤ monthLength (yearOf (days + epochDays)) month
      ∧ toDays ⟨yearOf (days + epochDays), month, day⟩ = days := by
  obtain ⟨hcast, hlt⟩ := dayOfYear_lt (days + epochDays)
  generalize hyear : yearOf (days + epochDays) = year at hcast hlt
  obtain ⟨past, day, heq, hpast, hpos, hle, hsum⟩ := monthAndDay_spec 1 _ _ hlt
  have hmonth : 1 + past - 1 = past := Nat.add_sub_cancel_left 1 past
  refine ⟨1 + past, day, ?_, Nat.le_add_right 1 past, ?_, hpos, ?_, ?_⟩
  · rw [ofDays]
    simp only [hyear, heq]
  · have htwelve : (monthLengths year).length = 12 := rfl
    omega
  · rw [monthLength, if_neg (by omega), hmonth]
    exact hle
  · rw [toDays]
    simp only [hmonth]
    omega

/-- The days of a date that was found from days. -/
theorem toDays_ofDays (days : Int) : (ofDays days).toDays = days := by
  obtain ⟨month, day, heq, -, -, -, -, hdays⟩ := ofDays_spec days
  rw [heq]
  exact hdays

/-- The year of a date is found from its days. -/
theorem year_ofDays_toDays {d : Date} (h : d.isValid = true) : (ofDays d.toDays).year = d.year := by
  obtain ⟨month, day, heq, -⟩ := ofDays_spec d.toDays
  rw [heq]
  dsimp only
  have hfields := h
  simp only [isValid, Bool.and_eq_true, decide_eq_true_eq] at hfields
  have hmonth : monthLength d.year d.month = (monthLengths d.year).getD (d.month - 1) 0 :=
    if_neg (by omega)
  have hmonths := totalDays_take_le (monthLengths d.year) (d.month - 1)
  have hnext := daysBeforeYear_succ d.year
  have hdays : d.toDays + epochDays = daysBeforeYear d.year
      + (totalDays ((monthLengths d.year).take (d.month - 1)) : Nat) + (d.day : Int) - 1 := by
    rw [toDays]
    omega
  obtain ⟨hfirst, hlast⟩ := yearOf_bounds (d.toDays + epochDays)
  generalize yearOf (d.toDays + epochDays) = year at hfirst hlast
  rcases Int.lt_trichotomy year d.year with hbefore | hsame | hafter
  · have hmono := daysBeforeYear_mono (Int.add_one_le_of_lt hbefore)
    omega
  · exact hsame
  · have hmono := daysBeforeYear_mono (Int.add_one_le_of_lt hafter)
    omega

/-- Every number of days falls on a day of the calendar, which is kept if its year is. -/
theorem isValid_ofDays_iff (days : Int) :
    (ofDays days).isValid = true ↔ minYear ≤ (ofDays days).year ∧ (ofDays days).year ≤ maxYear := by
  obtain ⟨month, day, heq, hmonth, hlast, hday, hlength, -⟩ := ofDays_spec days
  rw [heq]
  simp only [isValid, Bool.and_eq_true, decide_eq_true_eq, hmonth, hlast, hday, hlength, and_true]

end Date

end NamedData.Time
