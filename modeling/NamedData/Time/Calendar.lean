/-!
# The proleptic Gregorian calendar

Days are counted from 1970-01-01, negative before it. `Date.toDays` counts the days up to a date and
`Date.ofDays` finds the date of a count: the year from the mean length of the 400-year cycle,
corrected by at most one, and the month by walking along the lengths of the year's months.
-/

namespace NamedData.Time

/-- A day of the calendar. -/
structure Date where
  year : Int
  /-- From 1 to 12. -/
  month : Nat
  /-- From 1 to the length of the month. -/
  day : Nat
  deriving DecidableEq, Repr

/-- Whether a year has a 29th of February. -/
def isLeapYear (year : Int) : Bool :=
  year % 4 = 0 && (year % 100 ≠ 0 || year % 400 = 0)

/-- The lengths of the months of a year. -/
def monthLengths (year : Int) : List Nat :=
  [31, if isLeapYear year then 29 else 28, 31, 30, 31, 30, 31, 31, 30, 31, 30, 31]

/-- The length of a month, zero for a number that is none. -/
def monthLength (year : Int) (month : Nat) : Nat :=
  if month = 0 then 0 else (monthLengths year).getD (month - 1) 0

/-- The days of months of the given lengths. -/
def totalDays (lengths : List Nat) : Nat :=
  lengths.foldr (· + ·) 0

/-- The days from the first day of the year 1 to the first day of a year. -/
def daysBeforeYear (year : Int) : Int :=
  let past := year - 1
  365 * past + past / 4 - past / 100 + past / 400

/-- The days from the first day of the year 1 to the day that counts are from. -/
def epochDays : Int := 719162

namespace Date

/-- The first and the last year that dates are kept for. -/
def minYear : Int := -262143

/-- The last year that dates are kept for. -/
def maxYear : Int := 262142

/-- Whether a year, month and day name a day that is kept. -/
def isValid (d : Date) : Bool :=
  minYear ≤ d.year && d.year ≤ maxYear && 1 ≤ d.month && d.month ≤ 12 && 1 ≤ d.day
    && d.day ≤ monthLength d.year d.month

/-- The number of days from 1970-01-01 to a date. -/
def toDays (d : Date) : Int :=
  daysBeforeYear d.year + (totalDays ((monthLengths d.year).take (d.month - 1)) : Nat) + (d.day : Int) - 1
    - epochDays

/-- The year of the day with the given number of days since the first day of the year 1. -/
def yearOf (days : Int) : Int :=
  let guess := days * 400 / 146097 + 1
  if days < daysBeforeYear guess then guess - 1
  else if daysBeforeYear (guess + 1) ≤ days then guess + 1
  else guess

/-- The month and day of the day that `days` days follow the first of `month`, given the lengths of
that month and those after it. -/
def monthAndDay : (month days : Nat) → (lengths : List Nat) → Nat × Nat
  | month, days, [] => (month, days + 1)
  | month, days, length :: lengths =>
    if days < length then (month, days + 1) else monthAndDay (month + 1) (days - length) lengths

/-- The date that a number of days follows 1970-01-01. -/
def ofDays (days : Int) : Date :=
  let year := yearOf (days + epochDays)
  let (month, day) :=
    monthAndDay 1 (days + epochDays - daysBeforeYear year).toNat (monthLengths year)
  ⟨year, month, day⟩

end Date

end NamedData.Time
