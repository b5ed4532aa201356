import NamedData.Time.Calendar
import NamedData.Text.Blank
import NamedData.Text.Numeral

/-!
# Instants and their compact text

An instant counts seconds since the start of 1970, UTC, and nanoseconds past the second; a leap
second extends second 59 by up to one more billion of nanoseconds. Its compact text is
`YYYYMMDDThhmmss`: `write` gives years outside 0 to 9999 a sign and at least four digits, and drops
the fraction. `parse?` also takes blanks before each number, numbers with fewer digits, and years of
any length after a sign, and says what is wrong with any other text.
-/

namespace NamedData.Time

open Text (trimStart)

/-- A point in time. -/
structure Instant where
  /-- Whole seconds since the start of 1970. -/
  seconds : Int
  /-- Nanoseconds past the second, from one billion on in a leap second. -/
  nanos : Nat
  deriving DecidableEq, Repr

/-- Instants are in order of their seconds, then of their nanoseconds. -/
instance : Ord Instant where
  compare a b := (compare a.seconds b.seconds).then (compare a.nanos b.nanos)

/-- Why a text is no compact time. -/
inductive TimeFault where
  /-- A number lies outside its field's range, or the date does not exist. -/
  | outOfRange
  /-- A character stands where the format has another. -/
  | invalid
  /-- The text ends early. -/
  | tooShort
  /-- Text follows the time. -/
  | tooLong
  deriving DecidableEq, Repr

/-- The fault in words. -/
def TimeFault.message : TimeFault → String
  | .outOfRange => "input is out of range"
  | .invalid => "input contains invalid characters"
  | .tooShort => "premature end of input"
  | .tooLong => "trailing input"

namespace Instant

/-- Whether instant `a` is no later than `b`. -/
def le (a b : Instant) : Bool :=
  (compare a b).isLE

/-- The calendar day of an instant. -/
def date (t : Instant) : Date :=
  Date.ofDays (t.seconds / 86400)

/-- The second of the day of an instant, not counting a leap second. -/
def secondOfDay (t : Instant) : Nat :=
  (t.seconds % 86400).toNat

/-- Whether the nanoseconds fit the second and the day is kept. -/
def isValid (t : Instant) : Bool :=
  t.date.isValid
    && (t.nanos < 1000000000 || (t.secondOfDay % 60 = 59 && t.nanos < 2000000000))

/-- The instant of a date and a time of day. -/
def ofDateTime (d : Date) (hour minute second nanos : Nat) : Instant :=
  ⟨d.toDays * 86400 + ((hour * 3600 + minute * 60 + second : Nat) : Int), nanos⟩

/-! ## The compact text is written field by field -/

/-- A year as it is written. -/
def writeYear (year : Int) : List Char :=
  if 0 ≤ year ∧ year ≤ 9999 then Text.Numeral.renderPadded 4 year.toNat
  else (if year < 0 then '-' else '+') :: Text.Numeral.renderPadded 4 year.natAbs

/-- The compact text of an instant. -/
def write (t : Instant) : List Char :=
  let second := t.secondOfDay
  writeYear t.date.year
    ++ Text.Numeral.renderPadded 2 t.date.month ++ Text.Numeral.renderPadded 2 t.date.day
    ++ 'T' :: Text.Numeral.renderPadded 2 (second / 3600)
    ++ Text.Numeral.renderPadded 2 (second / 60 % 60)
    ++ Text.Numeral.renderPadded 2 (second % 60 + t.nanos / 1000000000)

/-! ## Reading stops at the first field that is wrong -/

/-- The bound that numbers must stay below while digits are read, two to the power of 63. -/
def numberLimit : Nat := 9223372036854775808

/-- Reads up to `room` further digits onto `value`. -/
def readMore : (room value : Nat) → List Char → Except TimeFault (Nat × List Char)
  | 0, value, text => .ok (value, text)
  | _ + 1, value, [] => .ok (value, [])
  | room + 1, value, c :: rest =>
    if !Text.Numeral.isDigit c then .ok (value, c :: rest)
    else
      let next := value * 10 + Text.Numeral.digitValue c
      if numberLimit ≤ next then .error .outOfRange else readMore room next rest

/-- Reads a number of one to `room` digits. -/
def readNumber (room : Nat) : List Char → Except TimeFault (Nat × List Char)
  | [] => .error .tooShort
  | c :: rest =>
    if Text.Numeral.isDigit c then readMore room 0 (c :: rest) else .error .invalid

/-- Reads a year: four digits at most, or any number of them after a sign. -/
def readYear (text : List Char) : Except TimeFault (Int × List Char) := do
  let (year, rest) ←
    match trimStart text with
    | '-' :: rest => do
      let (n, rest) ← readNumber rest.length rest
      pure (-(n : Int), rest)
    | '+' :: rest => do
      let (n, rest) ← readNumber rest.length rest
      pure ((n : Int), rest)
    | rest => do
      let (n, rest) ← readNumber 4 rest
      pure ((n : Int), rest)
  if -2147483648 ≤ year ∧ year < 2147483648 then .ok (year, rest) else .error .outOfRange

/-- Reads a field of at most two digits with a value between `low` and `high`. -/
def readField (low high : Nat) (text : List Char) : Except TimeFault (Nat × List Char) := do
  let (n, rest) ← readNumber 2 (trimStart text)
  if low ≤ n ∧ n ≤ high then .ok (n, rest) else .error .outOfRange

/-- Reads the letter between date and time of day. -/
def readDivider : List Char → Except TimeFault (List Char)
  | [] => .error .tooShort
  | 'T' :: rest => .ok rest
  | _ :: _ => .error .invalid

/-- The instant that a compact text stands for; second 60 is a leap second. -/
def parse (text : List Char) : Except TimeFault Instant := do
  let (year, text) ← readYear text
  let (month, text) ← readField 1 12 text
  let (day, text) ← readField 1 31 text
  let text ← readDivider text
  let (hour, text) ← readField 0 23 text
  let (minute, text) ← readField 0 59 text
  let (second, text) ← readField 0 60 text
  -- Whether there is such a day is asked only once the whole text has been read.
  if text ≠ [] then .error .tooLong
  else if !(Date.mk year month day).isValid then .error .outOfRange
  else if second = 60 then .ok (ofDateTime ⟨year, month, day⟩ hour minute 59 1000000000)
  else .ok (ofDateTime ⟨year, month, day⟩ hour minute second 0)

end Instant

end NamedData.Time
