import SchemaIntake.Text.Basic

/-!
# The calendar

Moments in seconds and nanoseconds since the start of 1970, and their dates in the
Gregorian calendar, which is taken to hold for all years before and after its introduction.

## Main definitions

* `Date.ofDays d` — the date of a day that is counted from the start of 1970.
* `Date.toDays date` — the count of a date.
* `Moment.plus? m s` — the moment some seconds later, if it is in range.
* `Moment.stamp m`, `Moment.dateText m` — a moment to the second and its date as texts.

The count of days to a date is found in years that start in March, so that the day that leap
years add is the last one of its year; 400 of them, an era, always have 146097 days.
-/

namespace SchemaIntake

open Text

/-! ### Dates -/

/-- A date in the Gregorian calendar. -/
structure Date where
  /-- The year; 0 is the year before 1. -/
  year : Int
  /-- The month, from 1 to 12. -/
  month : Nat
  /-- The day of the month, from 1. -/
  day : Nat
deriving DecidableEq, Repr

namespace Date

/-- The days in an era of 400 years. -/
def daysInEra : Int := 146097

/-- The days from the first of March of the year 0 to the start of 1970. -/
def epochDays : Int := 719468

/-- The date of a day that is counted from the start of 1970. -/
def ofDays (days : Int) : Date :=
  let shifted := days + epochDays
  let era := shifted / daysInEra
  let dayOfEra := (shifted % daysInEra).toNat
  let yearOfEra := (dayOfEra - dayOfEra / 1460 + dayOfEra / 36524 - dayOfEra / 146096) / 365
  let dayOfYear := dayOfEra - (365 * yearOfEra + yearOfEra / 4 - yearOfEra / 100)
  let monthFromMarch := (5 * dayOfYear + 2) / 153
  let month := if monthFromMarch < 10 then monthFromMarch + 3 else monthFromMarch - 9
  { year := yearOfEra + era * 400 + (if month ≤ 2 then 1 else 0)
    month := month
    day := dayOfYear - (153 * monthFromMarch + 2) / 5 + 1 }

/-- The days from the start of 1970 to a date. -/
def toDays (date : Date) : Int :=
  let year := if date.month ≤ 2 then date.year - 1 else date.year
  let era := year / 400
  let yearOfEra := (year % 400).toNat
  let monthFromMarch := if date.month ≤ 2 then date.month + 9 else date.month - 3
  let dayOfYear := (153 * monthFromMarch + 2) / 5 + date.day - 1
  let dayOfEra := yearOfEra * 365 + yearOfEra / 4 - yearOfEra / 100 + dayOfYear
  era * daysInEra + dayOfEra - epochDays

/-- A year as it is written: in four digits, and outside of 0 to 9999 with a sign. -/
def yearText (year : Int) : Text :=
  if year < 0 then '-' :: decimalPadded 4 year.natAbs
  else if year ≤ 9999 then decimalPadded 4 year.natAbs
  else '+' :: decimalPadded 4 year.natAbs

/-- A date as year, month and day. -/
def render (date : Date) : Text :=
  yearText date.year ++ '-' :: decimalPadded 2 date.month ++ '-' :: decimalPadded 2 date.day

end Date

/-! ### Moments -/

/-- A moment in universal time. -/
structure Moment where
  /-- The whole seconds since the start of 1970. -/
  seconds : Int
  /-- The nanoseconds since then, fewer than a second. -/
  nanos : Nat
deriving DecidableEq, Repr

namespace Moment

def secondsInDay : Int := 86400

/-- The first second in range, that of the year -262143. -/
def firstSecond : Int := Date.toDays ⟨-262143, 1, 1⟩ * secondsInDay

/-- The last second in range, that of the year 262142. -/
def lastSecond : Int := Date.toDays ⟨262142, 12, 31⟩ * secondsInDay + (secondsInDay - 1)

def inRange (m : Moment) : Bool := firstSecond ≤ m.seconds && m.seconds ≤ lastSecond

/-- The moment some seconds later, if it is in range. -/
def plus? (m : Moment) (seconds : Int) : Option Moment :=
  let later : Moment := { m with seconds := m.seconds + seconds }
  if later.inRange then some later else none

def date (m : Moment) : Date := Date.ofDays (m.seconds / secondsInDay)

/-- The second of the day of a moment. -/
def secondOfDay (m : Moment) : Nat := (m.seconds % secondsInDay).toNat

/-- The time of the day to the second. -/
def clockText (m : Moment) : Text :=
  let s := m.secondOfDay
  decimalPadded 2 (s / 3600) ++ ':' :: decimalPadded 2 (s / 60 % 60) ++
    ':' :: decimalPadded 2 (s % 60)

/-- The date of a moment as a text. -/
def dateText (m : Moment) : Text := m.date.render

/-- A moment to the second, as date and time with the mark of universal time. -/
def stamp (m : Moment) : Text := m.dateText ++ 'T' :: m.clockText ++ ['Z']

end Moment

end SchemaIntake
