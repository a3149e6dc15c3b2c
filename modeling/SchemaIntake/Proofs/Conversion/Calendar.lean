import Mathlib.Tactic.IntervalCases
import SchemaIntake.Conversion.Calendar

/-!
# The rules of the calendar

The Gregorian calendar by its rules: which years have a leap day, how long the months are, and how
many days have gone by before a date.  A date is found from the count of its days in another way,
by eras of 400 years that start in March.  Both ways agree for all days, before and after 1970: the
date that is found is one of the calendar, and its days are those that it was found from.

## Main definitions

* `Date.IsLeap`, `Date.daysInMonth`, `Date.IsProper` — the rules.
* `Date.dayNumber date` — the days from the start of 1970 to a date, counted by the rules.

## Main results

* `Date.dayNumber_eq_march` — the count in years that start in March.
* `Date.isProper_ofDays`, `Date.dayNumber_ofDays` — **the date of a day is the right one.**
-/

namespace SchemaIntake

namespace Date

/-! ### The rules -/

/-- Every fourth year has a leap day, but of the years that end a century only every fourth. -/
def IsLeap (year : Int) : Prop := 4 ∣ year ∧ (100 ∣ year → 400 ∣ year)

instance (year : Int) : Decidable (IsLeap year) := by
  unfold IsLeap
  infer_instance

def daysInMonth (year : Int) (month : Nat) : Nat :=
  if month = 2 then if IsLeap year then 29 else 28
  else if month ∈ [4, 6, 9, 11] then 30
  else 31

/-- The date is one of the calendar. -/
structure IsProper (date : Date) : Prop where
  month_pos : 1 ≤ date.month
  month_le : date.month ≤ 12
  day_pos : 1 ≤ date.day
  day_le : date.day ≤ daysInMonth date.year date.month

instance (date : Date) : Decidable date.IsProper :=
  decidable_of_iff (1 ≤ date.month ∧ date.month ≤ 12 ∧ 1 ≤ date.day ∧
      date.day ≤ daysInMonth date.year date.month)
    ⟨fun ⟨h₁, h₂, h₃, h₄⟩ => ⟨h₁, h₂, h₃, h₄⟩,
      fun h => ⟨h.month_pos, h.month_le, h.day_pos, h.day_le⟩⟩

/-- How many leap years there are from the year 1 up to the one before; below the year 1 they are
counted as missing. -/
def leapYearsBefore (year : Int) : Int := (year - 1) / 4 - (year - 1) / 100 + (year - 1) / 400

/-- The days from the start of 1970 to the start of a year. -/
def daysBeforeYear (year : Int) : Int :=
  365 * (year - 1970) + (leapYearsBefore year - leapYearsBefore 1970)

/-- The days of the months before a month of a year. -/
def daysBeforeMonth (year : Int) (month : Nat) : Nat :=
  ((List.range' 1 (month - 1)).map (daysInMonth year)).sum

/-- The days from the start of 1970 to a date. -/
def dayNumber (date : Date) : Int :=
  daysBeforeYear date.year + daysBeforeMonth date.year date.month + (date.day - 1)

/-! ### Counting -/

theorem leapYearsBefore_succ (year : Int) :
    leapYearsBefore (year + 1) = leapYearsBefore year + if IsLeap year then 1 else 0 := by
  unfold leapYearsBefore
  by_cases h : IsLeap year
  · rw [if_pos h]
    unfold IsLeap at h
    omega
  · rw [if_neg h]
    unfold IsLeap at h
    omega

/-! ### Years that start in March -/

/-- The year that starts in March and holds a date. -/
def marchYear (date : Date) : Int := if date.month ≤ 2 then date.year - 1 else date.year

/-- A month, counted from March on. -/
def marchMonth (month : Nat) : Nat := if month ≤ 2 then month + 9 else month - 3

/-- The days from the first of March of the year 0 to that of another year. -/
def daysBeforeMarch (year : Int) : Int := 365 * year + (year / 4 - year / 100 + year / 400)

/-- The days from the first of March to a month that is counted from there. -/
def daysFromMarch (month : Nat) : Nat := (153 * month + 2) / 5

/-- From January on there are 59 days to March, or 60 in a leap year. -/
theorem daysBeforeMonth_eq_march (year : Int) {month : Nat} (hpos : 1 ≤ month) (hle : month ≤ 12) :
    daysBeforeMonth year month + (if month ≤ 2 then 306 else 0) =
      daysFromMarch (marchMonth month) +
        if month ≤ 2 then 0 else 59 + if IsLeap year then 1 else 0 := by
  by_cases h : IsLeap year <;> interval_cases month <;>
    simp [daysBeforeMonth, daysInMonth, daysFromMarch, marchMonth, List.range', h]

/-- **The count in years that start in March.** -/
theorem dayNumber_eq_march {date : Date} (hpos : 1 ≤ date.month) (hle : date.month ≤ 12) :
    dayNumber date = daysBeforeMarch (marchYear date) + daysFromMarch (marchMonth date.month) +
      (date.day - 1) - epochDays := by
  have hmonths := daysBeforeMonth_eq_march date.year hpos hle
  have hleap := leapYearsBefore_succ date.year
  have hstart : leapYearsBefore 1970 = 477 := by decide
  unfold dayNumber daysBeforeYear daysBeforeMarch marchYear epochDays
  unfold leapYearsBefore at hleap ⊢
  by_cases h : date.month ≤ 2
  · simp only [if_pos h] at hmonths ⊢
    omega
  · simp only [if_neg h] at hmonths ⊢
    by_cases hyear : IsLeap date.year
    · rw [if_pos hyear] at hleap hmonths
      omega
    · rw [if_neg hyear] at hleap hmonths
      omega

/-! ### Eras -/

/-- The year of an era that a day falls into. -/
def yearOfEra (day : Nat) : Nat := (day - day / 1460 + day / 36524 - day / 146096) / 365

/-- The days of an era before one of its years. -/
def daysOfEraBefore (year : Nat) : Nat := 365 * year + year / 4 - year / 100

/-- An era consists of centuries, these of four years each, and these of years; only the last part
of each may be longer by a day. -/
theorem exists_parts_of_era {day : Nat} (h : day < 146097) : ∃ century four year rest,
    day = 36524 * century + 1461 * four + 365 * year + rest ∧ century ≤ 3 ∧ four ≤ 24 ∧ year ≤ 3 ∧
      rest ≤ 365 ∧ (rest = 365 → year = 3 ∧ (four = 24 → century = 3)) := by
  obtain ⟨century, r, hday, hcentury, hr, hlong⟩ : ∃ century r, day = 36524 * century + r ∧
      century ≤ 3 ∧ r ≤ 36524 ∧ (r = 36524 → century = 3) := by
    by_cases hlast : day = 146096
    · exact ⟨3, 36524, by omega⟩
    · exact ⟨day / 36524, day % 36524, by omega⟩
  obtain ⟨four, s, hfour, hle, hs, hlong'⟩ : ∃ four s, r = 1461 * four + s ∧ four ≤ 24 ∧
      s ≤ 1460 ∧ (s = 1460 → four = 24 → century = 3) := ⟨r / 1461, r % 1461, by omega⟩
  by_cases hlast : s = 1460
  · exact ⟨century, four, 3, 365, by omega⟩
  · exact ⟨century, four, s / 365, s % 365, by omega⟩

theorem daysOfEraBefore_parts {century four year : Nat} (hfour : four ≤ 24) (hyear : year ≤ 3) :
    daysOfEraBefore (100 * century + 4 * four + year) =
      36524 * century + 1461 * four + 365 * year := by
  have hfours : (100 * century + 4 * four + year) / 4 = 25 * century + four := by omega
  have hcenturies : (100 * century + 4 * four + year) / 100 = century := by omega
  unfold daysOfEraBefore
  omega

/-- **The year of an era** has begun before the day, and is over after it. -/
theorem yearOfEra_spec {day : Nat} (h : day < 146097) : yearOfEra day < 400 ∧
    daysOfEraBefore (yearOfEra day) ≤ day ∧ day ≤ daysOfEraBefore (yearOfEra day) + 365 ∧
      (day = daysOfEraBefore (yearOfEra day) + 365 → IsLeap (yearOfEra day + 1)) := by
  obtain ⟨century, four, year, rest, rfl, hcentury, hfour, hyear, hrest, hlong⟩ :=
    exists_parts_of_era h
  generalize hday : 36524 * century + 1461 * four + 365 * year + rest = day at h ⊢
  -- the divisions take off the leap days that have gone by
  have hcenturies : day / 36524 - day / 146096 = century ∧ day / 146096 ≤ day / 36524 := by
    omega
  obtain ⟨leaps, hleaps, hone⟩ :
      ∃ e, day / 1460 = 25 * century + four + e ∧ e ≤ rest ∧ (e = 0 → rest ≤ 364) ∧ e ≤ 1 :=
    ⟨(24 * century + four + 365 * year + rest) / 1460, by omega⟩
  have hyears : yearOfEra day = 100 * century + 4 * four + year := by
    have hcommon : day - day / 1460 + day / 36524 - day / 146096 =
        365 * (100 * century + 4 * four + year) + (rest - leaps) := by
      omega
    rw [yearOfEra, hcommon]
    omega
  have hbefore : daysOfEraBefore (yearOfEra day) = 36524 * century + 1461 * four + 365 * year := by
    rw [hyears, daysOfEraBefore_parts hfour hyear]
  refine ⟨by omega, by omega, by omega, fun hend => ?_⟩
  obtain ⟨hthird, hlast⟩ := hlong (by omega)
  rw [hyears]
  unfold IsLeap
  omega

/-! ### The date of a day -/

/-- The month that a day of a March year falls into, counted from March on. -/
def monthFromMarch (day : Nat) : Nat := (5 * day + 2) / 153

theorem monthFromMarch_spec {day : Nat} (h : day ≤ 365) : monthFromMarch day ≤ 11 ∧
    daysFromMarch (monthFromMarch day) ≤ day ∧ day < daysFromMarch (monthFromMarch day + 1) := by
  unfold monthFromMarch daysFromMarch
  omega

/-- The month of the calendar that is counted from March on. -/
def monthOf (month : Nat) : Nat := if month < 10 then month + 3 else month - 9

/-- The months from March on have the lengths that the calendar gives them; February, the last of
them, ends with the year. -/
theorem le_daysInMonth (year : Int) {month day : Nat} (hmonth : month ≤ 11)
    (hday : day < daysFromMarch (month + 1)) (hend : day ≤ 365) (hleap : day = 365 → IsLeap year) :
    day + 1 ≤ daysFromMarch month + daysInMonth year (monthOf month) := by
  by_cases hyear : IsLeap year
  · interval_cases month <;> simp [daysFromMarch, daysInMonth, monthOf, hyear] at hday ⊢ <;> omega
  · have hshort : day ≠ 365 := mt hleap hyear
    interval_cases month <;> simp [daysFromMarch, daysInMonth, monthOf, hyear] at hday ⊢ <;> omega

/-- Eras are alike. -/
theorem isLeap_add_era (year era : Int) : IsLeap (year + era * 400) ↔ IsLeap year := by
  unfold IsLeap
  omega

/-- What the date of a day is found from: an era, a year in it that starts in March, a month and a
day of that year. -/
structure IsFoundBy (days era : Int) (year month day : Nat) : Prop where
  /-- The year is one of the era. -/
  year_lt : year < 400
  /-- The days up to the start of the era, those up to the year, and those of the year. -/
  days_eq : days + epochDays = era * daysInEra + daysOfEraBefore year + day
  /-- A year has at most 366 days. -/
  day_le : day ≤ 365
  /-- It has as many only if the calendar year in which it ends is a leap year. -/
  isLeap : day = 365 → IsLeap (year + 1)
  /-- The months are counted from March on. -/
  month_le : month ≤ 11
  le_day : daysFromMarch month ≤ day
  day_lt : day < daysFromMarch (month + 1)

/-- The date in terms of the year that starts in March. -/
def ofMarch (era : Int) (year month day : Nat) : Date where
  year := year + era * 400 + if monthOf month ≤ 2 then 1 else 0
  month := monthOf month
  day := day - daysFromMarch month + 1

theorem exists_isFoundBy (days : Int) : ∃ era year month day,
    IsFoundBy days era year month day ∧ ofDays days = ofMarch era year month day := by
  generalize hday : ((days + epochDays) % daysInEra).toNat = day
  have hlt : day < 146097 := by
    unfold daysInEra at hday
    omega
  obtain ⟨hyear, hbegun, hover, hleap⟩ := yearOfEra_spec hlt
  have hrest : day - daysOfEraBefore (yearOfEra day) ≤ 365 := by omega
  obtain ⟨hmonth, hmonthBegun, hmonthOver⟩ := monthFromMarch_spec hrest
  refine ⟨(days + epochDays) / daysInEra, yearOfEra day, _, _,
    ⟨hyear, ?_, hrest, fun hend => hleap (by omega), hmonth, hmonthBegun, hmonthOver⟩, ?_⟩
  · unfold daysInEra at hday ⊢
    omega
  · rw [← hday]
    rfl

variable {days era : Int} {year month day : Nat}

theorem marchYear_ofMarch : marchYear (ofMarch era year month day) = year + era * 400 := by
  unfold marchYear ofMarch
  dsimp only
  split <;> omega

theorem marchMonth_monthOf (h : month ≤ 11) : marchMonth (monthOf month) = month := by
  unfold marchMonth monthOf
  split <;> split <;> omega

/-- An era after another has as many days before it as there are in the eras between. -/
theorem daysBeforeMarch_add_era (h : year < 400) :
    daysBeforeMarch (year + era * 400) = era * daysInEra + daysOfEraBefore year := by
  unfold daysBeforeMarch daysInEra daysOfEraBefore
  omega

theorem IsFoundBy.isProper (h : IsFoundBy days era year month day) :
    (ofMarch era year month day).IsProper := by
  have hmonth := h.month_le
  have hbounds : 1 ≤ monthOf month ∧ monthOf month ≤ 12 := by
    unfold monthOf
    split <;> omega
  refine ⟨hbounds.1, hbounds.2, Nat.le_add_left 1 _, ?_⟩
  have hleap : day = 365 → IsLeap (ofMarch era year month day).year := by
    intro hend
    have hlast : monthOf month ≤ 2 := by
      have hover := h.day_lt
      unfold daysFromMarch at hover
      unfold monthOf
      split <;> omega
    have hyear := (isLeap_add_era (year + 1) era).mpr (h.isLeap hend)
    rw [ofMarch, if_pos hlast]
    rwa [add_right_comm] at hyear
  have hlength := le_daysInMonth _ hmonth h.day_lt h.day_le hleap
  have hbegun := h.le_day
  show day - daysFromMarch month + 1 ≤ daysInMonth (ofMarch era year month day).year (monthOf month)
  omega

theorem IsFoundBy.dayNumber_eq (h : IsFoundBy days era year month day) :
    (ofMarch era year month day).dayNumber = days := by
  have hproper := h.isProper
  have hmonth : marchMonth (ofMarch era year month day).month = month :=
    marchMonth_monthOf h.month_le
  have hday : (ofMarch era year month day).day = day - daysFromMarch month + 1 := rfl
  have hdays := h.days_eq
  have hbegun := h.le_day
  rw [dayNumber_eq_march hproper.month_pos hproper.month_le, marchYear_ofMarch, hmonth, hday,
    daysBeforeMarch_add_era h.year_lt]
  omega

/-- **The date of a day is one of the calendar.** -/
theorem isProper_ofDays (days : Int) : (ofDays days).IsProper := by
  obtain ⟨era, year, month, day, h, hdate⟩ := exists_isFoundBy days
  rw [hdate]
  exact h.isProper

/-- **The days before the date of a day are those that it was found from.** -/
theorem dayNumber_ofDays (days : Int) : (ofDays days).dayNumber = days := by
  obtain ⟨era, year, month, day, h, hdate⟩ := exists_isFoundBy days
  rw [hdate]
  exact h.dayNumber_eq

end Date

end SchemaIntake
