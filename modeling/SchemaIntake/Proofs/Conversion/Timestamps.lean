import Mathlib.Data.List.Basic
import SchemaIntake.Conversion.Record
import SchemaIntake.Proofs.Conversion.Calendar
import SchemaIntake.Proofs.Json.Literals

/-!
# Timestamps

The time of a record's creation is a text.  Here such texts are read by the rules of the calendar,
and the second that is read is the one that was written.  So a record that has just been created
holds its times exactly, and there is one unless its expiry is out of range.

## Main definitions

* `Date.read? t` — the date that a text writes.
* `Moment.secondsOf? t` — the second that a date and a time of the day write.

## Main results

* `Date.read?_render` — a date of the calendar is read back.
* `Moment.secondsOf?_stamp` — **a moment is read back to the second**, however far from 1970.
* `Conversion.times_of_pending` — **the times of a new record.**
-/

namespace SchemaIntake

open Text

/-! ### Numbers of a fixed width -/

namespace Text

variable {width n : Nat}

theorem length_decimalPadded (hwidth : 0 < width) (h : n < 10 ^ width) :
    (decimalPadded width n).length = width := by
  have hdigits : (decimal n).length ≤ width :=
    (Nat.length_toDigits_le_iff (by decide) hwidth).mpr h
  rw [decimalPadded, List.length_append, List.length_replicate]
  omega

theorem le_length_decimalPadded (width n : Nat) : width ≤ (decimalPadded width n).length := by
  rw [decimalPadded, List.length_append, List.length_replicate]
  omega

theorem isDigit_of_mem_decimalPadded {c : Char} (h : c ∈ decimalPadded width n) :
    isDigit c = true := by
  rcases List.mem_append.mp h with h | h
  · rw [List.eq_of_mem_replicate h]
    decide
  · exact Json.isDigit_of_mem_decimal h

end Text

theorem Json.digits?_decimalPadded (width n : Nat) : digits? (decimalPadded width n) = some n := by
  have hne : (decimalPadded width n).isEmpty = false :=
    List.isEmpty_eq_false_iff.mpr (List.append_ne_nil_of_right_ne_nil _ Nat.toDigits_ne_nil)
  have hall : (decimalPadded width n).all isDigit = true :=
    List.all_eq_true.mpr fun c => isDigit_of_mem_decimalPadded
  have hvalue : Nat.ofDigitChars 10 (decimalPadded width n) 0 = n := by
    rw [decimalPadded, Nat.ofDigitChars_append, Nat.ofDigitChars_replicate_zero, Nat.mul_zero]
    exact Nat.ofDigitChars_ten_toDigits
  rw [digits?, hne, hall, hvalue]
  rfl

/-- Two digits write every number below a hundred. -/
theorem exists_decimalPadded_two {n : Nat} (h : n < 100) :
    ∃ a b, decimalPadded 2 n = [a, b] ∧ Json.digits? [a, b] = some n := by
  obtain ⟨a, b, hdigits⟩ := List.length_eq_two.mp (length_decimalPadded (by decide) h)
  exact ⟨a, b, hdigits, hdigits ▸ Json.digits?_decimalPadded 2 n⟩

/-! ### Dates -/

namespace Date

/-- The year that a text writes: from 0 to 9999 four digits, and otherwise a sign and at least as
many. -/
def year? : Text → Option Int
  | '-' :: t => if 4 ≤ t.length then
      ((Json.digits? t).filter (0 < ·)).map fun n : Nat => -(n : Int) else none
  | '+' :: t => ((Json.digits? t).filter (9999 < ·)).map fun n : Nat => (n : Int)
  | t => if t.length = 4 then (Json.digits? t).map fun n : Nat => (n : Int) else none

/-- The date that a text writes as year, month and day, if it is one of the calendar. -/
def read? (t : Text) : Option Date :=
  match t.splitAt (t.length - 6) with
  | (year, ['-', m, m', '-', d, d']) => do
    let year ← year? year
    let month ← Json.digits? [m, m']
    let day ← Json.digits? [d, d']
    if IsProper ⟨year, month, day⟩ then some ⟨year, month, day⟩ else none
  | _ => none

theorem year?_of_forall {t : Text} (h : ∀ c ∈ t, isDigit c = true) :
    year? t = if t.length = 4 then (Json.digits? t).map fun n : Nat => (n : Int) else none := by
  unfold year?
  split
  · exact absurd (h _ List.mem_cons_self) (by decide)
  · exact absurd (h _ List.mem_cons_self) (by decide)
  · rfl

theorem year?_yearText (year : Int) : year? (yearText year) = some year := by
  have hdigits := Json.digits?_decimalPadded 4 year.natAbs
  unfold yearText
  split
  · next hneg =>
    have hpos : (some year.natAbs).filter (fun n => decide (0 < n)) = some year.natAbs :=
      Option.filter_some_pos (decide_eq_true (by omega))
    rw [year?, if_pos (le_length_decimalPadded 4 _), hdigits, hpos, Option.map_some]
    congr 1
    omega
  · next hneg =>
    -- four digits need no sign, more of them do
    split
    · next hshort =>
      rw [year?_of_forall fun c => isDigit_of_mem_decimalPadded,
        if_pos (length_decimalPadded (by decide) (by omega)), hdigits, Option.map_some]
      congr 1
      omega
    · next hlong =>
      have hlarge : (some year.natAbs).filter (fun n => decide (9999 < n)) = some year.natAbs :=
        Option.filter_some_pos (decide_eq_true (by omega))
      rw [year?, hdigits, hlarge, Option.map_some]
      congr 1
      omega

theorem daysInMonth_le (year : Int) (month : Nat) : daysInMonth year month ≤ 31 := by
  unfold daysInMonth
  split_ifs <;> decide

/-- **A date of the calendar is read back.** -/
theorem read?_render {date : Date} (h : date.IsProper) : read? date.render = some date := by
  have hmonth := h.month_le
  have hday := h.day_le.trans (daysInMonth_le date.year date.month)
  obtain ⟨m, m', hmonth, hm⟩ := exists_decimalPadded_two (n := date.month) (by omega)
  obtain ⟨d, d', hday, hd⟩ := exists_decimalPadded_two (n := date.day) (by omega)
  have hrender : date.render = yearText date.year ++ ['-', m, m', '-', d, d'] := by
    rw [render, hmonth, hday, List.append_assoc]
    rfl
  have hsplit : date.render.splitAt (date.render.length - 6) =
      (yearText date.year, ['-', m, m', '-', d, d']) := by
    rw [hrender, List.length_append, List.splitAt_eq]
    simp
  unfold read?
  rw [hsplit]
  simp [year?_yearText, hm, hd, h]

/-- A date is written in digits and signs. -/
theorem of_mem_render {date : Date} {c : Char} (h : c ∈ date.render) :
    isDigit c = true ∨ c = '-' ∨ c = '+' := by
  have hyear : ∀ c ∈ yearText date.year, isDigit c = true ∨ c = '-' ∨ c = '+' := by
    intro c hc
    unfold yearText at hc
    split_ifs at hc
    · rcases List.mem_cons.mp hc with rfl | hc
      · exact Or.inr (Or.inl rfl)
      · exact Or.inl (isDigit_of_mem_decimalPadded hc)
    · exact Or.inl (isDigit_of_mem_decimalPadded hc)
    · rcases List.mem_cons.mp hc with rfl | hc
      · exact Or.inr (Or.inr rfl)
      · exact Or.inl (isDigit_of_mem_decimalPadded hc)
  unfold render at h
  rcases List.mem_append.mp h with h | h
  · rcases List.mem_append.mp h with h | h
    · exact hyear c h
    · rcases List.mem_cons.mp h with rfl | h
      · exact Or.inr (Or.inl rfl)
      · exact Or.inl (isDigit_of_mem_decimalPadded h)
  · rcases List.mem_cons.mp h with rfl | h
    · exact Or.inr (Or.inl rfl)
    · exact Or.inl (isDigit_of_mem_decimalPadded h)

end Date

/-! ### Moments -/

namespace Moment

/-- The second of the day that a text writes as hour, minute and second of universal time. -/
def secondOfDay? : Text → Option Nat
  | [h, h', ':', m, m', ':', s, s', 'Z'] => do
    let hour ← (Json.digits? [h, h']).filter (· < 24)
    let minute ← (Json.digits? [m, m']).filter (· < 60)
    let second ← (Json.digits? [s, s']).filter (· < 60)
    some (hour * 3600 + minute * 60 + second)
  | _ => none

/-- The second that a text writes as date and time of the day, counted from the start of 1970. -/
def secondsOf? (t : Text) : Option Int :=
  match t.dropWhile (· != 'T') with
  | 'T' :: clock => do
    let date ← Date.read? (t.takeWhile (· != 'T'))
    let second ← secondOfDay? clock
    some (date.dayNumber * secondsInDay + second)
  | _ => none

theorem secondOfDay?_clockText (m : Moment) :
    secondOfDay? (m.clockText ++ ['Z']) = some m.secondOfDay := by
  have hday : m.secondOfDay < 86400 := by
    unfold secondOfDay secondsInDay
    omega
  generalize hs : m.secondOfDay = s at hday
  -- every part has two digits, so the text is written out
  obtain ⟨a, a', hhour, ha⟩ := exists_decimalPadded_two (n := s / 3600) (by omega)
  obtain ⟨b, b', hminute, hb⟩ := exists_decimalPadded_two (n := s / 60 % 60) (by omega)
  obtain ⟨c, c', hsecond, hc⟩ := exists_decimalPadded_two (n := s % 60) (by omega)
  have htext : m.clockText ++ ['Z'] = [a, a', ':', b, b', ':', c, c', 'Z'] := by
    unfold clockText
    dsimp only
    rw [hs, hhour, hminute, hsecond]
    rfl
  have hhour : s / 3600 < 24 := by omega
  have hminute : s / 60 % 60 < 60 := by omega
  have hsecond : s % 60 < 60 := by omega
  rw [htext, secondOfDay?, ha, hb, hc]
  simp [Option.filter_some_pos, hhour, hminute, hsecond]
  omega

/-- The date stands before the first `T` of a time. -/
theorem cut_stamp (m : Moment) : m.stamp.takeWhile (· != 'T') = m.dateText ∧
    m.stamp.dropWhile (· != 'T') = 'T' :: (m.clockText ++ ['Z']) := by
  have hdate : ∀ c ∈ m.dateText, (c != 'T') = true := by
    intro c hc
    rcases Date.of_mem_render hc with h | rfl | rfl
    · rw [bne_iff_ne]
      rintro rfl
      exact absurd h (by decide)
    · decide
    · decide
  have hstamp : m.stamp = m.dateText ++ 'T' :: (m.clockText ++ ['Z']) := by
    rw [stamp, List.append_assoc, List.cons_append]
  rw [hstamp, List.takeWhile_append_of_pos hdate, List.dropWhile_append_of_pos hdate,
    List.takeWhile_cons_of_neg (by decide), List.dropWhile_cons_of_neg (by decide), List.append_nil]
  exact ⟨rfl, rfl⟩

/-- **A moment is read back to the second.** -/
theorem secondsOf?_stamp (m : Moment) : secondsOf? m.stamp = some m.seconds := by
  obtain ⟨hdate, hclock⟩ := cut_stamp m
  have hread : Date.read? m.dateText = some m.date := Date.read?_render (Date.isProper_ofDays _)
  have hdays : m.date.dayNumber = m.seconds / secondsInDay := Date.dayNumber_ofDays _
  have hsecond : (m.secondOfDay : Int) = m.seconds % secondsInDay :=
    Int.toNat_of_nonneg (Int.emod_nonneg _ (by decide))
  unfold secondsOf?
  rw [hclock, hdate]
  simp only [hread, secondOfDay?_clockText, Option.bind_eq_bind, Option.bind_some, hdays, hsecond]
  rw [Int.ediv_mul_add_emod]

theorem plus?_eq_none_iff (m : Moment) (seconds : Int) : m.plus? seconds = none ↔
    m.seconds + seconds < firstSecond ∨ lastSecond < m.seconds + seconds := by
  unfold plus?
  dsimp only
  split
  · next h =>
    simp only [inRange, Bool.and_eq_true, decide_eq_true_eq] at h
    simp only [reduceCtorEq, false_iff]
    omega
  · next h =>
    simp only [inRange, Bool.and_eq_true, decide_eq_true_eq] at h
    simp only [true_iff]
    omega

theorem seconds_of_plus? {m later : Moment} {seconds : Int} (h : m.plus? seconds = some later) :
    later.seconds = m.seconds + seconds := by
  unfold plus? at h
  dsimp only at h
  split at h
  · obtain rfl := Option.some.inj h
    rfl
  · exact absurd h (by simp)

/-- A moment in range has a number of seconds of no more than 64 bits. -/
theorem bounds_of_plus? {m later : Moment} {seconds : Int} (h : m.plus? seconds = some later) :
    -2 ^ 63 ≤ later.seconds ∧ later.seconds < 2 ^ 63 := by
  have hfirst : -2 ^ 63 ≤ firstSecond := by decide +kernel
  have hlast : lastSecond < 2 ^ 63 := by decide +kernel
  have hout := plus?_eq_none_iff m seconds
  rw [h] at hout
  have hrange : ¬ (m.seconds + seconds < firstSecond ∨ lastSecond < m.seconds + seconds) :=
    hout.not.mp (by simp)
  rw [seconds_of_plus? h]
  omega

end Moment

/-! ### New records -/

/-- **The times of a new record.**  There is no record just if its expiry is out of range, which
ends with the years -262143 and 262142.  Otherwise it expires so many seconds later, its date is
that of its creation, and the time of its creation is read back to the second. -/
theorem Conversion.times_of_pending (id sqlContent : Text) (optimization : Optimization)
    (tablesExtracted : Nat) (now : Moment) (lifetime : Int) :
    Moment.secondsOf? "-262143-01-01T00:00:00Z".toList = some Moment.firstSecond ∧
    Moment.secondsOf? "+262142-12-31T23:59:59Z".toList = some Moment.lastSecond ∧
    (pending? id sqlContent optimization tablesExtracted now lifetime = none ↔
      now.seconds + lifetime < Moment.firstSecond ∨ Moment.lastSecond < now.seconds + lifetime) ∧
    ∀ c, pending? id sqlContent optimization tablesExtracted now lifetime = some c →
      c.expiresAt = now.seconds + lifetime ∧
      c.createdAt.takeWhile (· != 'T') = c.date ∧
      Moment.secondsOf? c.createdAt = some now.seconds := by
  refine ⟨by decide +kernel, by decide +kernel, ?_, fun c h => ?_⟩
  · rw [pending?, Option.map_eq_none_iff]
    exact now.plus?_eq_none_iff lifetime
  · obtain ⟨expiry, hexpiry, rfl⟩ := Option.map_eq_some_iff.mp h
    exact ⟨Moment.seconds_of_plus? hexpiry, now.cut_stamp.1, now.secondsOf?_stamp⟩

/-- From the last nanosecond in range a negative lifetime leads back to the first second, and one
second more is out of range. -/
theorem Conversion.times_of_pending_last :
    pending? [] [] .balanced 0 ⟨Moment.lastSecond, 999999999⟩ (-16544868105600) = none ∧
    ∃ c, pending? [] [] .balanced 0 ⟨Moment.lastSecond, 999999999⟩ (-16544868105599) = some c ∧
      c.expiresAt = Moment.firstSecond ∧ c.createdAt = "+262142-12-31T23:59:59Z".toList ∧
      c.createdAt.takeWhile (· != 'T') = c.date ∧
      Moment.secondsOf? c.createdAt = some Moment.lastSecond := by
  obtain ⟨-, -, hnone, -⟩ := times_of_pending [] [] .balanced 0
    ⟨Moment.lastSecond, 999999999⟩ (-16544868105600)
  obtain ⟨-, -, -, htimes⟩ := times_of_pending [] [] .balanced 0
    ⟨Moment.lastSecond, 999999999⟩ (-16544868105599)
  refine ⟨hnone.mpr (by decide), _, rfl, ?_⟩
  obtain ⟨hexpires, hdate, hcreated⟩ := htimes _ rfl
  exact ⟨hexpires.trans (by decide), by decide +kernel, hdate, hcreated⟩

end SchemaIntake
