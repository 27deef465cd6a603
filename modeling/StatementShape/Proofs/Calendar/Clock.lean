import StatementShape.Calendar.Instant

/-!
# Counting time

An instant is counted in microseconds from the beginning of the calendar: whole days by the number
of its date, and those that have passed of its day. A day begins at its midnight, and a cutoff some
days before an instant is so many days less; a day is before the cutoff exactly if its midnight is.

## Main definitions

* `dayLength`: the microseconds of a day
* `Instant.count`, `Date.midnight`: an instant and the beginning of a day, counted
* `Time.IsReal`, `Instant.IsReal`: times and instants that there are

## Main results

* `midnight_le_count`, `count_lt_midnight`: an instant lies in its day
* `isBefore_iff`: a day is before a cutoff exactly if it begins before it
* `ordinal_le_last`: no day is behind the last one
* `cutoff?_eq_none_iff`: the calendar has a cutoff exactly if it has had so many days
-/

namespace StatementShape.Calendar

/-- The microseconds of a day. -/
def dayLength : Int := 86400000000

/-- Times of day that there are. -/
structure Time.IsReal (t : Time) : Prop where
  hour : t.hour < 24
  minute : t.minute < 60
  second : t.second < 60
  microsecond : t.microsecond < 1000000

/-- Instants that there are. -/
structure Instant.IsReal (i : Instant) : Prop where
  date : i.date.isReal = true
  time : i.time.IsReal

/-- The beginning of a day, in microseconds. -/
def Date.midnight (d : Date) : Int := d.ordinal * dayLength

/-- The count of an instant, in microseconds. -/
def Instant.count (i : Instant) : Int := i.date.midnight + i.time.elapsed

section Counts

variable {i now : Instant} {days : Int} {d : Date} {m : Moment}

/-- A time of day is less than a day. -/
theorem Time.IsReal.elapsed_lt {t : Time} (h : t.IsReal) : (t.elapsed : Int) < dayLength := by
  obtain ⟨hhour, hminute, hsecond, hmicrosecond⟩ := h
  unfold Time.elapsed dayLength
  omega

theorem midnight_le_count (i : Instant) : i.date.midnight ≤ i.count := by
  unfold Instant.count
  omega

/-- **An instant** lies in its day. -/
theorem count_lt_midnight (h : i.IsReal) : i.count < i.date.midnight + dayLength := by
  have := h.time.elapsed_lt
  unfold Instant.count
  omega

/-- **A day is before a cutoff** exactly if it begins before it. -/
theorem isBefore_iff (hnow : now.IsReal) (h : now.cutoff? days = some m) :
    d.isBefore m = true ↔ d.midnight < now.count - days * dayLength := by
  have helapsed := hnow.time.elapsed_lt
  simp only [Instant.cutoff?, Option.ite_none_right_eq_some, Option.some.injEq] at h
  obtain ⟨⟨-, hfirst, -⟩, rfl⟩ := h
  simp only [Date.isBefore, Bool.or_eq_true, Bool.and_eq_true, decide_eq_true_eq, Instant.count,
    Date.midnight, dayLength] at helapsed ⊢
  omega

end Counts

/-! ### The bounds of the calendar -/

section Bounds

variable {d : Date} {now : Instant} {days : Int} {year year' : Nat}

/-- Months are as long in all leap years, and in all others. -/
theorem daysIn_congr (h : isLeap year = isLeap year') (month : Nat) :
    daysIn year month = daysIn year' month := by
  unfold daysIn
  rw [h]

theorem daysBefore_congr (h : isLeap year = isLeap year') (month : Nat) :
    daysBefore year month = daysBefore year' month := by
  simp only [daysBefore, daysIn_congr h]

/-- The months of a year have the days of one. -/
theorem daysBefore_add_daysIn_le (year : Nat) {month : Nat} (h : month ≤ 12) :
    daysBefore year month + daysIn year month ≤ if isLeap year then 366 else 365 := by
  -- the years 4 and 1 stand for all leap years and for all others
  have hleap : ∀ m ≤ 12, daysBefore 4 m + daysIn 4 m ≤ 366 := by decide
  have hcommon : ∀ m ≤ 12, daysBefore 1 m + daysIn 1 m ≤ 365 := by decide
  split
  · next hyear =>
    have heq : isLeap year = isLeap 4 := hyear
    rw [daysBefore_congr heq, daysIn_congr heq]
    exact hleap month h
  · next hyear =>
    have heq : isLeap year = isLeap 1 := Bool.eq_false_iff.mpr hyear
    rw [daysBefore_congr heq, daysIn_congr heq]
    exact hcommon month h

/-- **No day** is behind the last one. -/
theorem ordinal_le_last (h : d.isReal = true) : d.ordinal ≤ lastOrdinal := by
  have hyear := daysBefore_add_daysIn_le d.year (month_of_isReal h).2
  simp only [Date.isReal, Bool.and_eq_true, decide_eq_true_eq] at h
  obtain ⟨⟨⟨-, hlast⟩, -⟩, hday⟩ := h
  unfold Date.ordinal lastOrdinal
  dsimp only
  -- the last year is not a leap year
  by_cases heq : d.year = 9999
  · rw [heq, if_neg (by decide)] at hyear
    rw [heq] at hday ⊢
    omega
  · split at hyear <;> omega

/-- **The calendar does not have a cutoff** as many days before now as there have been, or more. -/
theorem cutoff?_eq_none_iff (hnow : now.date.isReal = true) (hdays : 1 ≤ days) :
    now.cutoff? days = none ↔ (now.date.ordinal : Int) ≤ days := by
  have hlast := ordinal_le_last hnow
  unfold Instant.cutoff? Instant.mostDays
  unfold lastOrdinal at hlast ⊢
  dsimp only
  split
  · simp only [reduceCtorEq, false_iff]
    omega
  · simp only [true_iff]
    omega

end Bounds

end StatementShape.Calendar
