import StatementShape.Number.Decimal

/-!
# Calendar dates

Dates of the years 1 to 9999 in the calendar of today, extended to all of these years.

## Main definitions

* `Date`, `Date.isReal`: dates, and whether there is such a day
* `Date.ordinal`, `Date.ofOrdinal`: the number of the day, counted from the first day of year 1
* `Date.text`: year, month and day with dashes

## Main results

* `ordinal_last`: the last day of year 9999 has the last number
* `month_of_isReal`: real dates have a month of the twelve
-/

namespace StatementShape.Calendar

open Number (padLeft)

/-- Dates. -/
structure Date where
  year : Nat
  month : Nat
  day : Nat
  deriving DecidableEq, Repr

/-- Leap years: every fourth, but of the centuries only every fourth. -/
def isLeap (year : Nat) : Bool := year % 4 = 0 && (year % 100 ≠ 0 || year % 400 = 0)

/-- The number of days of a month; none if there is no such month. -/
def daysIn (year month : Nat) : Nat :=
  match month with
  | 1 | 3 | 5 | 7 | 8 | 10 | 12 => 31
  | 4 | 6 | 9 | 11 => 30
  | 2 => if isLeap year then 29 else 28
  | _ => 0

/-- The number of days of a year before a month. -/
def daysBefore (year month : Nat) : Nat :=
  (List.range (month - 1)).foldl (fun n m => n + daysIn year (m + 1)) 0

/-- The last day of the calendar. -/
def lastOrdinal : Nat := 3652059

namespace Date

/-- Whether there is such a day. -/
def isReal (d : Date) : Bool :=
  1 ≤ d.year && d.year ≤ 9999 && 1 ≤ d.day && d.day ≤ daysIn d.year d.month

/-- The number of the day, where the first day of year 1 has number 1. -/
def ordinal (d : Date) : Nat :=
  let y := d.year - 1
  365 * y + y / 4 - y / 100 + y / 400 + daysBefore d.year d.month + d.day

/-- The date of a number, the other way round. Years are counted from March, so that a leap day is
the last of its year, and four hundred of them have 146097 days. -/
def ofOrdinal (n : Nat) : Date :=
  let days := n + 305
  let inEra := days % 146097
  let yearOfEra := (inEra - inEra / 1460 + inEra / 36524 - inEra / 146096) / 365
  let inYear := inEra - (365 * yearOfEra + yearOfEra / 4 - yearOfEra / 100)
  let fromMarch := (5 * inYear + 2) / 153
  let month := if fromMarch < 10 then fromMarch + 3 else fromMarch - 9
  let year := days / 146097 * 400 + yearOfEra
  { year := if month ≤ 2 then year + 1 else year, month,
    day := inYear - (153 * fromMarch + 2) / 5 + 1 }

/-- A date in digits: four for the year, two each for month and day. -/
def text (d : Date) : String :=
  padLeft 4 d.year ++ "-" ++ padLeft 2 d.month ++ "-" ++ padLeft 2 d.day

end Date

/-- **The calendar ends** with the last day of year 9999. -/
theorem ordinal_last : Date.ordinal { year := 9999, month := 12, day := 31 } = lastOrdinal := by
  decide

/-- **Real dates** have a month of the twelve. -/
theorem month_of_isReal {d : Date} (h : d.isReal = true) : 1 ≤ d.month ∧ d.month ≤ 12 := by
  simp only [Date.isReal, Bool.and_eq_true, decide_eq_true_eq] at h
  obtain ⟨⟨_, hday⟩, hle⟩ := h
  unfold daysIn at hle
  split at hle <;> omega

end StatementShape.Calendar
