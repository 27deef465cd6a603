import StatementShape.Log.Daily
import StatementShape.Proofs.Number.Numeral

/-!
# Names of daily files

The name of a day's file spells the day, and is read as that day again if its year has four digits.
Years before the year 1000 are written with fewer digits than the four that are read, so that the
files of these days have names, different from all others, that spell no day.

## Main results

* `dateOfName?_fileName`: the day that the name of a day's file spells
* `fileName_inj`: different days have files of different names
-/

namespace StatementShape.Log

open Calendar (Date month_of_isReal daysIn)
open Number (digitValue digitsValue digitsValue_toDigits isDigit_of_mem_toDigits padLeft)
open Text (decimalValue? decimalZeros isDecimal)

/-! ### Years -/

section Years

variable {ds : List Char} {y : Nat}

/-- The digits of ASCII have their usual values. -/
theorem decimalValue?_of_isDigit {c : Char} (hc : c.isDigit = true) :
    decimalValue? c = some (digitValue c) := by
  simp only [Char.isDigit, Bool.and_eq_true, decide_eq_true_eq] at hc
  have hlow : 0x30 ≤ c.toNat := hc.1
  have hhigh : c.toNat ≤ 0x39 := hc.2
  have hzero : (decide (0x30 ≤ c.toNat) && decide (c.toNat < 0x30 + 10)) = true := by
    simp only [Bool.and_eq_true, decide_eq_true_eq]
    omega
  have hfind : decimalZeros.find? (fun z => z ≤ c.toNat && c.toNat < z + 10) = some 0x30 :=
    List.find?_cons_of_pos hzero
  rw [decimalValue?, hfind]
  rfl

theorem foldl_decimalValue? (hds : ∀ d ∈ ds, d.isDigit = true) (n : Nat) :
    ds.foldl (fun n c => 10 * n + (decimalValue? c).getD 0) n =
      ds.foldl (fun n c => 10 * n + digitValue c) n := by
  induction ds generalizing n with
  | nil => rfl
  | cons d ds ih =>
    obtain ⟨hd, hds⟩ := List.forall_mem_cons.mp hds
    rw [List.foldl_cons, List.foldl_cons, decimalValue?_of_isDigit hd, Option.getD_some, ih hds]

/-- A year of four digits is read back; others have too few digits, or too many. -/
theorem yearOf?_toDigits (y : Nat) :
    yearOf? (Nat.toDigits 10 y) = if 1000 ≤ y ∧ y ≤ 9999 then some y else none := by
  have hall : (Nat.toDigits 10 y).all isDecimal = true := by
    rw [List.all_eq_true]
    intro d hd
    rw [isDecimal, decimalValue?_of_isDigit (isDigit_of_mem_toDigits d hd)]
    rfl
  -- a numeral has four digits if it does not have at most three, but at most four
  have hthree := Nat.length_toDigits_le_iff (n := y) (b := 10) (k := 3) (by decide) (by decide)
  have hfour := Nat.length_toDigits_le_iff (n := y) (b := 10) (k := 4) (by decide) (by decide)
  have hlength : (Nat.toDigits 10 y).length = 4 ↔ 1000 ≤ y ∧ y ≤ 9999 := by omega
  have hvalue : (Nat.toDigits 10 y).foldl (fun n c => 10 * n + (decimalValue? c).getD 0) 0 = y :=
    (foldl_decimalValue? isDigit_of_mem_toDigits 0).trans (digitsValue_toDigits y)
  simp only [yearOf?, hall, hlength, hvalue, and_true]

end Years

/-! ### Months and days -/

theorem monthOf?_padLeft : ∀ m < 13, 0 < m → monthOf? (padLeft 2 m).toList = some m := by decide

theorem dayOf?_padLeft : ∀ d < 32, 0 < d → dayOf? (padLeft 2 d).toList = some d := by decide

theorem digitsValue_padLeft : ∀ n < 32, digitsValue (padLeft 2 n).toList = n := by decide

theorem dash_not_mem_padLeft : ∀ n < 32, '-' ∉ (padLeft 2 n).toList := by decide

theorem daysIn_le (year month : Nat) : daysIn year month ≤ 31 := by
  unfold daysIn
  split
  all_goals first | decide | (split <;> decide)

/-- Real dates have a day of the month. -/
theorem day_of_isReal {d : Date} (h : d.isReal = true) : 0 < d.day ∧ d.day < 32 := by
  have hmost := daysIn_le d.year d.month
  simp only [Date.isReal, Bool.and_eq_true, decide_eq_true_eq] at h
  omega

theorem month_lt {d : Date} (h : d.isReal = true) : d.month < 32 :=
  Nat.lt_of_le_of_lt (month_of_isReal h).2 (by decide)

theorem year_of_isReal {d : Date} (h : d.isReal = true) : d.year ≤ 9999 := by
  simp only [Date.isReal, Bool.and_eq_true, decide_eq_true_eq] at h
  exact h.1.1.2

/-! ### Names -/

section Names

variable {d d' : Date}

/-- The name without its ending. -/
def stem (d : Date) : List Char :=
  Nat.toDigits 10 d.year ++ '-' :: ((padLeft 2 d.month).toList ++ '-' :: (padLeft 2 d.day).toList)

theorem fileName_eq (d : Date) : fileName d = stem d ++ ending := by
  simp [fileName, stem]

/-- The parts of a name are those of its date. -/
theorem betweenDashes_stem (h : d.isReal = true) :
    betweenDashes (stem d) =
      [Nat.toDigits 10 d.year, (padLeft 2 d.month).toList, (padLeft 2 d.day).toList] := by
  have hyear : '-' ∉ Nat.toDigits 10 d.year := fun hmem => nomatch isDigit_of_mem_toDigits _ hmem
  have hmonth := dash_not_mem_padLeft d.month (month_lt h)
  have hday := dash_not_mem_padLeft d.day (day_of_isReal h).2
  rw [betweenDashes, stem, List.splitOn_append_cons_self_of_not_mem hyear,
    List.splitOn_append_cons_self_of_not_mem hmonth, List.splitOn_eq_singleton hday]

/-- A name is read as its date if the year has four digits. -/
theorem dateOf?_stem (h : d.isReal = true) :
    dateOf? (stem d) = if 1000 ≤ d.year then some d else none := by
  obtain ⟨hmonth, hmonth'⟩ := month_of_isReal h
  obtain ⟨hday, hday'⟩ := day_of_isReal h
  have hyear := year_of_isReal h
  rw [dateOf?, betweenDashes_stem h]
  simp only [yearOf?_toDigits, hyear, and_true, monthOf?_padLeft d.month (by omega) hmonth,
    dayOf?_padLeft d.day hday' hday]
  split
  · simp [h]
  · rfl

/-- **The day that a file's name spells**: the day of the file, if its year has four digits. -/
theorem dateOfName?_fileName (h : d.isReal = true) :
    dateOfName? (fileName d) = if 1000 ≤ d.year then some d else none := by
  have hsuffix : ending.isSuffixOf (stem d ++ ending) = true :=
    List.isSuffixOf_iff_suffix.mpr (List.suffix_append _ _)
  rw [fileName_eq, dateOfName?, if_pos hsuffix, List.length_append, Nat.add_sub_cancel,
    List.take_left, dateOf?_stem h]

/-- **Different days** have files of different names. -/
theorem fileName_inj (h : d.isReal = true) (h' : d'.isReal = true)
    (heq : fileName d = fileName d') : d = d' := by
  -- names are split at the same dashes, so that each numeral is that of the same number
  rw [fileName_eq, fileName_eq] at heq
  have hparts := congrArg betweenDashes (List.append_cancel_right heq)
  rw [betweenDashes_stem h, betweenDashes_stem h'] at hparts
  simp only [List.cons.injEq, and_true] at hparts
  obtain ⟨hyear, hmonth, hday⟩ := hparts
  have hyears := congrArg digitsValue hyear
  have hmonths := congrArg digitsValue hmonth
  have hdays := congrArg digitsValue hday
  rw [digitsValue_toDigits, digitsValue_toDigits] at hyears
  rw [digitsValue_padLeft _ (month_lt h), digitsValue_padLeft _ (month_lt h')] at hmonths
  rw [digitsValue_padLeft _ (day_of_isReal h).2,
    digitsValue_padLeft _ (day_of_isReal h').2] at hdays
  obtain ⟨y, m, n⟩ := d
  obtain ⟨y', m', n'⟩ := d'
  rw [show y = y' from hyears, show m = m' from hmonths, show n = n' from hdays]

end Names

end StatementShape.Log
