import StatementShape.Proofs.Calendar.Clock

/-!
# Every day of the calendar

Days are numbered one after the other, over the ends of months and years, and every number up to the
last one is that of a day. So the cutoff some days before an instant is the instant that is counted
so many days less, where the calendar has such an instant, and missing where it has none.

## Main definitions

* `Date.next`: the day after

## Main results

* `ordinal_next`, `isReal_next`: the day after has the next number, and is real before the last one
* `exists_ordinal_eq`: every number is that of a day
* `isSome_cutoff?_iff`: the calendar has a cutoff exactly if it has an instant of that count
-/

namespace StatementShape.Calendar

/-! ### The day after -/

/-- The day after a day: the next of the month, or the first of the next month, or of the next
year. -/
def Date.next (d : Date) : Date :=
  if d.day < daysIn d.year d.month then { d with day := d.day + 1 }
  else if d.month < 12 then { year := d.year, month := d.month + 1, day := 1 }
  else { year := d.year + 1, month := 1, day := 1 }

section Next

variable {d : Date} {year month n : Nat}

theorem daysBefore_succ (year : Nat) (h : 1 ≤ month) :
    daysBefore year (month + 1) = daysBefore year month + daysIn year month := by
  obtain ⟨m, rfl⟩ := Nat.exists_eq_add_of_le' h
  simp [daysBefore, List.range_succ]

/-- Two years stand for all others: a leap year and one that is none. -/
theorem isLeap_cases (year : Nat) : isLeap year = isLeap 4 ∨ isLeap year = isLeap 1 := by
  cases h : isLeap year with
  | true => exact .inl rfl
  | false => exact .inr rfl

theorem daysIn_pos (year : Nat) (h : 1 ≤ month) (h' : month ≤ 12) : 1 ≤ daysIn year month := by
  have hleap : ∀ m ≤ 12, 1 ≤ m → 1 ≤ daysIn 4 m := by decide
  have hcommon : ∀ m ≤ 12, 1 ≤ m → 1 ≤ daysIn 1 m := by decide
  rcases isLeap_cases year with hyear | hyear
  · rw [daysIn_congr hyear]
    exact hleap month h' h
  · rw [daysIn_congr hyear]
    exact hcommon month h' h

theorem daysBefore_december (year : Nat) :
    daysBefore year 12 + daysIn year 12 = if isLeap year then 366 else 365 := by
  rcases isLeap_cases year with hyear | hyear
  · rw [daysBefore_congr hyear, daysIn_congr hyear, hyear]
    decide
  · rw [daysBefore_congr hyear, daysIn_congr hyear, hyear]
    decide

/-- The days before a year grow by those of the year before. -/
theorem daysBeforeYear_succ (y : Nat) :
    365 * (y + 1) + (y + 1) / 4 - (y + 1) / 100 + (y + 1) / 400 =
      365 * y + y / 4 - y / 100 + y / 400 + if isLeap (y + 1) then 366 else 365 := by
  have hfour : (y + 1) / 4 = y / 4 + if (y + 1) % 4 = 0 then 1 else 0 := by split <;> omega
  have hhundred : (y + 1) / 100 = y / 100 + if (y + 1) % 100 = 0 then 1 else 0 := by
    split <;> omega
  have hera : (y + 1) / 400 = y / 400 + if (y + 1) % 400 = 0 then 1 else 0 := by split <;> omega
  have hcentury : (y + 1) % 100 = 0 → (y + 1) % 4 = 0 := by omega
  have heras : (y + 1) % 400 = 0 → (y + 1) % 100 = 0 := by omega
  have hle : y / 100 ≤ y / 4 := by omega
  rw [hfour, hhundred, hera]
  generalize y / 4 = a, y / 100 = b, y / 400 = c at hle ⊢
  simp only [isLeap, Bool.and_eq_true, Bool.or_eq_true, decide_eq_true_eq]
  by_cases h4 : (y + 1) % 4 = 0
  · by_cases h100 : (y + 1) % 100 = 0
    · by_cases h400 : (y + 1) % 400 = 0
      · simp only [h4, h100, h400, if_true, true_and, ne_eq, not_true, or_true]
        omega
      · simp only [h4, h100, h400, if_true, if_false, true_and, ne_eq, not_true, or_self]
        omega
    · have h400 : ¬ (y + 1) % 400 = 0 := fun h => h100 (heras h)
      simp only [h4, h100, h400, if_true, if_false, true_and, ne_eq, not_false_eq_true, true_or]
      omega
  · have h100 : ¬ (y + 1) % 100 = 0 := fun h => h4 (hcentury h)
    have h400 : ¬ (y + 1) % 400 = 0 := fun h => h100 (heras h)
    simp only [h4, h100, h400, if_false, false_and]
    omega

/-- **The day after** has the next number. -/
theorem ordinal_next (h : d.isReal = true) : d.next.ordinal = d.ordinal + 1 := by
  obtain ⟨hfirst, hlast⟩ := month_of_isReal h
  have hyear := daysBefore_december d.year
  simp only [Date.isReal, Bool.and_eq_true, decide_eq_true_eq] at h
  obtain ⟨⟨⟨hyear1, -⟩, -⟩, hday'⟩ := h
  unfold Date.next
  split
  · rfl
  split
  · simp only [Date.ordinal, daysBefore_succ d.year hfirst]
    omega
  · next hday hmonth =>
    -- the last day of a year
    obtain ⟨y, hy⟩ := Nat.exists_eq_add_of_le' hyear1
    have hmonth : d.month = 12 := by omega
    have hdays : d.day = daysIn d.year 12 := by
      rw [hmonth] at hday hday'
      omega
    have hjanuary : daysBefore (d.year + 1) 1 = 0 := rfl
    simp only [Date.ordinal, hmonth, hdays, hjanuary, Nat.add_assoc, hyear, Nat.add_sub_cancel]
    rw [hy, ← Nat.add_assoc, daysBeforeYear_succ, Nat.add_sub_cancel]
    omega

/-- **The day after** is real, but for the last day of the calendar. -/
theorem isReal_next (h : d.isReal = true) (hlt : d.ordinal < lastOrdinal) :
    d.next.isReal = true := by
  obtain ⟨hfirst, hlast⟩ := month_of_isReal h
  have hend : ¬ (d.year = 9999 ∧ d.month = 12 ∧ d.day = 31) := by
    rintro ⟨hyear, hmonth, hday⟩
    obtain rfl : d = { year := 9999, month := 12, day := 31 } := by
      rw [← hyear, ← hmonth, ← hday]
    exact absurd ordinal_last (Nat.ne_of_lt hlt)
  simp only [Date.isReal, Bool.and_eq_true, decide_eq_true_eq] at h ⊢
  obtain ⟨⟨⟨hyear1, hyear2⟩, hday1⟩, hday2⟩ := h
  unfold Date.next
  split
  · next hday => exact ⟨⟨⟨hyear1, hyear2⟩, Nat.le_add_left 1 _⟩, hday⟩
  · next hday =>
    split
    · next hmonth =>
      exact ⟨⟨⟨hyear1, hyear2⟩, Nat.le_refl 1⟩, daysIn_pos _ (Nat.le_add_left 1 _) hmonth⟩
    · next hmonth =>
      obtain hdecember : d.month = 12 := by omega
      have hdays : daysIn d.year d.month = 31 := by rw [hdecember]; rfl
      have hyear : d.year + 1 ≤ 9999 := by omega
      exact ⟨⟨⟨Nat.le_add_left 1 _, hyear⟩, Nat.le_refl 1⟩,
        daysIn_pos _ (Nat.le_refl 1) (Nat.le_add_left 1 11)⟩

/-- **Every number** up to the last one is that of a day. -/
theorem exists_ordinal_eq (h : 1 ≤ n) (hlast : n ≤ lastOrdinal) :
    ∃ d : Date, d.isReal = true ∧ d.ordinal = n := by
  induction n with
  | zero => cases h
  | succ n ih =>
    cases Nat.eq_zero_or_pos n with
    | inl hzero => exact ⟨{ year := 1, month := 1, day := 1 }, by decide, by rw [hzero]; rfl⟩
    | inr hpos =>
      obtain ⟨d, hreal, rfl⟩ := ih hpos (Nat.le_of_succ_le hlast)
      exact ⟨d.next, isReal_next hreal hlast, ordinal_next hreal⟩

theorem ordinal_pos (h : d.isReal = true) : 1 ≤ d.ordinal := by
  simp only [Date.isReal, Bool.and_eq_true, decide_eq_true_eq] at h
  unfold Date.ordinal
  dsimp only
  omega

end Next

/-! ### Cutoffs -/

section Cutoffs

variable {now i : Instant} {days : Int}

/-- **The calendar has a cutoff** exactly if it has an instant that is counted so many days less. -/
theorem isSome_cutoff?_iff (hnow : now.IsReal) :
    (now.cutoff? days).isSome ↔
      ∃ i : Instant, i.IsReal ∧ i.count = now.count - days * dayLength := by
  have hfirst := ordinal_pos hnow.date
  have hlast := ordinal_le_last hnow.date
  simp only [Instant.cutoff?, Option.isSome_ite]
  constructor
  · rintro ⟨-, hlow, hhigh⟩
    obtain ⟨d, hd, hordinal⟩ := exists_ordinal_eq
      (n := ((now.date.ordinal : Int) - days).toNat) (by omega) (by omega)
    refine ⟨⟨d, now.time⟩, ⟨hd, hnow.time⟩, ?_⟩
    have hordinal : (d.ordinal : Int) = now.date.ordinal - days := by omega
    simp only [Instant.count, Date.midnight, hordinal, Int.sub_mul]
    omega
  · rintro ⟨i, hi, hcount⟩
    have hi1 := ordinal_pos hi.date
    have hi2 := ordinal_le_last hi.date
    have helapsed := hi.time.elapsed_lt
    have helapsed' := hnow.time.elapsed_lt
    -- whole days apart, the two instants have the same time of day
    have hordinal : (i.date.ordinal : Int) = now.date.ordinal - days := by
      simp only [Instant.count, Date.midnight, dayLength] at hcount helapsed helapsed'
      omega
    simp only [Instant.mostDays, lastOrdinal] at *
    omega

end Cutoffs

end StatementShape.Calendar
