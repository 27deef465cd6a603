import Mathlib.Data.List.Basic
import StatementShape.Proofs.Log.Name

/-!
# How days are spelled

The name of a daily file spells a day: a year of four digits, a month and a day, with dashes between
them. The digits of the year may be of any script. Months and days are numerals of one digit or two
in ASCII; of a day, a blank may stand for the first digit, and behind a one or a two the second may
be of any script. Whatever is spelled so counts if it is a real day, and nothing else does.

## Main definitions

* `SpellsYear`, `SpellsMonth`, `SpellsDay`: the parts of a spelling
* `Spells`: the spellings of a day
* `InDigits`: texts that look like a date, in digits of any script

## Main results

* `dateOf?_eq_some_iff`: the days that are read are those that are spelled
-/

namespace StatementShape.Log

open Calendar (Date month_of_isReal)
open Number (digitValue)
open Text (decimalValue? isDecimal)

/-! ### Parts -/

/-- A year of four decimal digits, each of any script. -/
def SpellsYear (cs : List Char) (n : Nat) : Prop :=
  ∃ a b c d, cs.map decimalValue? = [some a, some b, some c, some d] ∧
    n = 1000 * a + 100 * b + 10 * c + d

/-- A month of one digit or two. -/
inductive SpellsMonth : List Char → Nat → Prop
  | one {c : Char} (hc : c.isDigit = true) : SpellsMonth [c] (digitValue c)
  | two {b c : Char} (hb : b.isDigit = true) (hc : c.isDigit = true) :
    SpellsMonth [b, c] (10 * digitValue b + digitValue c)

/-- A day of one digit or two, like a month; behind a blank; or behind a one or a two with a
second digit of any script. -/
inductive SpellsDay : List Char → Nat → Prop
  | plain {cs : List Char} {n : Nat} (h : SpellsMonth cs n) : SpellsDay cs n
  | blank {c : Char} (hc : c.isDigit = true) : SpellsDay [' ', c] (digitValue c)
  | foreign {b c : Char} {n : Nat} (hb : b = '1' ∨ b = '2') (hc : decimalValue? c = some n) :
    SpellsDay [b, c] (10 * digitValue b + n)

/-- The spellings of a day: those of its year, month and day, with dashes between them. Days
that are not real have none. -/
structure Spells (cs : List Char) (d : Date) : Prop where
  real : d.isReal = true
  parts : ∃ y m n, cs = y ++ '-' :: (m ++ '-' :: n) ∧
    SpellsYear y d.year ∧ SpellsMonth m d.month ∧ SpellsDay n d.day

/-- A text in digits and dashes that looks like a date: four digits of any script, and one or
two behind each dash. -/
def InDigits (cs : List Char) : Prop :=
  ∃ y m n, cs = y ++ '-' :: (m ++ '-' :: n) ∧ y.length = 4 ∧ (m.length = 1 ∨ m.length = 2) ∧
    (n.length = 1 ∨ n.length = 2) ∧ ∀ c ∈ y ++ m ++ n, isDecimal c = true

section Parts

variable {cs : List Char} {b c : Char} {n : Nat}

/-! ### Digits -/

/-- A digit is one of ten characters. -/
theorem exists_fin_of_isDigit (h : c.isDigit = true) : ∃ i : Fin 10, Char.ofNat (48 + i) = c := by
  simp only [Char.isDigit, Bool.and_eq_true, decide_eq_true_eq] at h
  have hlow : 48 ≤ c.toNat := h.1
  have hhigh : c.toNat ≤ 57 := h.2
  refine ⟨⟨c.toNat - 48, by omega⟩, ?_⟩
  rw [Nat.add_sub_cancel' hlow, Char.ofNat_toNat]

theorem digitValue_lt (h : c.isDigit = true) : digitValue c < 10 := by
  obtain ⟨i, rfl⟩ := exists_fin_of_isDigit h
  have hdigits : ∀ i : Fin 10, digitValue (.ofNat (48 + i)) < 10 := by decide
  exact hdigits i

theorem decimalValue?_lt (h : decimalValue? c = some n) : n < 10 := by
  obtain ⟨z, hz, rfl⟩ := Option.map_eq_some_iff.mp h
  have hrange := List.find?_some hz
  simp only [Bool.and_eq_true, decide_eq_true_eq] at hrange
  omega

theorem positiveDigit?_eq_some_iff :
    positiveDigit? c = some n ↔ c.isDigit = true ∧ digitValue c = n ∧ 0 < n := by
  constructor
  · intro h
    simp only [positiveDigit?, Option.ite_none_right_eq_some, Option.some.injEq] at h
    obtain ⟨⟨hlow, hhigh⟩, rfl⟩ := h
    have hlow : 49 ≤ c.toNat := hlow
    refine ⟨?_, rfl, Nat.sub_pos_of_lt hlow⟩
    simp only [Char.isDigit, Bool.and_eq_true, decide_eq_true_eq]
    exact ⟨Nat.le_of_succ_le hlow, hhigh⟩
  · rintro ⟨hc, rfl, hpos⟩
    obtain ⟨i, rfl⟩ := exists_fin_of_isDigit hc
    have hdigits : ∀ i : Fin 10, 0 < digitValue (.ofNat (48 + i)) →
        positiveDigit? (.ofNat (48 + i)) = some (digitValue (.ofNat (48 + i))) := by decide
    exact hdigits i hpos

/-! ### Years, months and days -/

theorem yearOf?_eq_some_iff : yearOf? cs = some n ↔ SpellsYear cs n := by
  rw [yearOf?, Option.ite_none_right_eq_some]
  constructor
  · rintro ⟨⟨hlength, hall⟩, hn⟩
    obtain ⟨a, b, c, d, rfl⟩ := List.length_eq_four.mp hlength
    simp only [List.all_cons, List.all_nil, Bool.and_true, Bool.and_eq_true, isDecimal,
      Option.isSome_iff_exists] at hall
    obtain ⟨⟨a', ha⟩, ⟨b', hb⟩, ⟨c', hc⟩, ⟨d', hd⟩⟩ := hall
    refine ⟨a', b', c', d', by simp only [List.map, ha, hb, hc, hd], ?_⟩
    simp only [List.foldl, ha, hb, hc, hd, Option.getD_some, Option.some.injEq] at hn
    omega
  · rintro ⟨a', b', c', d', hmap, rfl⟩
    have hlength : cs.length = 4 := by simpa using congrArg List.length hmap
    obtain ⟨a, b, c, d, rfl⟩ := List.length_eq_four.mp hlength
    simp only [List.map, List.cons.injEq, and_true] at hmap
    obtain ⟨ha, hb, hc, hd⟩ := hmap
    refine ⟨⟨rfl, by simp [isDecimal, ha, hb, hc, hd]⟩, ?_⟩
    simp only [List.foldl, ha, hb, hc, hd, Option.getD_some, Option.some.injEq]
    omega

theorem monthOf?_eq_some_iff : monthOf? cs = some n ↔ SpellsMonth cs n ∧ 1 ≤ n ∧ n ≤ 12 := by
  constructor
  · intro h
    unfold monthOf? at h
    split at h
    · next c =>
      obtain ⟨hc, rfl, hpos⟩ := positiveDigit?_eq_some_iff.mp h
      have := digitValue_lt hc
      exact ⟨.one hc, hpos, by omega⟩
    · next c =>
      obtain ⟨hc, rfl, hpos⟩ := positiveDigit?_eq_some_iff.mp h
      have := digitValue_lt hc
      have htwo : SpellsMonth ['0', c] (10 * digitValue '0' + digitValue c) := .two rfl hc
      rw [show digitValue '0' = 0 from rfl, Nat.mul_zero, Nat.zero_add] at htwo
      exact ⟨htwo, hpos, by omega⟩
    · next c =>
      simp only [Option.ite_none_right_eq_some, Option.some.injEq] at h
      obtain ⟨rfl | rfl | rfl, rfl⟩ := h
      all_goals exact ⟨.two rfl rfl, by decide, by decide⟩
    · cases h
  · rintro ⟨h, hpos, hle⟩
    cases h with
    | one hc => exact positiveDigit?_eq_some_iff.mpr ⟨hc, rfl, hpos⟩
    | @two b c hb hc =>
      obtain ⟨i, rfl⟩ := exists_fin_of_isDigit hb
      obtain ⟨j, rfl⟩ := exists_fin_of_isDigit hc
      have hdigits : ∀ i j : Fin 10,
          1 ≤ 10 * digitValue (.ofNat (48 + i)) + digitValue (.ofNat (48 + j)) →
            10 * digitValue (.ofNat (48 + i)) + digitValue (.ofNat (48 + j)) ≤ 12 →
              monthOf? [.ofNat (48 + i), .ofNat (48 + j)] =
                some (10 * digitValue (.ofNat (48 + i)) + digitValue (.ofNat (48 + j))) := by
        decide +kernel
      exact hdigits i j hpos hle

theorem dayOf?_eq_some_iff : dayOf? cs = some n ↔ SpellsDay cs n ∧ 1 ≤ n ∧ n ≤ 31 := by
  constructor
  · intro h
    unfold dayOf? at h
    split at h
    · next c =>
      obtain ⟨hc, rfl, hpos⟩ := positiveDigit?_eq_some_iff.mp h
      have := digitValue_lt hc
      exact ⟨.plain (.one hc), hpos, by omega⟩
    · next c =>
      obtain ⟨hc, rfl, hpos⟩ := positiveDigit?_eq_some_iff.mp h
      have := digitValue_lt hc
      exact ⟨.blank hc, hpos, by omega⟩
    · next c =>
      obtain ⟨hc, rfl, hpos⟩ := positiveDigit?_eq_some_iff.mp h
      have := digitValue_lt hc
      have htwo : SpellsMonth ['0', c] (10 * digitValue '0' + digitValue c) := .two rfl hc
      rw [show digitValue '0' = 0 from rfl, Nat.mul_zero, Nat.zero_add] at htwo
      exact ⟨.plain htwo, hpos, by omega⟩
    · next c =>
      obtain ⟨k, hk, rfl⟩ := Option.map_eq_some_iff.mp h
      have := decimalValue?_lt hk
      exact ⟨.foreign (.inl rfl) hk, by omega, by omega⟩
    · next c =>
      obtain ⟨k, hk, rfl⟩ := Option.map_eq_some_iff.mp h
      have := decimalValue?_lt hk
      exact ⟨.foreign (.inr rfl) hk, by omega, by omega⟩
    · next c =>
      simp only [Option.ite_none_right_eq_some, Option.some.injEq] at h
      obtain ⟨rfl | rfl, rfl⟩ := h
      all_goals exact ⟨.plain (.two rfl rfl), by decide, by decide⟩
    · cases h
  · rintro ⟨h, hpos, hle⟩
    cases h with
    | plain h =>
      cases h with
      | one hc => exact positiveDigit?_eq_some_iff.mpr ⟨hc, rfl, hpos⟩
      | @two b c hb hc =>
        obtain ⟨i, rfl⟩ := exists_fin_of_isDigit hb
        obtain ⟨j, rfl⟩ := exists_fin_of_isDigit hc
        have hdigits : ∀ i j : Fin 10,
            1 ≤ 10 * digitValue (.ofNat (48 + i)) + digitValue (.ofNat (48 + j)) →
              10 * digitValue (.ofNat (48 + i)) + digitValue (.ofNat (48 + j)) ≤ 31 →
                dayOf? [.ofNat (48 + i), .ofNat (48 + j)] =
                  some (10 * digitValue (.ofNat (48 + i)) + digitValue (.ofNat (48 + j))) := by
          decide +kernel
        exact hdigits i j hpos hle
    | blank hc => exact positiveDigit?_eq_some_iff.mpr ⟨hc, rfl, hpos⟩
    | foreign hb hc =>
      rcases hb with rfl | rfl
      all_goals exact Option.map_eq_some_iff.mpr ⟨_, hc, rfl⟩

end Parts

/-! ### Dates -/

section Dates

variable {cs : List Char} {d : Date}

theorem dash_not_mem_pair {b c : Char} (hb : b ≠ '-') (hc : c ≠ '-') : '-' ∉ [b, c] := by
  simp [hb.symm, hc.symm]

theorem ne_dash_of_isDigit {c : Char} (h : c.isDigit = true) : c ≠ '-' := by
  rintro rfl
  cases h

theorem decimalValue?_dash : decimalValue? '-' = none := by decide +kernel

theorem dash_not_mem_of_spellsYear {n : Nat} (h : SpellsYear cs n) : '-' ∉ cs := by
  obtain ⟨a, b, c, d, hmap, -⟩ := h
  intro hmem
  have hnone : none ∈ cs.map decimalValue? := List.mem_map.mpr ⟨'-', hmem, decimalValue?_dash⟩
  rw [hmap] at hnone
  simp at hnone

theorem dash_not_mem_of_spellsMonth {n : Nat} (h : SpellsMonth cs n) : '-' ∉ cs := by
  cases h with
  | one hc => exact fun hmem => ne_dash_of_isDigit hc (List.mem_singleton.mp hmem).symm
  | two hb hc => exact dash_not_mem_pair (ne_dash_of_isDigit hb) (ne_dash_of_isDigit hc)

theorem dash_not_mem_of_spellsDay {n : Nat} (h : SpellsDay cs n) : '-' ∉ cs := by
  cases h with
  | plain h => exact dash_not_mem_of_spellsMonth h
  | blank hc => exact dash_not_mem_pair (by decide) (ne_dash_of_isDigit hc)
  | foreign hb hc =>
    refine dash_not_mem_pair ?_ ?_
    · rcases hb with rfl | rfl <;> decide
    · rintro rfl
      cases decimalValue?_dash.symm.trans hc

/-- **The days that are read** are those that are spelled. -/
theorem dateOf?_eq_some_iff : dateOf? cs = some d ↔ Spells cs d := by
  constructor
  · intro h
    unfold dateOf? at h
    split at h
    · next y m n hparts =>
      simp only [Option.bind_eq_bind, Option.bind_eq_some_iff] at h
      obtain ⟨year, hyear, month, hmonth, day, hday, h⟩ := h
      simp only [Option.ite_none_right_eq_some, Option.some.injEq] at h
      obtain ⟨hreal, rfl⟩ := h
      refine ⟨hreal, y, m, n, ?_, yearOf?_eq_some_iff.mp hyear, (monthOf?_eq_some_iff.mp hmonth).1,
        (dayOf?_eq_some_iff.mp hday).1⟩
      have hjoin : List.intercalate ['-'] (cs.splitOn '-') = cs := List.intercalate_splitOn '-'
      rw [show cs.splitOn '-' = [y, m, n] from hparts] at hjoin
      simpa [List.intercalate] using hjoin.symm
    · cases h
  · rintro ⟨hreal, y, m, n, rfl, hyear, hmonth, hday⟩
    have hparts : betweenDashes (y ++ '-' :: (m ++ '-' :: n)) = [y, m, n] := by
      rw [betweenDashes,
        List.splitOn_append_cons_self_of_not_mem (dash_not_mem_of_spellsYear hyear),
        List.splitOn_append_cons_self_of_not_mem (dash_not_mem_of_spellsMonth hmonth),
        List.splitOn_eq_singleton (dash_not_mem_of_spellsDay hday)]
    obtain ⟨hmonth1, hmonth2⟩ := month_of_isReal hreal
    obtain ⟨hday1, hday2⟩ := day_of_isReal hreal
    rw [dateOf?, hparts]
    simp only [yearOf?_eq_some_iff.mpr hyear, monthOf?_eq_some_iff.mpr ⟨hmonth, hmonth1, hmonth2⟩,
      dayOf?_eq_some_iff.mpr ⟨hday, hday1, Nat.le_of_lt_succ hday2⟩]
    exact if_pos hreal

/-- The day of a file's name: what stands before the ending spells it. -/
theorem dateOfName?_eq_some_iff {name : List Char} :
    dateOfName? name = some d ↔ ∃ stem, name = stem ++ ending ∧ Spells stem d := by
  rw [dateOfName?]
  constructor
  · intro h
    simp only [Option.ite_none_right_eq_some, List.isSuffixOf_iff_suffix] at h
    obtain ⟨⟨stem, rfl⟩, h⟩ := h
    rw [List.length_append, Nat.add_sub_cancel, List.take_left] at h
    exact ⟨stem, rfl, dateOf?_eq_some_iff.mp h⟩
  · rintro ⟨stem, rfl, h⟩
    rw [if_pos (List.isSuffixOf_iff_suffix.mpr (List.suffix_append _ _)), List.length_append,
      Nat.add_sub_cancel, List.take_left]
    exact dateOf?_eq_some_iff.mpr h

theorem InDigits.isDecimal_of_mem (h : InDigits cs) {c : Char} (hc : c ∈ cs) :
    c = '-' ∨ isDecimal c = true := by
  obtain ⟨y, m, n, rfl, -, -, -, hall⟩ := h
  simp only [List.mem_append, List.mem_cons] at hc hall
  rcases hc with hc | hc | hc | hc | hc
  · exact .inr (hall c (.inl (.inl hc)))
  · exact .inl hc
  · exact .inr (hall c (.inl (.inr hc)))
  · exact .inl hc
  · exact .inr (hall c (.inr hc))

end Dates

end StatementShape.Log
