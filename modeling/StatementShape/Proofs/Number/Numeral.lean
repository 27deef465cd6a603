import Mathlib.Data.Nat.Digits.Defs
import StatementShape.Number.Decimal

/-!
# Numerals

A number is written in decimal digits, without zeros in front, and a negative one behind a dash. The
value of its digits gives the number back.

## Main results

* `digitsValue_toDigits`: a numeral has the value of its number
* `head?_toDigits`: a numeral begins with a zero only if it is that of zero
* `toList_toString`: the numeral of an integer
* `toString_injective`: integers are told by their numerals
* `digitsValue_padLeft`: zeros in front do not count
* `hasNumeral_iff`: the whole numbers with a numeral are those below a power of ten
-/

namespace StatementShape.Number

variable {n : Nat}

/-- **A numeral** has the value of its number. -/
theorem digitsValue_toDigits (n : Nat) : digitsValue (Nat.toDigits 10 n) = n :=
  Nat.ofDigitChars_ten_toDigits

theorem isDigit_of_mem_toDigits : ∀ d ∈ Nat.toDigits 10 n, d.isDigit = true :=
  fun _ => Nat.isDigit_of_mem_toDigits (by decide) (by decide)

/-- A numeral has a digit. -/
theorem exists_cons_toDigits (n : Nat) :
    ∃ d ds, Nat.toDigits 10 n = d :: ds ∧ d.isDigit = true := by
  cases h : Nat.toDigits 10 n with
  | nil => exact absurd h Nat.toDigits_ne_nil
  | cons d ds => exact ⟨d, ds, rfl, isDigit_of_mem_toDigits d (h ▸ List.mem_cons_self)⟩

/-- **A numeral begins with a zero** only if it is that of zero. -/
theorem head?_toDigits (hn : n ≠ 0) : (Nat.toDigits 10 n).head? ≠ some '0' := by
  induction n using Nat.strongRecOn with
  | ind n ih =>
  rw [Nat.toDigits_eq_if (by decide)]
  split
  · next hlt =>
    have hdigit : ∀ d < 10, d ≠ 0 → d.digitChar ≠ '0' := by decide
    simpa using hdigit n hlt hn
  · next hge =>
    -- in front of the last digit stands the numeral of a smaller number, which is not zero either
    obtain ⟨d, more, hmore, -⟩ := exists_cons_toDigits (n / 10)
    have ih := ih (n / 10) (by omega) (by omega)
    rw [hmore] at ih ⊢
    exact ih

/-- **The numeral of an integer** has a dash in front of it if it is negative. -/
theorem toList_toString (i : Int) :
    (toString i).toList =
      if i < 0 then '-' :: Nat.toDigits 10 i.natAbs else Nat.toDigits 10 i.natAbs := by
  cases i with
  | ofNat n =>
    have hpos : ¬ Int.ofNat n < 0 := Int.not_lt.mpr (Int.natCast_nonneg n)
    rw [if_neg hpos]
    exact Nat.toList_repr
  | negSucc n =>
    rw [if_pos (Int.negSucc_lt_zero n)]
    exact (String.toList_append).trans (congrArg ('-' :: ·) Nat.toList_repr)

theorem exists_cons_toString (i : Int) :
    ∃ c cs, (toString i).toList = c :: cs ∧ (c.isDigit = true ∨ c = '-') := by
  obtain ⟨d, ds, hds, hd⟩ := exists_cons_toDigits i.natAbs
  rw [toList_toString, hds]
  split
  · exact ⟨'-', _, rfl, .inr rfl⟩
  · exact ⟨d, _, rfl, .inl hd⟩

theorem isDigit_or_eq_of_mem_toString {i : Int} :
    ∀ c ∈ (toString i).toList, c.isDigit = true ∨ c = '-' := by
  have hdigits : ∀ c ∈ Nat.toDigits 10 i.natAbs, c.isDigit = true ∨ c = '-' := fun c hc =>
    .inl (isDigit_of_mem_toDigits c hc)
  rw [toList_toString]
  split
  · exact List.forall_mem_cons.mpr ⟨.inr rfl, hdigits⟩
  · exact hdigits

/-- Integers are told by their numerals: a digit is no dash. -/
theorem toString_injective : Function.Injective (toString : Int → String) := by
  have hdash : ∀ n : Nat, '-' ∉ Nat.toDigits 10 n := fun n hmem =>
    absurd (isDigit_of_mem_toDigits _ hmem) (by decide)
  have hdigits : ∀ {n m : Nat}, Nat.toDigits 10 n = Nat.toDigits 10 m → n = m := fun {n m} h => by
    rw [← digitsValue_toDigits n, h, digitsValue_toDigits]
  intro i j h
  have htext := congrArg String.toList h
  rw [toList_toString, toList_toString] at htext
  by_cases hi : i < 0 <;> by_cases hj : j < 0
  · rw [if_pos hi, if_pos hj] at htext
    have := hdigits (List.cons.inj htext).2
    omega
  · rw [if_pos hi, if_neg hj] at htext
    exact absurd (htext ▸ List.mem_cons_self) (hdash _)
  · rw [if_neg hi, if_pos hj] at htext
    exact absurd (htext ▸ List.mem_cons_self) (hdash _)
  · rw [if_neg hi, if_neg hj] at htext
    have := hdigits htext
    omega

/-- **The whole numbers with a numeral** are those below a power of ten. -/
theorem hasNumeral_iff {i : Int} : hasNumeral i = true ↔ i.natAbs < 10 ^ mostDigits := by
  rw [hasNumeral, decide_eq_true_eq]
  exact Nat.length_toDigits_le_iff (by decide) (by decide)

theorem hasNumeral_iff_of_nonneg {i : Int} (h : 0 ≤ i) :
    hasNumeral i = true ↔ i < 10 ^ mostDigits := by
  obtain ⟨n, rfl⟩ := Int.eq_ofNat_of_zero_le h
  rw [hasNumeral_iff]
  exact_mod_cast Iff.rfl

/-- A number whose hexadecimal digits are a one and thousands of zeros is too long for a
numeral. -/
theorem ten_pow_mostDigits_le : (10 : Int) ^ mostDigits ≤ 16 ^ 3600 := by
  have hten : mostDigits = 43 * 100 := rfl
  have hsixteen : 3600 = 36 * 100 := rfl
  rw [hten, hsixteen, pow_mul, pow_mul]
  exact_mod_cast Nat.pow_le_pow_left (by decide : 10 ^ 43 ≤ 16 ^ 36) 100

/-! ### Numerals of a least width -/

theorem toList_padLeft (width n : Nat) : (padLeft width n).toList =
    List.replicate (width - (toString n).length) '0' ++ Nat.toDigits 10 n := by
  simp only [padLeft, String.toList_append, String.toList_ofList]
  exact congrArg _ Nat.toList_repr

/-- Zeros in front of digits do not count. -/
theorem digitsValue_replicate_append (k : Nat) (ds : List Char) :
    digitsValue (List.replicate k '0' ++ ds) = digitsValue ds := by
  induction k with
  | zero => rfl
  | succ k ih => exact ih

theorem digitsValue_padLeft (width n : Nat) : digitsValue (padLeft width n).toList = n := by
  rw [toList_padLeft, digitsValue_replicate_append, digitsValue_toDigits]

theorem isDigit_of_mem_padLeft {width n : Nat} :
    ∀ d ∈ (padLeft width n).toList, d.isDigit = true := by
  rw [toList_padLeft, List.forall_mem_append]
  refine ⟨fun d hd => ?_, isDigit_of_mem_toDigits⟩
  rw [(List.mem_replicate.mp hd).2]
  rfl

end StatementShape.Number
