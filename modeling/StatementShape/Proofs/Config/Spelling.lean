import Mathlib.Data.List.Basic
import Mathlib.Data.List.TakeWhile
import Mathlib.Data.Nat.Digits.Defs
import StatementShape.Config.Setting
import StatementShape.Proofs.Log.Name

/-!
# How whole numbers are spelled

A text spells a whole number in decimal digits, with a sign in front or none, and with white space
around it. The digits may be of any script, also of several, and zeros in front do not count. An
underscore stands between two digits. What is spelled so is read as its number, unless it has more
digits than a numeral may have; nothing else is read.

## Main definitions

* `IsNumeral`, `numeralValue`: digits with underscores between them, and their value
* `Signed`: numerals with a sign or without one
* `Spells`: the spellings of a whole number

## Main results

* `digitValues_eq_some_iff`: the digits that are read are those of a numeral
* `integerOf?_eq_some_iff`: the whole numbers that are read are those that are spelled
* `hasNumeral_of_integerOf?`: a whole number that is read has a numeral
* `integerOf?_toString`: a whole number is read back, unless its numeral is too long
-/

namespace StatementShape.Config

open Log (decimalValue?_of_isDigit)
open Number (digitValue digitsValue_toDigits hasNumeral hasNumeral_iff isDigit_of_mem_toDigits
  mostDigits toList_toString)
open Setting (digitValues integerOf? isNumberSpace)
open Text (decimalValue? dropEndWhile isDecimal)

/-! ### Spellings -/

/-- The white space of Unicode. The information separators are none of it. -/
def whiteSpace : List Nat := [
  0x9, 0xA, 0xB, 0xC, 0xD, 0x20, 0x85, 0xA0, 0x1680, 0x2000, 0x2001, 0x2002, 0x2003, 0x2004, 0x2005,
  0x2006, 0x2007, 0x2008, 0x2009, 0x200A, 0x2028, 0x2029, 0x202F, 0x205F, 0x3000]

/-- A text of white space. -/
def IsWhite (cs : List Char) : Prop := ∀ c ∈ cs, c.toNat ∈ whiteSpace

/-- Numerals: decimal digits of any script, and underscores, each of them between two digits. -/
structure IsNumeral (cs : List Char) : Prop where
  ne_nil : cs ≠ []
  digits : ∀ c ∈ cs, isDecimal c = true ∨ c = '_'
  between : ∀ front back, cs = front ++ '_' :: back →
    (∃ c ∈ front.getLast?, isDecimal c = true) ∧ ∃ c ∈ back.head?, isDecimal c = true

/-- The value of a numeral, whose last digit is that of the ones. -/
def numeralValue (cs : List Char) : Nat := Nat.ofDigits 10 (cs.filterMap decimalValue?).reverse

/-- Numerals with a sign or without one. -/
inductive Signed : List Char → Int → Prop
  | plain {cs : List Char} (h : IsNumeral cs) : Signed cs (numeralValue cs)
  | plus {cs : List Char} (h : IsNumeral cs) : Signed ('+' :: cs) (numeralValue cs)
  | minus {cs : List Char} (h : IsNumeral cs) : Signed ('-' :: cs) (-(numeralValue cs : Int))

/-- The spellings of a whole number: a numeral with a sign or without one, and white space
around it. -/
def Spells (text : List Char) (n : Int) : Prop :=
  ∃ front core back, text = front ++ (core ++ back) ∧ IsWhite front ∧ IsWhite back ∧ Signed core n

section Characters

variable {c : Char} {cs : List Char}

/-! ### Characters -/

theorem isNumberSpace_iff : isNumberSpace c = true ↔ c.toNat ∈ whiteSpace := by
  simp only [isNumberSpace, Text.isBlank, whiteSpace, Bool.and_eq_true, Bool.or_eq_true,
    Bool.not_eq_true', Bool.and_eq_false_iff, decide_eq_true_eq, decide_eq_false_iff_not,
    beq_iff_eq, List.mem_cons, List.not_mem_nil, or_false]
  omega

theorem isDecimal_of_mem_whiteSpace (h : c.toNat ∈ whiteSpace) : isDecimal c = false := by
  have hall : ∀ n ∈ whiteSpace, isDecimal (.ofNat n) = false := by decide
  rw [← Char.ofNat_toNat c]
  exact hall _ h

theorem isNumberSpace_of_isDecimal (h : isDecimal c = true) : isNumberSpace c = false := by
  rw [Bool.eq_false_iff]
  intro hspace
  rw [isDecimal_of_mem_whiteSpace (isNumberSpace_iff.mp hspace)] at h
  cases h

theorem isDecimal_underscore : isDecimal '_' = false := by decide

theorem isDecimal_plus : isDecimal '+' = false := by decide

theorem isDecimal_minus : isDecimal '-' = false := by decide

/-! ### Numerals -/

/-- A numeral begins with a digit. -/
theorem IsNumeral.head (h : IsNumeral cs) : ∃ c ∈ cs.head?, isDecimal c = true := by
  cases cs with
  | nil => exact absurd rfl h.ne_nil
  | cons c rest =>
    refine ⟨c, rfl, (h.digits c List.mem_cons_self).resolve_right ?_⟩
    rintro rfl
    obtain ⟨⟨d, hd, -⟩, -⟩ := h.between [] rest rfl
    cases hd

/-- A numeral ends with a digit. -/
theorem IsNumeral.last (h : IsNumeral cs) : ∃ c ∈ cs.getLast?, isDecimal c = true := by
  refine ⟨cs.getLast h.ne_nil, List.getLast?_eq_some_getLast h.ne_nil, ?_⟩
  refine (h.digits _ (List.getLast_mem h.ne_nil)).resolve_right fun hlast => ?_
  have heq : cs = cs.dropLast ++ ['_'] := by rw [← hlast, List.dropLast_concat_getLast]
  obtain ⟨-, d, hd, -⟩ := h.between cs.dropLast [] heq
  cases hd

/-- What a numeral ends with is one, if it does not begin with an underscore. -/
theorem IsNumeral.of_append (front : List Char) (h : IsNumeral (front ++ cs)) (hsome : cs ≠ [])
    (hhead : cs.head? ≠ some '_') : IsNumeral cs where
  ne_nil := hsome
  digits c hc := h.digits c (List.mem_append_right front hc)
  between front' back heq := by
    have hfront : front' ≠ [] := by
      rintro rfl
      exact hhead (heq ▸ rfl)
    have hbetween := h.between (front ++ front') back (by rw [heq, List.append_assoc])
    rwa [List.getLast?_append_of_ne_nil _ hfront] at hbetween

/-- A digit in front of a numeral. -/
theorem IsNumeral.cons (h : IsNumeral cs) (hc : isDecimal c = true) : IsNumeral (c :: cs) where
  ne_nil := List.cons_ne_nil _ _
  digits := List.forall_mem_cons.mpr ⟨.inl hc, h.digits⟩
  between front back heq := by
    cases front with
    | nil =>
      cases heq
      cases isDecimal_underscore.symm.trans hc
    | cons b front =>
      cases heq
      obtain ⟨⟨d, hd, hdigit⟩, hback⟩ := h.between front back rfl
      exact ⟨⟨d, List.mem_getLast?_cons hd, hdigit⟩, hback⟩

/-- A digit and an underscore in front of a numeral. -/
theorem IsNumeral.cons_underscore (h : IsNumeral cs) (hc : isDecimal c = true) :
    IsNumeral (c :: '_' :: cs) where
  ne_nil := List.cons_ne_nil _ _
  digits := List.forall_mem_cons.mpr ⟨.inl hc, List.forall_mem_cons.mpr ⟨.inr rfl, h.digits⟩⟩
  between front back heq := by
    -- the underscore is the one in front, or stands in the numeral behind it
    rcases front with - | ⟨b, - | ⟨b', front⟩⟩
    · cases heq
      cases isDecimal_underscore.symm.trans hc
    · cases heq
      exact ⟨⟨c, rfl, hc⟩, h.head⟩
    · cases heq
      obtain ⟨⟨d, hd, hdigit⟩, hback⟩ := h.between front back rfl
      exact ⟨⟨d, List.mem_getLast?_cons (List.mem_getLast?_cons hd), hdigit⟩, hback⟩

theorem isNumeral_singleton : IsNumeral [c] ↔ isDecimal c = true := by
  constructor
  · intro h
    obtain ⟨d, hd, hdigit⟩ := h.head
    cases hd
    exact hdigit
  · intro h
    refine ⟨List.cons_ne_nil _ _, by simp [h], fun front back heq => ?_⟩
    rcases front with - | ⟨b, front⟩
    · cases heq
      cases isDecimal_underscore.symm.trans h
    · simp at heq

theorem isNumeral_cons_underscore :
    IsNumeral (c :: '_' :: cs) ↔ isDecimal c = true ∧ IsNumeral cs := by
  refine ⟨fun h => ?_, fun h => h.2.cons_underscore h.1⟩
  obtain ⟨⟨d, hd, hdigit⟩, e, he, hnext⟩ := h.between [c] cs rfl
  cases hd
  refine ⟨hdigit, IsNumeral.of_append [c, '_'] h (fun hnil => ?_) fun hhead => ?_⟩
  · rw [hnil] at he
    cases he
  · rw [Option.mem_def.mp he] at hhead
    cases hhead
    cases isDecimal_underscore.symm.trans hnext

theorem isNumeral_cons (hsome : cs ≠ []) (hhead : cs.head? ≠ some '_') :
    IsNumeral (c :: cs) ↔ isDecimal c = true ∧ IsNumeral cs := by
  refine ⟨fun h => ?_, fun h => h.2.cons h.1⟩
  obtain ⟨d, hd, hdigit⟩ := h.head
  cases hd
  exact ⟨hdigit, IsNumeral.of_append [c] h hsome hhead⟩

/-- **The digits that are read** are those of a numeral. -/
theorem digitValues_eq_some_iff {ds : List Nat} :
    digitValues cs = some ds ↔ IsNumeral cs ∧ cs.filterMap decimalValue? = ds := by
  have hunderscore : decimalValue? '_' = none := by decide
  -- each case takes one digit, with the underscore behind it if there is one
  induction cs using Setting.digitValues.induct generalizing ds with
  | case1 => exact iff_of_false nofun fun h => h.1.ne_nil rfl
  | case2 c =>
    rw [digitValues, isNumeral_singleton, isDecimal]
    cases hd : decimalValue? c <;> simp [hd]
  | case3 c rest ih =>
    rw [digitValues, isNumeral_cons_underscore, isDecimal]
    cases hd : decimalValue? c with
    | none => simp
    | some d => simp [hd, hunderscore, Option.bind_eq_some_iff, ih]
  | case4 c rest hsome hrest ih =>
    have hhead : rest.head? ≠ some '_' := fun h => by
      obtain ⟨rest, rfl⟩ := List.head?_eq_some_iff.mp h
      exact hrest rest rfl
    rw [digitValues, isNumeral_cons hsome hhead, isDecimal]
    · cases hd : decimalValue? c with
      | none => simp
      | some d => simp [hd, Option.bind_eq_some_iff, ih]
    · exact hsome
    · exact hrest

theorem foldl_eq_numeralValue (cs : List Char) :
    (cs.filterMap decimalValue?).foldl (fun n d => 10 * n + d) 0 = numeralValue cs := by
  rw [numeralValue, Nat.ofDigits_eq_foldr, List.foldr_reverse]
  simp only [Nat.cast_id, Nat.add_comm]

/-! ### Signs -/

/-- The number of digits of a text. -/
def digitCount (cs : List Char) : Nat := cs.countP isDecimal

theorem length_filterMap_decimalValue? (cs : List Char) :
    (cs.filterMap decimalValue?).length = digitCount cs :=
  List.length_filterMap_eq_countP

theorem lt_ten_of_decimalValue? {d : Nat} (h : decimalValue? c = some d) : d < 10 := by
  obtain ⟨z, hz, rfl⟩ := Option.map_eq_some_iff.mp h
  have hrange := List.find?_some hz
  simp only [Bool.and_eq_true, decide_eq_true_eq] at hrange
  omega

/-- The value of a numeral is below a power of ten, by the number of its digits. -/
theorem numeralValue_lt (cs : List Char) : numeralValue cs < 10 ^ digitCount cs := by
  rw [← length_filterMap_decimalValue?, ← List.length_reverse, numeralValue]
  refine Nat.ofDigits_lt_base_pow_length (by decide) fun d hd => ?_
  obtain ⟨c, -, hc⟩ := List.mem_filterMap.mp (List.mem_reverse.mp hd)
  exact lt_ten_of_decimalValue? hc

theorem digitCount_cons (hc : isDecimal c = false) : digitCount (c :: cs) = digitCount cs :=
  List.countP_cons_of_neg (by simp [hc])

/-- A numeral as a number, negative or not. -/
def numberOf? (negative : Bool) (digits : List Char) : Option Int :=
  match digitValues digits with
  | some ds =>
    if ds.length ≤ mostDigits then
      let n : Nat := ds.foldl (fun n d => 10 * n + d) 0
      some (if negative then -(n : Int) else n)
    else none
  | none => none

/-- A numeral behind a sign or without one, as a number. -/
def signedOf? : List Char → Option Int
  | '-' :: rest => numberOf? true rest
  | '+' :: rest => numberOf? false rest
  | rest => numberOf? false rest

theorem numberOf?_eq_some_iff {negative : Bool} {n : Int} :
    numberOf? negative cs = some n ↔
      IsNumeral cs ∧ digitCount cs ≤ mostDigits ∧
        n = if negative then -(numeralValue cs : Int) else numeralValue cs := by
  unfold numberOf?
  split
  · next ds hds =>
    obtain ⟨hnumeral, rfl⟩ := digitValues_eq_some_iff.mp hds
    simp only [length_filterMap_decimalValue?, foldl_eq_numeralValue,
      Option.ite_none_right_eq_some, Option.some.injEq]
    exact ⟨fun h => ⟨hnumeral, h.1, h.2.symm⟩, fun h => ⟨h.2.1, h.2.2.symm⟩⟩
  · next hnone =>
    refine iff_of_false nofun fun h => ?_
    rw [digitValues_eq_some_iff.mpr ⟨h.1, rfl⟩] at hnone
    cases hnone

theorem not_isNumeral_cons (hc : isDecimal c = false) : ¬ IsNumeral (c :: cs) := by
  intro h
  obtain ⟨d, hd, hdigit⟩ := h.head
  cases hd
  cases hc.symm.trans hdigit

theorem signedOf?_eq_some_iff {n : Int} :
    signedOf? cs = some n ↔ Signed cs n ∧ digitCount cs ≤ mostDigits := by
  unfold signedOf?
  -- behind a sign only one way to spell remains, since a numeral does not begin with a sign
  split
  · next rest =>
    rw [numberOf?_eq_some_iff, digitCount_cons isDecimal_minus]
    constructor
    · rintro ⟨hnumeral, hlimit, rfl⟩
      exact ⟨.minus hnumeral, hlimit⟩
    · rintro ⟨hsigned, hlimit⟩
      cases hsigned with
      | plain h => exact absurd h (not_isNumeral_cons isDecimal_minus)
      | minus h => exact ⟨h, hlimit, rfl⟩
  · next rest =>
    rw [numberOf?_eq_some_iff, digitCount_cons isDecimal_plus]
    constructor
    · rintro ⟨hnumeral, hlimit, rfl⟩
      exact ⟨.plus hnumeral, hlimit⟩
    · rintro ⟨hsigned, hlimit⟩
      cases hsigned with
      | plain h => exact absurd h (not_isNumeral_cons isDecimal_plus)
      | plus h => exact ⟨h, hlimit, rfl⟩
  · next hminus hplus =>
    rw [numberOf?_eq_some_iff]
    constructor
    · rintro ⟨hnumeral, hlimit, rfl⟩
      exact ⟨.plain hnumeral, hlimit⟩
    · rintro ⟨hsigned, hlimit⟩
      cases hsigned with
      | plain h => exact ⟨h, hlimit, rfl⟩
      | plus h => exact absurd rfl (hplus _)
      | minus h => exact absurd rfl (hminus _)

end Characters

/-! ### White space -/

section WhiteSpace

variable {text core front back : List Char} {n : Int}

/-- A text without the white space around it. -/
def trimmed (text : List Char) : List Char :=
  dropEndWhile isNumberSpace (text.dropWhile isNumberSpace)

theorem integerOf?_eq (text : List Char) : integerOf? text = signedOf? (trimmed text) := by
  unfold integerOf? trimmed
  generalize dropEndWhile isNumberSpace (text.dropWhile isNumberSpace) = core
  unfold signedOf?
  split
  · rfl
  · rfl
  · next hminus hplus => cases hds : digitValues core <;> simp only [numberOf?, hds]

theorem exists_eq_trimmed (text : List Char) :
    ∃ front back, text = front ++ (trimmed text ++ back) ∧ IsWhite front ∧ IsWhite back := by
  have hwhite : ∀ cs : List Char, IsWhite (cs.takeWhile isNumberSpace) := fun cs c hc =>
    isNumberSpace_iff.mp (List.mem_takeWhile_imp hc)
  -- the white space at the end is in front of the text in reverse
  refine ⟨text.takeWhile isNumberSpace,
    ((text.dropWhile isNumberSpace).reverse.takeWhile isNumberSpace).reverse, ?_, hwhite _,
    fun c hc => hwhite _ c (List.mem_reverse.mp hc)⟩
  rw [trimmed, dropEndWhile, ← List.reverse_append, List.takeWhile_append_dropWhile,
    List.reverse_reverse, List.takeWhile_append_dropWhile]

theorem dropWhile_of_head {cs : List Char} (h : ∃ c ∈ cs.head?, isNumberSpace c = false) :
    cs.dropWhile isNumberSpace = cs := by
  obtain ⟨c, hc, hspace⟩ := h
  obtain ⟨rest, rfl⟩ := List.head?_eq_some_iff.mp hc
  exact List.dropWhile_cons_of_neg (by simp [hspace])

/-- What has no white space at its ends is left of a text with white space around it. -/
theorem trimmed_append (hfront : IsWhite front) (hback : IsWhite back)
    (hhead : ∃ c ∈ core.head?, isNumberSpace c = false)
    (hlast : ∃ c ∈ core.getLast?, isNumberSpace c = false) :
    trimmed (front ++ (core ++ back)) = core := by
  have hspace : ∀ {cs : List Char}, IsWhite cs → ∀ c ∈ cs, isNumberSpace c = true :=
    fun hcs c hc => isNumberSpace_iff.mpr (hcs c hc)
  have hhead' : ∃ c ∈ (core ++ back).head?, isNumberSpace c = false := by
    obtain ⟨c, hc, hns⟩ := hhead
    exact ⟨c, List.mem_head?_append_of_mem_head? hc, hns⟩
  have hback' : IsWhite back.reverse := fun c hc => hback c (List.mem_reverse.mp hc)
  rw [trimmed, List.dropWhile_append_of_pos (hspace hfront), dropWhile_of_head hhead',
    dropEndWhile, List.reverse_append, List.dropWhile_append_of_pos (hspace hback'),
    dropWhile_of_head (by rwa [List.head?_reverse]), List.reverse_reverse]

theorem Signed.ends (h : Signed core n) :
    (∃ c ∈ core.head?, isNumberSpace c = false) ∧ ∃ c ∈ core.getLast?, isNumberSpace c = false := by
  have hdigit : ∀ {o : Option Char}, (∃ c ∈ o, isDecimal c = true) →
      ∃ c ∈ o, isNumberSpace c = false := fun ⟨c, hc, hd⟩ => ⟨c, hc, isNumberSpace_of_isDecimal hd⟩
  have hlast : ∀ {sign : Char} {cs : List Char}, IsNumeral cs →
      ∃ c ∈ (sign :: cs).getLast?, isDecimal c = true := by
    intro sign cs h
    obtain ⟨c, hc, hd⟩ := h.last
    exact ⟨c, List.mem_getLast?_cons hc, hd⟩
  cases h with
  | plain h => exact ⟨hdigit h.head, hdigit h.last⟩
  | plus h => exact ⟨⟨'+', rfl, by decide⟩, hdigit (hlast h)⟩
  | minus h => exact ⟨⟨'-', rfl, by decide⟩, hdigit (hlast h)⟩

theorem digitCount_of_isWhite (h : IsWhite front) : digitCount front = 0 :=
  List.countP_eq_zero.mpr fun c hc => by simp [isDecimal_of_mem_whiteSpace (h c hc)]

theorem digitCount_append (hfront : IsWhite front) (hback : IsWhite back) :
    digitCount (front ++ (core ++ back)) = digitCount core := by
  have h : ∀ cs ds : List Char, digitCount (cs ++ ds) = digitCount cs + digitCount ds :=
    fun _ _ => List.countP_append
  rw [h, h, digitCount_of_isWhite hfront, digitCount_of_isWhite hback]
  omega

/-- **The whole numbers that are read** are those that are spelled, in no more digits than a numeral
may have. -/
theorem integerOf?_eq_some_iff :
    integerOf? text = some n ↔ Spells text n ∧ digitCount text ≤ mostDigits := by
  rw [integerOf?_eq, signedOf?_eq_some_iff]
  constructor
  · rintro ⟨hsigned, hlimit⟩
    obtain ⟨front, back, heq, hfront, hback⟩ := exists_eq_trimmed text
    refine ⟨⟨front, _, back, heq, hfront, hback, hsigned⟩, ?_⟩
    rwa [heq, digitCount_append hfront hback]
  · rintro ⟨⟨front, core, back, rfl, hfront, hback, hsigned⟩, hlimit⟩
    rw [trimmed_append hfront hback hsigned.ends.1 hsigned.ends.2]
    rw [digitCount_append hfront hback] at hlimit
    exact ⟨hsigned, hlimit⟩

/-- A whole number that is read has a numeral. -/
theorem hasNumeral_of_integerOf? (h : integerOf? text = some n) : hasNumeral n = true := by
  rw [integerOf?_eq, signedOf?_eq_some_iff] at h
  obtain ⟨hsigned, hlimit⟩ := h
  rw [hasNumeral_iff]
  refine Nat.lt_of_lt_of_le ?_ (Nat.pow_le_pow_right (by decide) hlimit)
  generalize trimmed text = core at hsigned
  cases hsigned with
  | plain h => exact numeralValue_lt core
  | @plus cs h =>
    rw [digitCount_cons isDecimal_plus]
    exact numeralValue_lt cs
  | @minus cs h =>
    rw [digitCount_cons isDecimal_minus, Int.natAbs_neg]
    exact numeralValue_lt cs

end WhiteSpace

/-! ### Numerals of numbers -/

section Printed

variable {n : Int}

theorem isDecimal_of_mem_toDigits {m : Nat} : ∀ d ∈ Nat.toDigits 10 m, isDecimal d = true := by
  intro d hd
  rw [isDecimal, decimalValue?_of_isDigit (isDigit_of_mem_toDigits d hd)]
  rfl

theorem isNumeral_toDigits (m : Nat) : IsNumeral (Nat.toDigits 10 m) where
  ne_nil := Nat.toDigits_ne_nil
  digits d hd := .inl (isDecimal_of_mem_toDigits d hd)
  between front back heq := by
    have hmem : '_' ∈ Nat.toDigits 10 m := heq ▸ List.mem_append_right front List.mem_cons_self
    cases isDecimal_underscore.symm.trans (isDecimal_of_mem_toDigits _ hmem)

theorem numeralValue_toDigits (m : Nat) : numeralValue (Nat.toDigits 10 m) = m := by
  have hvalues : (Nat.toDigits 10 m).filterMap decimalValue? =
      (Nat.toDigits 10 m).map digitValue := by
    rw [← List.filterMap_eq_map']
    refine List.filterMap_congr fun d hd => ?_
    exact decimalValue?_of_isDigit (isDigit_of_mem_toDigits d hd)
  rw [← foldl_eq_numeralValue, hvalues, List.foldl_map]
  exact digitsValue_toDigits m

theorem digitCount_toDigits (m : Nat) :
    digitCount (Nat.toDigits 10 m) ≤ mostDigits ↔ m < 10 ^ mostDigits := by
  rw [digitCount, List.countP_eq_length.mpr isDecimal_of_mem_toDigits]
  exact Nat.length_toDigits_le_iff (by decide) (by decide)

/-- A whole number is spelled by its numeral. -/
theorem spells_toString (n : Int) : Spells (toString n).toList n := by
  refine ⟨[], _, [], (List.append_nil _).symm, nofun, nofun, ?_⟩
  rw [toList_toString]
  split
  · next hneg =>
    have hsigned := Signed.minus (isNumeral_toDigits n.natAbs)
    rwa [numeralValue_toDigits, Int.ofNat_natAbs_of_nonpos (Int.le_of_lt hneg), Int.neg_neg]
      at hsigned
  · next hpos =>
    have hsigned := Signed.plain (isNumeral_toDigits n.natAbs)
    rwa [numeralValue_toDigits, Int.natAbs_of_nonneg (Int.not_lt.mp hpos)] at hsigned

/-- **A whole number is read back** from its numeral, unless that is too long. -/
theorem integerOf?_toString (h : 0 ≤ n) :
    integerOf? (toString n).toList = some n ↔ n < 10 ^ mostDigits := by
  rw [integerOf?_eq_some_iff, and_iff_right (spells_toString n), toList_toString,
    if_neg (Int.not_lt.mpr h), digitCount_toDigits]
  obtain ⟨m, rfl⟩ := Int.eq_ofNat_of_zero_le h
  exact_mod_cast Iff.rfl

end Printed

end StatementShape.Config
