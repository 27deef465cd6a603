import StatementShape.Config.File
import StatementShape.Proofs.Number.Numeral

/-!
# Literals

Truth values, whole numbers and strings are written as literals, each at the end of its line. Read
back, a literal gives its value, and leaves the end of the line. A numeral could be the beginning of
a date or a time, and a string that of a string over several lines; what stands behind them says
that they are not.

## Main definitions

* `Plain`: values that are read back from their literals

## Main results

* `basicString_escapeQuotes`: an escaped string is read back
* `numberIn_toString`: a numeral is read back, and is neither a date nor a time
* `valueIn_literal`: every plain value is read back from its literal
-/

namespace StatementShape.Toml

open Calendar (digitsOf)
open Config (Value escapeQuotes literal)
open Number (digitsValue digitsValue_toDigits exists_cons_toDigits exists_cons_toString hasNumeral
  head?_toDigits isDigit_of_mem_toDigits toList_toString)

/-! ### Strings -/

section Strings

variable {s rest : List Char}

@[simp] theorem escapeQuotes_nil : escapeQuotes [] = [] := rfl

theorem escapeQuotes_cons (c : Char) (s : List Char) :
    escapeQuotes (c :: s) =
      (if c = '\\' ∨ c = '"' then ['\\', c] else [c]) ++ escapeQuotes s := rfl

/-- A character that needs no escape stands for itself. -/
theorem basicString_cons {c : Char} (hbackslash : c ≠ '\\') (hquote : c ≠ '"')
    (hc : isControl c = false) (fuel : Nat) (cs : List Char) :
    basicString (fuel + 1) (c :: cs) =
      (basicString fuel cs).map fun (s, rest) => (c :: s, rest) := by
  rw [basicString]
  · simp [hc]
  · exact hquote
  · exact hbackslash

/-- **An escaped string** is read back up to the quote behind it. -/
theorem basicString_escapeQuotes (h : ∀ c ∈ s, isControl c = false) {fuel : Nat}
    (hfuel : (escapeQuotes s).length < fuel) :
    basicString fuel (escapeQuotes s ++ '"' :: rest) = some (s, rest) := by
  induction s generalizing fuel with
  | nil =>
    obtain ⟨fuel, rfl⟩ := Nat.exists_eq_add_one_of_ne_zero (Nat.ne_zero_of_lt hfuel)
    rfl
  | cons c s ih =>
    obtain ⟨fuel, rfl⟩ := Nat.exists_eq_add_one_of_ne_zero (Nat.ne_zero_of_lt hfuel)
    have hc : isControl c = false := h c List.mem_cons_self
    have hs : ∀ d ∈ s, isControl d = false := fun d hd => h d (List.mem_cons_of_mem c hd)
    rw [escapeQuotes_cons] at hfuel ⊢
    split
    · next hquoted =>
      rw [if_pos hquoted, List.length_append] at hfuel
      have ih := ih hs (show (escapeQuotes s).length < fuel by simp at hfuel; omega)
      rcases hquoted with rfl | rfl <;> simp [basicString, escapeIn, ih]
    · next hplain =>
      rw [if_neg hplain, List.length_append] at hfuel
      have ih := ih hs (show (escapeQuotes s).length < fuel by simp at hfuel; omega)
      obtain ⟨hbackslash, hquote⟩ := not_or.mp hplain
      rw [List.append_assoc, List.singleton_append, basicString_cons hbackslash hquote hc, ih]
      rfl

/-- A string between quotes is one on a single line, also if it is empty: behind the quotes the
line ends. -/
theorem stringIn_quoted (h : ∀ c ∈ s, isControl c = false) :
    stringIn ('"' :: (escapeQuotes s ++ '"' :: '\n' :: rest)) = some (s, '\n' :: rest) := by
  have hshort : shortString ('"' :: (escapeQuotes s ++ '"' :: '\n' :: rest)) =
      some (s, '\n' :: rest) :=
    basicString_escapeQuotes h (by simp only [List.length_append]; omega)
  -- three quotes would begin a string over several lines
  cases s with
  | nil => rfl
  | cons c s =>
    rw [← hshort, escapeQuotes_cons]
    split
    · rfl
    · next hplain =>
      obtain ⟨-, hquote⟩ := not_or.mp hplain
      simp [stringIn, hquote]

end Strings

/-! ### Numerals -/

section Numerals

variable {ds rest cs : List Char} {n k least most : Nat}

/-- A digit is taken with those behind it. -/
theorem moreDigits_cons {d : Char} (hd : d.isDigit = true) (ds : List Char) :
    moreDigits Char.isDigit (d :: ds) =
      (d :: (moreDigits Char.isDigit ds).1, (moreDigits Char.isDigit ds).2) := by
  have hne : d ≠ '_' := by
    rintro rfl
    cases hd
  rw [moreDigits]
  · simp [hd]
  · exact fun _ _ h => absurd h hne

/-- Digits are taken up to the end of the line. -/
theorem moreDigits_append (hds : ∀ d ∈ ds, d.isDigit = true) :
    moreDigits Char.isDigit (ds ++ '\n' :: rest) = (ds, '\n' :: rest) := by
  induction ds with
  | nil => simp [moreDigits]
  | cons d ds ih =>
    rw [List.cons_append, moreDigits_cons (hds d List.mem_cons_self),
      ih fun e he => hds e (List.mem_cons_of_mem d he)]

theorem digitRun_append (hds : ∀ d ∈ ds, d.isDigit = true) (some : ds ≠ []) :
    digitRun Char.isDigit (ds ++ '\n' :: rest) = .some (ds, '\n' :: rest) := by
  obtain ⟨d, ds, rfl⟩ := List.exists_cons_of_ne_nil some
  have hmore : moreDigits Char.isDigit (ds ++ '\n' :: rest) = (ds, '\n' :: rest) :=
    moreDigits_append fun e he => hds e (List.mem_cons_of_mem d he)
  simp [digitRun, hds d List.mem_cons_self, hmore]

/-- The whole part of a numeral is all of it. -/
theorem wholeIn_toDigits (n : Nat) :
    wholeIn (Nat.toDigits 10 n ++ '\n' :: rest) = some (Nat.toDigits 10 n, '\n' :: rest) := by
  by_cases hn : n = 0
  · subst hn
    rfl
  · have hrun := @digitRun_append _ rest (@isDigit_of_mem_toDigits n) Nat.toDigits_ne_nil
    obtain ⟨d, ds, hds, -⟩ := exists_cons_toDigits n
    have hzero : d ≠ '0' := by
      have hhead := head?_toDigits hn
      rw [hds] at hhead
      simpa using hhead
    rw [hds] at hrun ⊢
    simpa [wholeIn, hzero] using hrun

/-- Behind its sign a numeral is a whole number: neither a point nor an exponent follows. -/
theorem decimalIn_of_signIn {negative : Bool}
    (h : signIn cs = (negative, Nat.toDigits 10 n ++ '\n' :: rest)) :
    decimalIn cs = some (.integer (if negative then -(n : Int) else n), '\n' :: rest) := by
  simp [decimalIn, h, wholeIn_toDigits, exponentIn, digitsValue_toDigits]

/-- Behind some of the digits in front of the end of a line there is a digit, or that end. -/
theorem digitsOf_append (hds : ∀ d ∈ ds, d.isDigit = true) {v : Nat}
    (h : digitsOf k (ds ++ '\n' :: rest) = some (v, cs)) :
    ∃ c more, cs = c :: more ∧ (c.isDigit = true ∨ c = '\n') := by
  simp only [digitsOf, Option.ite_none_right_eq_some, Option.some.injEq, Prod.mk.injEq] at h
  obtain ⟨⟨hlength, hall⟩, -, rfl⟩ := h
  -- were the digits too few, the end of the line would have to be one of them
  have hle : k ≤ ds.length := by
    refine Nat.le_of_not_lt fun hlt => ?_
    have hmem : '\n' ∈ (ds ++ '\n' :: rest).take k := by
      rw [List.take_append, List.mem_append]
      obtain ⟨j, hj⟩ : ∃ j, k - ds.length = j + 1 := ⟨k - ds.length - 1, by omega⟩
      exact .inr (by rw [hj, List.take_succ_cons]; exact List.mem_cons_self)
    cases List.all_eq_true.mp hall _ hmem
  rw [List.drop_append_of_le_length hle]
  cases hdrop : ds.drop k with
  | nil => exact ⟨'\n', rest, rfl, .inr rfl⟩
  | cons d more =>
    have hd : d ∈ ds := List.mem_of_mem_drop (hdrop ▸ List.mem_cons_self)
    exact ⟨d, _, rfl, .inl (hds d hd)⟩

theorem digitsOf_dash (k : Nat) (cs : List Char) : digitsOf (k + 1) ('-' :: cs) = none := by
  simp [digitsOf]

theorem markedDigits_of_ne {mark c : Char} (h : c ≠ mark) (more : List Char) :
    markedDigits mark least most (c :: more) = none := if_neg h

theorem twoDigits_eq_some {p : Nat × List Char} (h : twoDigits least most cs = some p) :
    digitsOf 2 cs = some p := by
  unfold twoDigits at h
  split at h
  · next heq =>
    split at h
    · rw [heq, h]
    · cases h
  · cases h

/-- A numeral is no date: no dash follows on its digits. -/
theorem dateIn_append (hds : ∀ d ∈ ds, d.isDigit = true) : dateIn (ds ++ '\n' :: rest) = none := by
  unfold dateIn
  cases h : digitsOf 4 (ds ++ '\n' :: rest) with
  | none => rfl
  | some p =>
    obtain ⟨c, more, hcs, hc⟩ := digitsOf_append hds h
    have hne : c ≠ '-' := by
      rintro rfl
      rcases hc with hc | hc <;> cases hc
    simp [hcs, markedDigits_of_ne hne]

/-- A numeral is no time: no colon follows on its digits. -/
theorem timeIn_append (hds : ∀ d ∈ ds, d.isDigit = true) : timeIn (ds ++ '\n' :: rest) = none := by
  unfold timeIn
  cases h : twoDigits 0 23 (ds ++ '\n' :: rest) with
  | none => rfl
  | some p =>
    obtain ⟨c, more, hcs, hc⟩ := digitsOf_append hds (twoDigits_eq_some h)
    have hne : c ≠ ':' := by
      rintro rfl
      rcases hc with hc | hc <;> cases hc
    simp [hcs, markedDigits_of_ne hne]

/-- A text that does not begin with a zero is no number of a base. -/
theorem basedIn_of_ne {c : Char} (hc : c ≠ '0') (cs : List Char) : basedIn (c :: cs) = none := by
  rw [basedIn]
  exact fun _ _ h => hc (List.cons.inj h).1

theorem isDigitOf_zero (c : Char) : isDigitOf 0 c = false := by
  simp [isDigitOf]

/-- A numeral is no number of a base, also if it is that of zero. -/
theorem basedIn_toDigits (n : Nat) : basedIn (Nat.toDigits 10 n ++ '\n' :: rest) = none := by
  by_cases hn : n = 0
  · subst hn
    cases rest with
    | nil => rfl
    | cons c rest => simp [basedIn, digitRun, isDigitOf_zero]
  · obtain ⟨d, ds, hds, -⟩ := exists_cons_toDigits n
    have hhead := head?_toDigits hn
    rw [hds] at hhead ⊢
    exact basedIn_of_ne (by simpa using hhead) _

theorem signIn_of_isDigit {d : Char} (hd : d.isDigit = true) (ds : List Char) :
    signIn (d :: ds) = (false, d :: ds) := by
  rw [signIn]
  · rintro _ h
    cases h
    cases hd
  · rintro _ h
    cases h
    cases hd

/-- What is no number of a base is read as a decimal number, if that has a numeral. -/
theorem numberIn_of_decimalIn {v : Value} (hbase : basedIn cs = none)
    (hdecimal : decimalIn cs = some (v, rest)) (hnumerals : v.hasNumerals = true) :
    numberIn cs = .ok (v, rest) := by
  simp [numberIn, hbase, hdecimal, hnumerals]

/-- **The numeral of an integer** is read back, and is neither a date nor a time. -/
theorem numberIn_toString {i : Int} (h : hasNumeral i = true) :
    numberIn ((toString i).toList ++ '\n' :: rest) = .ok (.integer i, '\n' :: rest) ∧
      dateIn ((toString i).toList ++ '\n' :: rest) = none ∧
      timeIn ((toString i).toList ++ '\n' :: rest) = none := by
  rw [toList_toString]
  split
  · next hneg =>
    have hsign : signIn ('-' :: (Nat.toDigits 10 i.natAbs ++ '\n' :: rest)) =
        (true, Nat.toDigits 10 i.natAbs ++ '\n' :: rest) := rfl
    have hvalue : -(i.natAbs : Int) = i := by omega
    refine ⟨?_, ?_, ?_⟩
    · refine numberIn_of_decimalIn (basedIn_of_ne (by decide) _) ?_ h
      rw [List.cons_append, decimalIn_of_signIn hsign, if_pos rfl, hvalue]
    · rw [List.cons_append, dateIn, digitsOf_dash]
      rfl
    · rw [List.cons_append, timeIn, twoDigits, digitsOf_dash]
      rfl
  · next hpos =>
    obtain ⟨d, ds, hds, hd⟩ := exists_cons_toDigits i.natAbs
    have hsign : signIn (Nat.toDigits 10 i.natAbs ++ '\n' :: rest) =
        (false, Nat.toDigits 10 i.natAbs ++ '\n' :: rest) := by
      rw [hds]
      exact signIn_of_isDigit hd _
    have hvalue : (i.natAbs : Int) = i := by omega
    refine ⟨?_, dateIn_append isDigit_of_mem_toDigits, timeIn_append isDigit_of_mem_toDigits⟩
    refine numberIn_of_decimalIn (basedIn_toDigits _) ?_ h
    rw [decimalIn_of_signIn hsign, if_neg Bool.false_ne_true, hvalue]

end Numerals

/-! ### Values -/

/-- Plain values are read back from their literals: truth values, whole numbers with a numeral, and
strings without control characters. -/
inductive Plain : Value → Prop
  | bool (b : Bool) : Plain (.bool b)
  | integer {n : Int} (h : hasNumeral n = true) : Plain (.integer n)
  | string {s : List Char} (h : ∀ c ∈ s, isControl c = false) : Plain (.string s)

theorem Plain.hasNumerals {v : Value} (h : Plain v) : v.hasNumerals = true := by
  cases h with
  | bool => rfl
  | integer h => exact h
  | string => rfl

/-- A value that begins like a number is a number, if it is neither a date nor a time. -/
theorem valueIn_of_numberIn {c : Char} {cs : List Char} (hc : c.isDigit = true ∨ c = '-')
    (hdate : dateIn (c :: cs) = none) (htime : timeIn (c :: cs) = none) (fuel : Nat) :
    valueIn (fuel + 1) (c :: cs) = numberIn (c :: cs) := by
  have hne : ∀ d : Char, d.isDigit = false → d ≠ '-' → c ≠ d := by
    rintro d hd hdash rfl
    rcases hc with hc | hc
    · rw [hd] at hc
      cases hc
    · exact hdash hc
  have hstring : ¬ (c = '"' ∨ c = '\'') :=
    not_or.mpr ⟨hne '"' rfl (by decide), hne '\'' rfl (by decide)⟩
  have hdateTime : dateTimeIn (c :: cs) = none := by
    rw [dateTimeIn, hdate]
    rfl
  rw [valueIn]
  · simp only [hstring, hdateTime, htime, if_false]
  · exact fun _ h => absurd h (hne 't' rfl (by decide))
  · exact fun _ h => absurd h (hne 'f' rfl (by decide))
  · exact hne '[' rfl (by decide)
  · exact hne '\x7b' rfl (by decide)

/-- **A plain value** is read back from its literal at the end of a line. -/
theorem valueIn_literal {v : Value} (h : Plain v) (fuel : Nat) (rest : List Char) :
    valueIn (fuel + 1) (literal v ++ '\n' :: rest) = .ok (v, '\n' :: rest) := by
  cases h with
  | bool b =>
    cases b
    · simp [literal, Report.boolText, valueIn]
    · simp [literal, Report.boolText, valueIn]
  | @integer n h =>
    obtain ⟨hnumber, hdate, htime⟩ := @numberIn_toString rest n h
    obtain ⟨c, cs, hcs, hc⟩ := exists_cons_toString n
    rw [literal]
    rw [hcs, List.cons_append] at hnumber hdate htime ⊢
    rw [valueIn_of_numberIn hc hdate htime, hnumber]
  | @string s h =>
    have hstring : stringIn ('"' :: (escapeQuotes s ++ '"' :: '\n' :: rest)) =
        some (s, '\n' :: rest) := stringIn_quoted h
    simp [literal, Value.plain, valueIn, hstring, orMalformed]

/-- A literal does not begin with a blank. -/
theorem skipBlanks_literal {v : Value} (h : Plain v) (rest : List Char) :
    skipBlanks (literal v ++ rest) = literal v ++ rest := by
  have key : ∀ {c : Char}, isBlank c = false → ∀ cs, skipBlanks (c :: cs) = c :: cs := by
    intro c hc cs
    simp [skipBlanks, hc]
  cases h with
  | bool b => cases b <;> exact key rfl _
  | @integer n =>
    obtain ⟨c, cs, hcs, hc⟩ := exists_cons_toString n
    rw [literal, hcs]
    refine key ?_ _
    rw [isBlank, Bool.or_eq_false_iff, decide_eq_false_iff_not, decide_eq_false_iff_not]
    constructor <;> rintro rfl <;> rcases hc with hc | hc <;> cases hc
  | string => exact key rfl _

theorem mem_of_mem_escapeQuotes {s : List Char} {c : Char} (h : c ∈ escapeQuotes s) :
    c = '\\' ∨ c ∈ s := by
  obtain ⟨d, hd, hc⟩ := List.mem_flatMap.mp h
  split at hc
  · rcases List.mem_cons.mp hc with rfl | hc
    · exact .inl rfl
    · exact .inr (List.mem_singleton.mp hc ▸ hd)
  · exact .inr (List.mem_singleton.mp hc ▸ hd)

/-- A literal has no carriage return in it. -/
theorem return_not_mem_literal {v : Value} (h : Plain v) : '\r' ∉ literal v := by
  cases h with
  | bool b => cases b <;> decide
  | @integer n =>
    rw [literal, toList_toString]
    have hdigits : '\r' ∉ Nat.toDigits 10 n.natAbs := by
      intro hc
      cases isDigit_of_mem_toDigits _ hc
    split
    · exact List.not_mem_cons_of_ne_of_not_mem (by decide) hdigits
    · exact hdigits
  | @string s h =>
    intro hc
    have hc : '\r' ∈ '"' :: (escapeQuotes s ++ ['"']) := hc
    simp only [List.mem_cons, List.mem_append, List.not_mem_nil, or_false] at hc
    rcases hc with hc | hc | hc
    · cases hc
    · rcases mem_of_mem_escapeQuotes hc with hc | hc
      · cases hc
      · cases h _ hc
    · cases hc

end StatementShape.Toml
