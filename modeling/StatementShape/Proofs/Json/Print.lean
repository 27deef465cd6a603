import StatementShape.Json.Print
import StatementShape.Json.Read
import StatementShape.Proofs.Json.Escape
import StatementShape.Proofs.Number.Numeral

/-!
# Written values are read back

However its parts are spaced, a written value is read back as itself, and what stands behind it is
left. Only behind a number does it matter what that is: a digit, a point or an exponent would belong
to the number. Between the parts of a list stand commas and brackets, so that within a value the
question does not arise.

## Main definitions

* `EndsNumber`: texts that do not go on a number
* `ReadsBack`: with so much fuel, written values, items and members are read back

## Main results

* `number?_integerText`, `number?_decimalText`: numbers are read back
* `ReadsBack.succ`: one more turn reads one level more
* `decode_print`: every value is decoded from its written form, whatever the spacing
* `visible_of_mem_line`: a value on one line is visible throughout
-/

namespace StatementShape.Json

open Number (Decimal digitsValue digitsValue_toDigits exists_cons_toDigits exists_cons_toString
  head?_toDigits isDigit_of_mem_toDigits toList_toString)

/-! ### Numbers -/

/-- Texts that do not go on a number: they begin with no digit, no point and no exponent. -/
def EndsNumber (rest : List Char) : Prop :=
  ∀ c ∈ rest.head?, c.isDigit = false ∧ c ≠ '.' ∧ c ≠ 'e' ∧ c ≠ 'E'

section Numbers

variable {ds rest : List Char} {n : Nat}

/-- Digits are taken up to the first character that is none. -/
theorem digits?_append (hds : ∀ d ∈ ds, d.isDigit = true) (hne : ds ≠ [])
    (hrest : ∀ c ∈ rest.head?, c.isDigit = false) : digits? (ds ++ rest) = some (ds, rest) := by
  obtain ⟨htake, hdrop⟩ :
      rest.takeWhile Char.isDigit = [] ∧ rest.dropWhile Char.isDigit = rest := by
    cases rest with
    | nil => exact ⟨rfl, rfl⟩
    | cons c rest =>
      have hc : c.isDigit = false := hrest c rfl
      simp [hc]
  simp [digits?, List.takeWhile_append_of_pos hds, List.dropWhile_append_of_pos hds, htake, hdrop,
    hne]

theorem digits?_toDigits (hrest : ∀ c ∈ rest.head?, c.isDigit = false) :
    digits? (Nat.toDigits 10 n ++ rest) = some (Nat.toDigits 10 n, rest) :=
  digits?_append isDigit_of_mem_toDigits Nat.toDigits_ne_nil hrest

/-- A zero in front of a numeral is all of it. -/
theorem eq_nil_of_toDigits {ds : List Char} (h : Nat.toDigits 10 n = '0' :: ds) : ds = [] := by
  by_cases hn : n = 0
  · subst hn
    exact (List.cons.inj h).2.symm
  · exact absurd (congrArg List.head? h) (head?_toDigits hn)

theorem fraction?_of_endsNumber (h : EndsNumber rest) : fraction? rest = none := by
  unfold fraction?
  split
  · exact absurd rfl (h '.' rfl).2.1
  · rfl

theorem exponent?_of_endsNumber (h : EndsNumber rest) : exponent? rest = none := by
  cases rest with
  | nil => rfl
  | cons c rest =>
    obtain ⟨-, -, hlower, hupper⟩ := h c rfl
    exact if_neg (not_or.mpr ⟨hlower, hupper⟩)

/-- An exponent is read back. -/
theorem exponent?_integerText (e : Int) (h : EndsNumber rest) :
    exponent? ('e' :: (integerText e ++ rest)) = some (e, rest) := by
  have hdigits := digits?_toDigits (n := e.natAbs) fun c hc => (h c hc).1
  rw [integerText, toList_toString]
  split
  · next hneg =>
    have hvalue : -(e.natAbs : Int) = e := by omega
    generalize e.natAbs = n at hdigits hvalue
    simp [exponent?, hdigits, digitsValue_toDigits, hvalue]
  · next hpos =>
    have hvalue : (e.natAbs : Int) = e := by omega
    generalize e.natAbs = n at hdigits hvalue
    obtain ⟨d, ds, hds, hd⟩ := exists_cons_toDigits n
    rw [hds] at hdigits ⊢
    have hdash : d ≠ '-' := by rintro rfl; cases hd
    have hplus : d ≠ '+' := by rintro rfl; cases hd
    have hnumber := digitsValue_toDigits n
    rw [hds] at hnumber
    simp only [List.cons_append] at hdigits
    simp [exponent?, hdash, hplus, hdigits, hnumber, hvalue]

/-- Behind its digits a number ends, or has an exponent. -/
theorem number?_toDigits (negative : Bool) (n : Nat) (hdigit : ∀ c ∈ rest.head?, c.isDigit = false)
    (hpoint : fraction? rest = none) :
    number? ((if negative then ['-'] else []) ++ Nat.toDigits 10 n ++ rest) =
      match exponent? rest with
      | some (e, rest) => some (.decimal ⟨negative, n, e⟩, rest)
      | none => some (.integer (if negative then -(n : Int) else n), rest) := by
  have hdigits := digits?_toDigits (n := n) hdigit
  have hvalue := digitsValue_toDigits n
  obtain ⟨d, ds, hds, hd⟩ := exists_cons_toDigits n
  have hdash : d ≠ '-' := by rintro rfl; cases hd
  have hzero : d = '0' → ds = [] := by
    rintro rfl
    exact eq_nil_of_toDigits hds
  rw [hds] at hdigits hvalue ⊢
  rw [List.cons_append] at hdigits
  cases hexponent : exponent? rest with
  | none =>
    cases negative <;> simpa [number?, hdash, hdigits, hpoint, hexponent, hvalue] using hzero
  | some p =>
    cases negative <;> simpa [number?, hdash, hdigits, hpoint, hexponent, hvalue] using hzero

/-- **A whole number** is read back. -/
theorem number?_integerText (i : Int) (h : EndsNumber rest) :
    number? (integerText i ++ rest) = some (.integer i, rest) := by
  have hnumber := number?_toDigits (decide (i < 0)) i.natAbs (fun c hc => (h c hc).1)
    (fraction?_of_endsNumber h)
  have htext : integerText i =
      (if decide (i < 0) then ['-'] else []) ++ Nat.toDigits 10 i.natAbs := by
    rw [integerText, toList_toString]
    by_cases hneg : i < 0 <;> simp [hneg]
  have hvalue : (if decide (i < 0) then -(i.natAbs : Int) else i.natAbs) = i := by
    by_cases hneg : i < 0
    · rw [if_pos (decide_eq_true hneg)]
      omega
    · rw [if_neg (by simpa using hneg)]
      omega
  rw [htext, hnumber, exponent?_of_endsNumber h, hvalue]

/-- **A number with an exponent** is read back. -/
theorem number?_decimalText (d : Decimal) (h : EndsNumber rest) :
    number? (decimalText d ++ rest) = some (.decimal d, rest) := by
  have hdigit : ∀ c ∈ ('e' :: (integerText d.exponent ++ rest)).head?, c.isDigit = false := by
    rintro c ⟨⟩
    rfl
  have hnumber := number?_toDigits d.negative d.digits hdigit rfl
  have htext : decimalText d ++ rest = (if d.negative then ['-'] else []) ++
      Nat.toDigits 10 d.digits ++ 'e' :: (integerText d.exponent ++ rest) := by
    simp [decimalText]
  rw [htext, hnumber, exponent?_integerText d.exponent h]

end Numbers

/-! ### Spaces -/

/-- Spaces between the parts of a value. -/
def Spaces (cs : List Char) : Prop := ∀ c ∈ cs, isSpace c = true

section Spacing

variable {ws cs rest : List Char}

theorem spaces_lineBreak (depth : Nat) : Spaces (lineBreak depth) := by
  intro c hc
  rcases List.mem_cons.mp hc with rfl | hc
  · rfl
  · rw [(List.mem_replicate.mp hc).2]
    rfl

theorem Spacing.spaces_first (s : Spacing) (depth : Nat) : Spaces (s.first depth) := by
  cases s with
  | lines => exact spaces_lineBreak depth
  | tight | loose => exact fun _ h => nomatch h

theorem Spacing.spaces_last (s : Spacing) (depth : Nat) : Spaces (s.last depth) := by
  cases s with
  | lines => exact spaces_lineBreak depth
  | tight | loose => exact fun _ h => nomatch h

/-- Between two parts stand a comma and spaces. -/
theorem Spacing.exists_between (s : Spacing) (depth : Nat) :
    ∃ ws, s.between depth = ',' :: ws ∧ Spaces ws := by
  cases s with
  | tight => exact ⟨[], rfl, fun _ h => nomatch h⟩
  | loose => exact ⟨[' '], rfl, List.forall_mem_singleton.mpr rfl⟩
  | lines => exact ⟨lineBreak depth, rfl, spaces_lineBreak depth⟩

/-- Between a key and its value stand a colon and spaces. -/
theorem Spacing.exists_colon (s : Spacing) : ∃ ws, s.colon = ':' :: ws ∧ Spaces ws := by
  cases s with
  | tight => exact ⟨[], rfl, fun _ h => nomatch h⟩
  | loose | lines => exact ⟨[' '], rfl, List.forall_mem_singleton.mpr rfl⟩

theorem skipSpace_append (h : Spaces ws) (cs : List Char) : skipSpace (ws ++ cs) = skipSpace cs :=
  List.dropWhile_append_of_pos h

theorem skipSpace_cons {c : Char} (hc : isSpace c = false) (cs : List Char) :
    skipSpace (c :: cs) = c :: cs := by
  simp [skipSpace, hc]

/-- Spaces in front of a value do not matter. -/
theorem read_append (h : Spaces ws) (cs : List Char) (fuel : Nat) :
    read fuel (ws ++ cs) = read fuel cs := by
  cases fuel with
  | zero => rfl
  | succ fuel => rw [read, read, skipSpace_append h]

theorem readItems_append (h : Spaces ws) (cs : List Char) (fuel : Nat) :
    readItems fuel (ws ++ cs) = readItems fuel cs := by
  cases fuel with
  | zero => rfl
  | succ fuel => rw [readItems, readItems, read_append h]

theorem readMembers_append (h : Spaces ws) (cs : List Char) (fuel : Nat) :
    readMembers fuel (ws ++ cs) = readMembers fuel cs := by
  cases fuel with
  | zero => rfl
  | succ fuel => rw [readMembers, readMembers, skipSpace_append h]

/-- A comma or a bracket ends a number. -/
theorem endsNumber_cons {c : Char} (hc : c ∈ [',', ']', '\x7d']) : EndsNumber (c :: rest) := by
  rintro d ⟨⟩
  simp only [List.mem_cons, List.not_mem_nil, or_false] at hc
  rcases hc with rfl | rfl | rfl <;> decide

theorem endsNumber_append (h : Spaces ws) {c : Char} (hc : c ∈ [',', ']', '\x7d']) :
    EndsNumber (ws ++ c :: rest) := by
  cases ws with
  | nil => exact endsNumber_cons hc
  | cons w ws =>
    rintro d ⟨⟩
    have hw : isSpace w = true := h w List.mem_cons_self
    simp only [isSpace, Bool.or_eq_true, decide_eq_true_eq] at hw
    rcases hw with ((rfl | rfl) | rfl) | rfl <;> decide

end Spacing

/-! ### Values -/

section Values

variable {s : Spacing} {depth fuel : Nat} {rest : List Char}

/-- The first character of a number is none of the others. -/
theorem ne_of_number {c d : Char} (hc : c.isDigit = true ∨ c = '-') (hd : d.isDigit = false)
    (hdash : d ≠ '-') : c ≠ d := by
  rintro rfl
  rcases hc with hc | hc
  · rw [hd] at hc
    cases hc
  · exact hdash hc

theorem isSpace_of_number {c : Char} (hc : c.isDigit = true ∨ c = '-') : isSpace c = false := by
  have hne : ∀ d : Char, d.isDigit = false → d ≠ '-' → c ≠ d := fun _ => ne_of_number hc
  simp [isSpace, hne ' ' rfl (by decide), hne '\n' rfl (by decide), hne '\r' rfl (by decide),
    hne '\t' rfl (by decide)]

/-- A value that begins like a number is one. -/
theorem read_of_number {c : Char} (hc : c.isDigit = true ∨ c = '-') (cs : List Char) (fuel : Nat) :
    read (fuel + 1) (c :: cs) = number? (c :: cs) := by
  have hne : ∀ d : Char, d.isDigit = false → d ≠ '-' → c ≠ d := fun _ => ne_of_number hc
  rw [read, skipSpace_cons (isSpace_of_number hc)]
  split
  · next h => exact absurd (List.cons.inj h).1 (hne 'n' rfl (by decide))
  · next h => exact absurd (List.cons.inj h).1 (hne 't' rfl (by decide))
  · next h => exact absurd (List.cons.inj h).1 (hne 'f' rfl (by decide))
  · next h => exact absurd (List.cons.inj h).1 (hne '"' rfl (by decide))
  · next h => exact absurd (List.cons.inj h).1 (hne '[' rfl (by decide))
  · next h => exact absurd (List.cons.inj h).1 (hne '\x7b' rfl (by decide))
  · rfl

/-- A string is read back. -/
theorem read_encodeString (t : List Char) (rest : List Char) (fuel : Nat) :
    read (fuel + 1) (encodeString t ++ rest) = some (.string t, rest) := by
  have hstring : decodeString ((t.flatMap escape ++ '"' :: rest).length + 1)
      (t.flatMap escape ++ '"' :: rest) = some (t, rest) :=
    decodeString_flatMap_escape t rest (by rw [List.length_append]; omega)
  have htext : encodeString t ++ rest = '"' :: (t.flatMap escape ++ '"' :: rest) := by
    simp [encodeString]
  rw [htext, read, skipSpace_cons rfl]
  simp only [hstring, Option.map_some]

theorem exists_cons_decimalText (d : Decimal) :
    ∃ c cs, decimalText d = c :: cs ∧ (c.isDigit = true ∨ c = '-') := by
  obtain ⟨c, cs, hcs, hc⟩ := exists_cons_toDigits d.digits
  rw [decimalText]
  cases d.negative with
  | true => exact ⟨'-', _, rfl, .inr rfl⟩
  | false => exact ⟨c, cs ++ 'e' :: integerText d.exponent, by simp [hcs], .inl hc⟩

/-- A written value begins neither with a space nor with a closing bracket. -/
theorem exists_cons_print (s : Spacing) (depth : Nat) (v : Json) :
    ∃ c cs, print s depth v = c :: cs ∧ isSpace c = false ∧ c ≠ ']' := by
  have hnumber (c : Char) (hc : c.isDigit = true ∨ c = '-') : isSpace c = false ∧ c ≠ ']' :=
    ⟨isSpace_of_number hc, ne_of_number hc rfl (by decide)⟩
  cases v with
  | null => exact ⟨'n', _, rfl, rfl, by decide⟩
  | bool b => cases b <;> exact ⟨_, _, rfl, rfl, by decide⟩
  | integer i =>
    obtain ⟨c, cs, hcs, hc⟩ := exists_cons_toString i
    exact ⟨c, cs, hcs, hnumber c hc⟩
  | decimal d =>
    obtain ⟨c, cs, hcs, hc⟩ := exists_cons_decimalText d
    exact ⟨c, cs, hcs, hnumber c hc⟩
  | string t => exact ⟨'"', _, rfl, rfl, by decide⟩
  | array vs => cases vs <;> exact ⟨'[', _, rfl, rfl, by decide⟩
  | object ms =>
    obtain _ | ⟨⟨k, v⟩, ms⟩ := ms <;> exact ⟨'\x7b', _, rfl, rfl, by decide⟩

/-- Behind an opening bracket stand items, if no bracket closes it at once. -/
theorem read_array {cs : List Char} (h : (skipSpace cs).head? ≠ some ']') (fuel : Nat) :
    read (fuel + 1) ('[' :: cs) = (readItems fuel cs).map fun (vs, r) => (.array vs, r) := by
  rw [read, skipSpace_cons rfl]
  simp only
  split
  · next hnil => rw [hnil] at h; exact absurd rfl h
  · rfl

/-- Behind an opening brace stand members, if no brace closes it at once. -/
theorem read_object {cs : List Char} (h : (skipSpace cs).head? ≠ some '\x7d') (fuel : Nat) :
    read (fuel + 1) ('\x7b' :: cs) = (readMembers fuel cs).map fun (ms, r) => (.object ms, r) := by
  rw [read, skipSpace_cons rfl]
  simp only
  split
  · next hnil => rw [hnil] at h; exact absurd rfl h
  · rfl

/-- Values are read back with so much fuel, and the items and members of a list up to the
bracket behind them. -/
structure ReadsBack (s : Spacing) (fuel : Nat) : Prop where
  value (depth : Nat) (v : Json) (rest : List Char) (h : (print s depth v).length < fuel)
    (hrest : EndsNumber rest) : read fuel (print s depth v ++ rest) = some (v, rest)
  items (depth : Nat) (v : Json) (vs : List Json) (ws rest : List Char) (hws : Spaces ws)
    (h : (print s depth v ++ printItems s depth vs).length + 1 < fuel) :
    readItems fuel (print s depth v ++ (printItems s depth vs ++ (ws ++ ']' :: rest))) =
      some (v :: vs, rest)
  members (depth : Nat) (k : List Char) (v : Json) (ms : List (List Char × Json))
    (ws rest : List Char) (hws : Spaces ws)
    (h : (encodeString k ++ s.colon ++ print s depth v ++ printMembers s depth ms).length + 1 <
      fuel) :
    readMembers fuel (encodeString k ++ (s.colon ++ (print s depth v ++
      (printMembers s depth ms ++ (ws ++ '\x7d' :: rest))))) = some ((k, v) :: ms, rest)

theorem readsBack_zero (s : Spacing) : ReadsBack s 0 where
  value _ _ _ h := absurd h (Nat.not_lt_zero _)
  items _ _ _ _ _ _ h := absurd h (Nat.not_lt_zero _)
  members _ _ _ _ _ _ _ h := absurd h (Nat.not_lt_zero _)

/-- A value is read back if its items and members are. -/
theorem ReadsBack.value_succ (h : ReadsBack s fuel) (v : Json)
    (hfuel : (print s depth v).length < fuel + 1) (hrest : EndsNumber rest) :
    read (fuel + 1) (print s depth v ++ rest) = some (v, rest) := by
  cases v with
  | null => rfl
  | bool b => cases b <;> rfl
  | integer i =>
    obtain ⟨c, cs, hcs, hc⟩ := exists_cons_toString i
    have hnumber := number?_integerText i hrest
    rw [print]
    rw [integerText, hcs, List.cons_append] at hnumber ⊢
    rw [read_of_number hc, hnumber]
  | decimal d =>
    obtain ⟨c, cs, hcs, hc⟩ := exists_cons_decimalText d
    have hnumber := number?_decimalText d hrest
    rw [print]
    rw [hcs, List.cons_append] at hnumber ⊢
    rw [read_of_number hc, hnumber]
  | string t => exact read_encodeString t rest fuel
  | array vs =>
    cases vs with
    | nil => rfl
    | cons v vs =>
      have hfirst := s.spaces_first (depth + 1)
      have hitems := h.items (depth + 1) v vs (s.last depth) rest (s.spaces_last depth) (by
        simp only [print, List.length_cons, List.length_append] at hfuel ⊢
        omega)
      have htext : print s depth (.array (v :: vs)) ++ rest = '[' :: (s.first (depth + 1) ++
          (print s (depth + 1) v ++
            (printItems s (depth + 1) vs ++ (s.last depth ++ ']' :: rest)))) := by
        simp [print]
      -- the first item does not begin with the bracket that would close the list at once
      obtain ⟨c, cs, hcs, hspace, hbracket⟩ := exists_cons_print s (depth + 1) v
      rw [htext, read_array, readItems_append hfirst, hitems]
      · rfl
      · rw [skipSpace_append hfirst, hcs, List.cons_append, skipSpace_cons hspace]
        exact fun heq => hbracket (Option.some.inj heq)
  | object ms =>
    obtain _ | ⟨⟨k, v⟩, ms⟩ := ms
    · rfl
    · have hfirst := s.spaces_first (depth + 1)
      have hmembers := h.members (depth + 1) k v ms (s.last depth) rest (s.spaces_last depth) (by
        simp only [print, List.length_cons, List.length_append] at hfuel ⊢
        omega)
      have htext : print s depth (.object ((k, v) :: ms)) ++ rest =
          '\x7b' :: (s.first (depth + 1) ++ (encodeString k ++ (s.colon ++ (print s (depth + 1) v ++
            (printMembers s (depth + 1) ms ++ (s.last depth ++ '\x7d' :: rest)))))) := by
        simp [print]
      rw [htext, read_object, readMembers_append hfirst, hmembers]
      · rfl
      · rw [skipSpace_append hfirst, encodeString, List.cons_append, skipSpace_cons rfl]
        exact fun heq => absurd (Option.some.inj heq) (by decide)

/-- Items are read back if the values in them are, and the items behind the first. -/
theorem ReadsBack.items_succ (h : ReadsBack s fuel) (v : Json) (vs : List Json) {ws : List Char}
    (hws : Spaces ws) (hfuel : (print s depth v ++ printItems s depth vs).length + 1 < fuel + 1) :
    readItems (fuel + 1) (print s depth v ++ (printItems s depth vs ++ (ws ++ ']' :: rest))) =
      some (v :: vs, rest) := by
  rw [List.length_append] at hfuel
  -- what follows the first item, a bracket or a comma, ends it also if it is a number
  cases vs with
  | nil =>
    have hvalue := h.value depth v (ws ++ ']' :: rest) (by omega)
      (endsNumber_append hws (by decide))
    rw [printItems, List.nil_append, readItems, hvalue]
    simp [skipSpace_append hws, skipSpace_cons (show isSpace ']' = false from rfl)]
  | cons v' vs =>
    obtain ⟨gap, hbetween, hgap⟩ := s.exists_between depth
    simp only [printItems, hbetween, List.length_append, List.length_cons] at hfuel
    have hvalue := h.value depth v (',' :: (gap ++ (print s depth v' ++ (printItems s depth vs ++
      (ws ++ ']' :: rest))))) (by omega) (endsNumber_cons (by decide))
    have hitems := h.items depth v' vs ws rest hws (by
      rw [List.length_append]
      omega)
    have htext : printItems s depth (v' :: vs) ++ (ws ++ ']' :: rest) = ',' :: (gap ++
        (print s depth v' ++ (printItems s depth vs ++ (ws ++ ']' :: rest)))) := by
      simp [printItems, hbetween]
    rw [htext, readItems, hvalue]
    simp [skipSpace_cons (show isSpace ',' = false from rfl), readItems_append hgap, hitems]

/-- Behind a key and its colon stands a value, and behind that a comma or the closing brace. -/
theorem readMembers_key (k cs : List Char) (fuel : Nat) :
    readMembers (fuel + 1) (encodeString k ++ ':' :: cs) =
      (read fuel cs).bind fun p =>
        match skipSpace p.2 with
        | ',' :: r => (readMembers fuel r).bind fun q => some ((k, p.1) :: q.1, q.2)
        | '\x7d' :: r => some ([(k, p.1)], r)
        | _ => none := by
  have hkey : decodeString ((k.flatMap escape ++ '"' :: ':' :: cs).length + 1)
      (k.flatMap escape ++ '"' :: ':' :: cs) = some (k, ':' :: cs) :=
    decodeString_flatMap_escape k (':' :: cs) (by rw [List.length_append]; omega)
  have htext : encodeString k ++ ':' :: cs = '"' :: (k.flatMap escape ++ '"' :: ':' :: cs) := by
    simp [encodeString]
  rw [htext, readMembers, skipSpace_cons rfl]
  simp only [hkey, Option.bind_eq_bind, Option.bind_some,
    skipSpace_cons (show isSpace ':' = false from rfl)]
  rfl

/-- Members are read back if the values in them are, and the members behind the first. -/
theorem ReadsBack.members_succ (h : ReadsBack s fuel) (k : List Char) (v : Json)
    (ms : List (List Char × Json)) {ws : List Char} (hws : Spaces ws)
    (hfuel : (encodeString k ++ s.colon ++ print s depth v ++ printMembers s depth ms).length + 1 <
      fuel + 1) :
    readMembers (fuel + 1) (encodeString k ++ (s.colon ++ (print s depth v ++
      (printMembers s depth ms ++ (ws ++ '\x7d' :: rest))))) = some ((k, v) :: ms, rest) := by
  obtain ⟨colon, hcolon, hspaces⟩ := s.exists_colon
  simp only [List.length_append] at hfuel
  rw [hcolon, List.cons_append, readMembers_key, read_append hspaces]
  obtain _ | ⟨⟨k', v'⟩, ms⟩ := ms
  · have hvalue := h.value depth v (ws ++ '\x7d' :: rest) (by omega)
      (endsNumber_append hws (by decide))
    rw [printMembers, List.nil_append, hvalue]
    simp [skipSpace_append hws, skipSpace_cons (show isSpace '\x7d' = false from rfl)]
  · obtain ⟨gap, hbetween, hgap⟩ := s.exists_between depth
    simp only [printMembers, hbetween, List.length_append, List.length_cons] at hfuel
    have hvalue := h.value depth v (',' :: (gap ++ (encodeString k' ++ (s.colon ++
      (print s depth v' ++ (printMembers s depth ms ++ (ws ++ '\x7d' :: rest))))))) (by omega)
      (endsNumber_cons (by decide))
    have hmembers := h.members depth k' v' ms ws rest hws (by
      simp only [List.length_append]
      omega)
    have htext : printMembers s depth ((k', v') :: ms) ++ (ws ++ '\x7d' :: rest) = ',' :: (gap ++
        (encodeString k' ++ (s.colon ++ (print s depth v' ++ (printMembers s depth ms ++
          (ws ++ '\x7d' :: rest)))))) := by
      simp [printMembers, hbetween]
    rw [htext, hvalue]
    simp [skipSpace_cons (show isSpace ',' = false from rfl), readMembers_append hgap, hmembers]

/-- **One more turn** reads one level more. -/
theorem ReadsBack.succ (h : ReadsBack s fuel) : ReadsBack s (fuel + 1) where
  value _ v _ hfuel hrest := h.value_succ v hfuel hrest
  items _ v vs _ _ hws hfuel := h.items_succ v vs hws hfuel
  members _ k v ms _ _ hws hfuel := h.members_succ k v ms hws hfuel

/-- With any fuel the values are read back that are shorter. -/
theorem readsBack (s : Spacing) (fuel : Nat) : ReadsBack s fuel := by
  induction fuel with
  | zero => exact readsBack_zero s
  | succ fuel ih => exact ih.succ

end Values

/-- **Every value is decoded** from its written form, whatever the spacing of its parts. -/
theorem decode_print (s : Spacing) (v : Json) : decode (print s 0 v) = some v := by
  have hread := (readsBack s (2 * (print s 0 v).length + 1)).value 0 v [] (by omega)
    (fun _ h => nomatch h)
  rw [List.append_nil] at hread
  simp [decode, hread, skipSpace]

/-! ### Characters of written values -/

/-- Characters that are shown with a spacing: the visible ones, and line ends between lines. -/
def Spacing.Shows (s : Spacing) (c : Char) : Prop := Visible c ∨ c = '\n' ∧ s = .lines

section Shown

variable {s : Spacing}

theorem shows_of_mem_lineBreak {depth : Nat} : ∀ c ∈ lineBreak depth, Spacing.lines.Shows c := by
  intro c hc
  rcases List.mem_cons.mp hc with rfl | hc
  · exact .inr ⟨rfl, rfl⟩
  · rw [(List.mem_replicate.mp hc).2]
    exact .inl (by decide)

theorem Spacing.shows_of_mem_first {depth : Nat} : ∀ c ∈ s.first depth, s.Shows c := by
  cases s with
  | lines => exact shows_of_mem_lineBreak
  | tight | loose => exact fun _ h => nomatch h

theorem Spacing.shows_of_mem_last {depth : Nat} : ∀ c ∈ s.last depth, s.Shows c := by
  cases s with
  | lines => exact shows_of_mem_lineBreak
  | tight | loose => exact fun _ h => nomatch h

theorem Spacing.shows_of_mem_between {depth : Nat} : ∀ c ∈ s.between depth, s.Shows c := by
  have hcomma : Visible ',' := by decide
  cases s with
  | tight => exact List.forall_mem_singleton.mpr (.inl hcomma)
  | loose =>
    exact List.forall_mem_cons.mpr ⟨.inl hcomma, List.forall_mem_singleton.mpr (.inl (by decide))⟩
  | lines => exact List.forall_mem_cons.mpr ⟨.inl hcomma, shows_of_mem_lineBreak⟩

theorem Spacing.shows_of_mem_colon : ∀ c ∈ s.colon, s.Shows c := by
  have hvisible : ∀ c ∈ s.colon, Visible c := visible_of_all (by cases s <;> rfl)
  exact fun c hc => .inl (hvisible c hc)

theorem visible_of_isDigit {c : Char} (hc : c.isDigit = true) : Visible c := by
  simp only [Char.isDigit, Bool.and_eq_true, decide_eq_true_eq] at hc
  exact ⟨Char.le_trans (by decide) hc.1, Char.le_trans hc.2 (by decide)⟩

theorem visible_of_mem_integerText {i : Int} : ∀ c ∈ integerText i, Visible c := by
  have hdigits : ∀ c ∈ Nat.toDigits 10 i.natAbs, Visible c := fun c hc =>
    visible_of_isDigit (isDigit_of_mem_toDigits c hc)
  rw [integerText, toList_toString]
  split
  · exact List.forall_mem_cons.mpr ⟨by decide, hdigits⟩
  · exact hdigits

theorem visible_of_mem_decimalText {d : Decimal} : ∀ c ∈ decimalText d, Visible c := by
  have hdigits : ∀ c ∈ (toString d.digits).toList, Visible c := fun c hc =>
    visible_of_isDigit (isDigit_of_mem_toDigits c (by simpa using hc))
  have hsign : ∀ c ∈ (if d.negative then ['-'] else [] : List Char), Visible c :=
    visible_of_all (by cases d.negative <;> rfl)
  simp only [decimalText, List.forall_mem_append, List.forall_mem_cons]
  exact ⟨⟨hsign, hdigits⟩, by decide, visible_of_mem_integerText⟩

mutual

/-- A written value is shown throughout. -/
theorem shows_of_mem_print (depth : Nat) : (v : Json) → ∀ c ∈ print s depth v, s.Shows c
  | .null => fun c hc => .inl (visible_of_all rfl c hc)
  | .bool true => fun c hc => .inl (visible_of_all rfl c hc)
  | .bool false => fun c hc => .inl (visible_of_all rfl c hc)
  | .integer i => fun c hc => .inl (visible_of_mem_integerText c hc)
  | .decimal d => fun c hc => .inl (visible_of_mem_decimalText c hc)
  | .string t => fun c hc => .inl (visible_of_mem_encodeString c hc)
  | .array [] => fun c hc => .inl (visible_of_all rfl c hc)
  | .array (v :: vs) => by
    have hv := shows_of_mem_print (depth + 1) v
    have hvs := shows_of_mem_printItems (depth + 1) vs
    simp only [print, List.forall_mem_cons, List.forall_mem_append]
    exact ⟨.inl (by decide), ⟨⟨⟨Spacing.shows_of_mem_first, hv⟩, hvs⟩, Spacing.shows_of_mem_last⟩,
      .inl (by decide), fun _ h => nomatch h⟩
  | .object [] => fun c hc => .inl (visible_of_all rfl c hc)
  | .object ((k, v) :: ms) => by
    have hk : ∀ c ∈ encodeString k, s.Shows c := fun c hc => .inl (visible_of_mem_encodeString c hc)
    have hv := shows_of_mem_print (depth + 1) v
    have hms := shows_of_mem_printMembers (depth + 1) ms
    simp only [print, List.forall_mem_cons, List.forall_mem_append]
    exact ⟨.inl (by decide), ⟨⟨⟨⟨⟨Spacing.shows_of_mem_first, hk⟩, Spacing.shows_of_mem_colon⟩, hv⟩,
      hms⟩, Spacing.shows_of_mem_last⟩, .inl (by decide), fun _ h => nomatch h⟩

theorem shows_of_mem_printItems (depth : Nat) :
    (vs : List Json) → ∀ c ∈ printItems s depth vs, s.Shows c
  | [] => fun _ h => nomatch h
  | v :: vs => by
    have hv := shows_of_mem_print depth v
    have hvs := shows_of_mem_printItems depth vs
    simp only [printItems, List.forall_mem_append]
    exact ⟨⟨Spacing.shows_of_mem_between, hv⟩, hvs⟩

theorem shows_of_mem_printMembers (depth : Nat) :
    (ms : List (List Char × Json)) → ∀ c ∈ printMembers s depth ms, s.Shows c
  | [] => fun _ h => nomatch h
  | (k, v) :: ms => by
    have hk : ∀ c ∈ encodeString k, s.Shows c := fun c hc => .inl (visible_of_mem_encodeString c hc)
    have hv := shows_of_mem_print depth v
    have hms := shows_of_mem_printMembers depth ms
    simp only [printMembers, List.forall_mem_append]
    exact ⟨⟨⟨⟨Spacing.shows_of_mem_between, hk⟩, Spacing.shows_of_mem_colon⟩, hv⟩, hms⟩

end

end Shown

/-- **A value on one line** is visible throughout. -/
theorem visible_of_mem_line {v : Json} : ∀ c ∈ v.line, Visible c := fun c hc =>
  (shows_of_mem_print 0 v c hc).resolve_right fun h => nomatch h.2

end StatementShape.Json
