import StatementShape.Proofs.Config.Text
import StatementShape.Proofs.Config.Written
import StatementShape.Proofs.Toml.Distinct

/-!
# What is read back of any defaults

Any defaults can be written, but not all are read back as they were. Truth values, whole numbers and
strings are; all other values are written as strings, and come back as the strings of their texts.
Control characters in a string are written as they are, and then the file cannot be read at all.
Numbers without a numeral are never written.

## Main definitions

* `Value.rewritten`: a value as it is read back
* `Legible`: values that are read back at all

## Main results

* `read_fileText_of_legible`: what is read back of legible values
* `read_fileText_eq_malformed`: a string that is not legible makes the file unreadable
-/

namespace StatementShape.Config

open Toml (Plain escapeQuotes_cons isControl linesIn lineIn pathIn plainLines skipBlanks)

/-! ### Values that are written -/

/-- A value as it is read back: what is neither a truth value nor a whole number is the string
of its text. -/
def Value.rewritten : Value → Value
  | .bool b => .bool b
  | .integer n => .integer n
  | v => .string v.plain

/-- An entry as it is read back. -/
def rewriteEntry (e : List Char × Value) : List Char × Value := (e.1, e.2.rewritten)

/-- Values that are read back: strings without control characters, and all others. -/
def Legible (v : Value) : Prop := ∀ s, v = .string s → Clean s

section Written

variable {entries : Entries} {e : List Char × Value} {v : Value} {name : List Char}

theorem literal_rewritten (v : Value) : literal v.rewritten = literal v := by
  cases v <;> rfl

theorem entryLine_rewriteEntry (e : List Char × Value) :
    entryLine (rewriteEntry e) = entryLine e := by
  simp only [entryLine, rewriteEntry, literal_rewritten]

theorem literal_string (s : List Char) : literal (.string s) = '"' :: (escapeQuotes s ++ ['"']) :=
  rfl

/-- The file that is written is that of the entries as they are read back. -/
theorem fileText_map_rewriteEntry (entries : Entries) :
    fileText (entries.map rewriteEntry) = fileText entries := by
  rw [fileText, fileText, List.flatMap_map]
  simp only [entryLine_rewriteEntry]

theorem Legible.plain_rewritten (h : Legible v) (hnumerals : v.hasNumerals = true) :
    Plain v.rewritten := by
  cases v with
  | bool b => exact .bool b
  | integer n => exact .integer hnumerals
  | string s => exact .string (h s rfl)
  | nothing | float | date | time | dateTime | array | table =>
    exact .string (clean_plain fun s hs => nomatch hs)

/-- Entries that are read back can be written as such. -/
theorem writable_map_rewriteEntry (hbare : ∀ e ∈ entries, BareKey e.1)
    (hlegible : ∀ e ∈ entries, Legible e.2) (hnumerals : ∀ e ∈ entries, e.2.hasNumerals = true)
    (hdistinct : entries.Distinct) : Writable (entries.map rewriteEntry) where
  bare := List.forall_mem_map.mpr hbare
  plain := List.forall_mem_map.mpr fun e he => (hlegible e he).plain_rewritten (hnumerals e he)
  nodup := by
    rw [List.map_map]
    exact hdistinct

/-- **The file of legible entries** is a document of one table, with the entries as they are read
back. -/
theorem read_fileText_of_legible (hbare : ∀ e ∈ entries, BareKey e.1)
    (hlegible : ∀ e ∈ entries, Legible e.2) (hnumerals : ∀ e ∈ entries, e.2.hasNumerals = true)
    (hdistinct : entries.Distinct) :
    Toml.read (fileText entries) = .ok [(tableName.toList, .table (entries.map rewriteEntry))] := by
  rw [← fileText_map_rewriteEntry]
  exact read_fileText (writable_map_rewriteEntry hbare hlegible hnumerals hdistinct)

theorem lookup_map_rewriteEntry (name : List Char) (entries : Entries) :
    (entries.map rewriteEntry).lookup name = (entries.lookup name).map Value.rewritten := by
  induction entries with
  | nil => rfl
  | cons e entries ih =>
    rw [List.map_cons, rewriteEntry, List.lookup_cons, List.lookup_cons, ih]
    split <;> rfl

end Written

/-! ### Strings that are not legible -/

section Unreadable

variable {entries front : Entries} {e : List Char × Value} {s rest cs : List Char}

theorem plainLines_cons {c : Char} (hc : c ≠ '\r') (cs : List Char) :
    plainLines (c :: cs) = c :: plainLines cs :=
  plainLines_append (fun h => hc (List.mem_singleton.mp h).symm) cs

/-- A control character at the front is one, whatever line end it may be part of. -/
theorem exists_isControl_plainLines {c : Char} (hc : isControl c = true) (cs : List Char) :
    ∃ d ds, isControl d = true ∧ plainLines (c :: cs) = d :: ds := by
  by_cases hreturn : c = '\r'
  · subst hreturn
    unfold plainLines
    split
    · exact ⟨'\n', _, by decide, rfl⟩
    · exact ⟨'\n', _, by decide, rfl⟩
    · next hne heq => exact absurd (List.cons.inj heq).1.symm hne
    · next heq => cases heq
  · exact ⟨c, _, hc, plainLines_cons hreturn cs⟩

theorem basicString_of_isControl {c : Char} (hc : isControl c = true) (fuel : Nat)
    (cs : List Char) : Toml.basicString (fuel + 1) (c :: cs) = none := by
  have hne (d : Char) (hd : isControl d = false) : c ≠ d := by
    rintro rfl
    rw [hc] at hd
    cases hd
  rw [Toml.basicString]
  · simp [hc]
  · exact hne '"' (by decide)
  · exact hne '\\' (by decide)

/-- The front of an escaped string, with plain line ends: a backslash and the character behind
it, or the character itself, unless a control character stands there. -/
theorem plainLines_escapeQuotes_cons (c : Char) (s rest : List Char) :
    ((c = '\\' ∨ c = '"') ∧ plainLines (escapeQuotes (c :: s) ++ rest) =
        '\\' :: c :: plainLines (escapeQuotes s ++ rest)) ∨
      (c ≠ '\\' ∧ c ≠ '"' ∧ isControl c = false ∧ plainLines (escapeQuotes (c :: s) ++ rest) =
        c :: plainLines (escapeQuotes s ++ rest)) ∨
      isControl c = true ∧
        ∃ d ds, isControl d = true ∧ plainLines (escapeQuotes (c :: s) ++ rest) = d :: ds := by
  rw [escapeQuotes_cons]
  split
  · next hquoted =>
    have hreturn : c ≠ '\r' := by rcases hquoted with rfl | rfl <;> decide
    refine .inl ⟨hquoted, ?_⟩
    rw [List.append_assoc, List.cons_append, List.singleton_append, plainLines_cons (by decide),
      plainLines_cons hreturn]
  · next hplain =>
    obtain ⟨hbackslash, hquote⟩ := not_or.mp hplain
    rw [List.append_assoc, List.singleton_append]
    cases hc : isControl c with
    | true => exact .inr (.inr ⟨rfl, exists_isControl_plainLines hc _⟩)
    | false =>
      have hreturn : c ≠ '\r' := by
        rintro rfl
        cases hc
      exact .inr (.inl ⟨hbackslash, hquote, rfl, plainLines_cons hreturn _⟩)

/-- A control character ends a string before its closing quote. -/
theorem basicString_eq_none (h : ¬ Clean s) (fuel : Nat) (rest : List Char) :
    Toml.basicString fuel (plainLines (escapeQuotes s ++ rest)) = none := by
  -- on the string: each character in front of the first control character is read as itself
  induction s generalizing fuel with
  | nil => exact absurd clean_nil h
  | cons c s ih =>
    cases fuel with
    | zero => rfl
    | succ fuel =>
      rw [clean_cons, not_and] at h
      obtain ⟨hquoted, htext⟩ | ⟨hbackslash, hquote, hc, htext⟩ | ⟨-, d, ds, hd, htext⟩ :=
        plainLines_escapeQuotes_cons c s rest
      · have hc : isControl c = false := by rcases hquoted with rfl | rfl <;> decide
        have ih := ih (h hc) fuel
        rw [htext]
        rcases hquoted with rfl | rfl <;> simp [Toml.basicString, Toml.escapeIn, ih]
      · rw [htext, Toml.basicString_cons hbackslash hquote hc, ih (h hc)]
        rfl
      · rw [htext, basicString_of_isControl hd]

/-- An escaped string does not begin with a quote. -/
theorem head?_escapeQuotes_ne (hs : s ≠ []) (rest : List Char) :
    (plainLines (escapeQuotes s ++ rest)).head? ≠ some '"' := by
  obtain ⟨c, s, rfl⟩ := List.exists_cons_of_ne_nil hs
  obtain ⟨-, htext⟩ | ⟨-, hquote, -, htext⟩ | ⟨-, d, ds, hd, htext⟩ :=
    plainLines_escapeQuotes_cons c s rest
  · simp [htext]
  · simpa [htext] using hquote
  · rw [htext]
    rintro ⟨⟩
    cases hd

/-- A quote that no other follows begins a string on one line. -/
theorem stringIn_of_head?_ne (h : cs.head? ≠ some '"') :
    Toml.stringIn ('"' :: cs) = Toml.basicString (cs.length + 1) cs := by
  unfold Toml.stringIn
  split
  · next heq =>
    rw [(List.cons.inj heq).2] at h
    exact absurd rfl h
  · next heq => cases heq
  · rfl

/-- A string that is not legible is no value. -/
theorem valueIn_eq_malformed (h : ¬ Clean s) (fuel : Nat) (rest : List Char) :
    Toml.valueIn fuel (plainLines (literal (.string s) ++ rest)) = .error .malformed := by
  cases fuel with
  | zero => rfl
  | succ fuel =>
    have hs : s ≠ [] := by
      rintro rfl
      exact h clean_nil
    have htext : plainLines (literal (.string s) ++ rest) =
        '"' :: plainLines (escapeQuotes s ++ '"' :: rest) := by
      rw [literal_string, List.cons_append, plainLines_cons (by decide), List.append_assoc,
        List.singleton_append]
    have hstring : Toml.stringIn ('"' :: plainLines (escapeQuotes s ++ '"' :: rest)) = none := by
      rw [stringIn_of_head?_ne (head?_escapeQuotes_ne hs _), basicString_eq_none h]
    rw [htext]
    simp [Toml.valueIn, hstring]

theorem exists_of_not_legible {v : Value} (h : ¬ Legible v) : ∃ s, v = .string s ∧ ¬ Clean s := by
  obtain ⟨s, hs⟩ := Classical.not_forall.mp h
  exact ⟨s, Classical.not_imp.mp hs⟩

/-- A line with no value is none. -/
theorem lineIn_eq_malformed {st : Toml.State} {path : Toml.Path} {behind : List Char}
    (hhead : cs.head? ≠ some '[') (hpath : pathIn cs = some (path, '=' :: behind))
    (hvalue : ∀ fuel, Toml.valueIn fuel (skipBlanks behind) = .error .malformed) :
    lineIn st cs = .error .malformed := by
  unfold lineIn
  split
  · exact absurd rfl hhead
  · exact absurd rfl hhead
  · simp [hpath, hvalue]

theorem linesIn_of_lineIn_eq_malformed {st : Toml.State} {c : Char}
    (hblank : Toml.isBlank c = false) (hend : c ≠ '\n') (hcomment : c ≠ '#')
    (hline : lineIn st (c :: cs) = .error .malformed) (n : Nat) :
    linesIn (n + 1) st (c :: cs) = .error .malformed := by
  have hskip : skipBlanks (c :: cs) = c :: cs := by simp [skipBlanks, hblank]
  rw [linesIn, hskip]
  split
  · next h => cases h
  · next h => exact absurd (List.cons.inj h).1 hend
  · simp [hcomment, hline]

/-- The line of an entry that is not legible cannot be read. -/
theorem linesIn_entryLine_eq_malformed (hbare : BareKey e.1) (hlegible : ¬ Legible e.2) (n : Nat)
    (st : Toml.State) (rest : List Char) :
    linesIn (n + 1) st (plainLines (entryLine e ++ rest)) = .error .malformed := by
  obtain ⟨name, v⟩ := e
  obtain ⟨s, rfl, hs⟩ := exists_of_not_legible hlegible
  have htext : plainLines (entryLine (name, .string s) ++ rest) =
      name ++ ' ' :: '=' :: ' ' :: plainLines (literal (.string s) ++ '\n' :: rest) := by
    rw [entryLine_append, plainLines_append (return_not_mem_name hbare),
      plainLines_cons (by decide), plainLines_cons (by decide), plainLines_cons (by decide)]
  have hpath : pathIn (name ++ ' ' :: '=' :: ' ' ::
        plainLines (literal (.string s) ++ '\n' :: rest)) =
      some ([name], '=' :: ' ' :: plainLines (literal (.string s) ++ '\n' :: rest)) :=
    pathIn_append hbare rfl rfl (by decide)
  have hvalue (fuel : Nat) : Toml.valueIn fuel
      (skipBlanks (' ' :: plainLines (literal (.string s) ++ '\n' :: rest))) =
        .error .malformed := by
    have hskip : skipBlanks (' ' :: plainLines (literal (.string s) ++ '\n' :: rest)) =
        plainLines (literal (.string s) ++ '\n' :: rest) := by
      rw [literal_string, List.cons_append, plainLines_cons (by decide)]
      rfl
    rw [hskip, valueIn_eq_malformed hs]
  rw [htext]
  obtain ⟨c, cs, rfl, hblank, hend, hcomment, hheader⟩ := hbare.exists_cons
  exact linesIn_of_lineIn_eq_malformed hblank hend hcomment
    (lineIn_eq_malformed (fun h => hheader (Option.some.inj h)) hpath hvalue) n

/-- The first entry that is not legible ends the document: those in front of it are read. -/
theorem linesIn_flatMap_eq_malformed (hbare : ∀ e ∈ entries, BareKey e.1)
    (hnumerals : ∀ e ∈ entries, e.2.hasNumerals = true)
    (hdistinct : ((front ++ entries).map Prod.fst).Nodup)
    (hillegible : ∃ e ∈ entries, ¬ Legible e.2) {n : Nat} (hn : entries.length ≤ n) :
    linesIn n (openDefaults front) (plainLines (entries.flatMap entryLine)) =
      .error .malformed := by
  induction entries generalizing front n with
  | nil => exact absurd hillegible (by simp)
  | cons e entries ih =>
    obtain ⟨n, rfl⟩ := Nat.exists_eq_add_one_of_ne_zero (Nat.ne_zero_of_lt hn)
    obtain ⟨hname, hbare⟩ := List.forall_mem_cons.mp hbare
    obtain ⟨hnumeral, hnumerals⟩ := List.forall_mem_cons.mp hnumerals
    rw [List.flatMap_cons]
    by_cases hlegible : Legible e.2
    · -- its line is that of the entry as it is read back, which joins those in front
      have hplain : Plain (rewriteEntry e).2 := hlegible.plain_rewritten hnumeral
      have hmore : ∃ e ∈ entries, ¬ Legible e.2 := by
        obtain ⟨e', he', hillegible⟩ := hillegible
        refine ⟨e', (List.mem_cons.mp he').resolve_left ?_, hillegible⟩
        rintro rfl
        exact hillegible hlegible
      rw [← entryLine_rewriteEntry,
        plainLines_append (return_not_mem_entryLine (e := rewriteEntry e) hname hplain),
        linesIn_entryLine (e := rewriteEntry e) hname (not_mem_of_nodup (e := e) hdistinct) hplain]
      exact ih hbare hnumerals (by simpa [rewriteEntry] using hdistinct) hmore
        (Nat.le_of_succ_le_succ hn)
    · exact linesIn_entryLine_eq_malformed hname hlegible n _ _

/-- Plain line ends make a text shorter by half at most. -/
theorem length_le_plainLines (cs : List Char) : cs.length ≤ 2 * (plainLines cs).length := by
  fun_induction plainLines cs with
  | case1 rest ih => simp only [List.length_cons]; omega
  | case2 rest hne ih => simp only [List.length_cons]; omega
  | case3 c rest hreturn hne ih => simp only [List.length_cons]; omega
  | case4 => simp

/-- **A string that is not legible** makes the file unreadable. -/
theorem read_fileText_eq_malformed (hbare : ∀ e ∈ entries, BareKey e.1)
    (hnumerals : ∀ e ∈ entries, e.2.hasNumerals = true) (hdistinct : entries.Distinct)
    (hillegible : ∃ e ∈ entries, ¬ Legible e.2) :
    Toml.read (fileText entries) = .error .malformed := by
  have htext : plainLines (fileText entries) =
      '[' :: tableName.toList ++ ']' :: '\n' :: plainLines (entries.flatMap entryLine) := by
    rw [fileText, plainLines_append return_not_mem_header, List.append_assoc]
    rfl
  -- there are fewer lines than characters, so that the line of the entry is reached
  have hlength : entries.length ≤ (plainLines (fileText entries)).length := by
    have hlines := length_le_flatMap entries
    have hplain := length_le_plainLines (entries.flatMap entryLine)
    simp only [htext, List.length_append, List.length_cons]
    omega
  have hlines : linesIn (plainLines (fileText entries)).length (openDefaults [])
      (plainLines (entries.flatMap entryLine)) = .error .malformed := by
    have hdistinct : (([] ++ entries).map Prod.fst).Nodup := hdistinct
    exact linesIn_flatMap_eq_malformed hbare hnumerals hdistinct hillegible hlength
  rw [Toml.read, congrArg (linesIn _ {}) htext, linesIn_header, hlines]
  rfl

end Unreadable

end StatementShape.Config
