import StatementShape.Proofs.Result
import StatementShape.Proofs.Toml.Literal

/-!
# The file that is written

The defaults are written as a document of a single table, with a line for each entry. The names
stand as they are, so that they must be bare keys, and no two of them may be the same; the values
must be plain. Such a document is read line by line, and gives the defaults back.

## Main definitions

* `BareKey`: names that stand as they are
* `Writable`: defaults that are read back from the file that is written for them

## Main results

* `linesIn_entryLine`: a line for an entry adds the entry to the open table
* `read_fileText`: the file that is written is a document of one table
* `defaultsValue_fileText`: the defaults are read back
-/

namespace StatementShape.Config

open Toml (State isKeyChar skipBlanks skipComment keyIn moreKeys pathIn lineIn linesIn
  plainLines Plain)

/-! ### Defaults that can be written -/

/-- Names that stand as they are in a document. -/
def BareKey (name : List Char) : Prop := name ≠ [] ∧ ∀ c ∈ name, isKeyChar c = true

instance : DecidablePred BareKey := fun name =>
  @instDecidableAnd _ _ _ (List.decidableBAll (fun c => isKeyChar c = true) name)

/-- Defaults that can be written: plain values under distinct bare keys. -/
structure Writable (entries : Entries) : Prop where
  bare : ∀ e ∈ entries, BareKey e.1
  plain : ∀ e ∈ entries, Plain e.2
  nodup : (entries.map Prod.fst).Nodup

/-- An entry under a new name is put at the end. -/
theorem Entries.put_of_not_mem {name : List Char} {entries : Entries}
    (h : name ∉ entries.map Prod.fst) (v : Value) :
    entries.put name v = entries ++ [(name, v)] := by
  induction entries with
  | nil => rfl
  | cons e rest ih =>
    obtain ⟨n, w⟩ := e
    rw [List.map_cons, List.mem_cons, not_or] at h
    simp [Entries.put, Ne.symm h.1, ih h.2]

theorem Entries.lookup_of_not_mem {name : List Char} {entries : Entries}
    (h : name ∉ entries.map Prod.fst) : entries.lookup name = none := by
  rw [List.lookup_eq_none_iff]
  intro e he
  have hne : name ≠ e.1 := by
    rintro rfl
    exact h (List.mem_map_of_mem he)
  simpa using hne

/-! ### Keys -/

section Keys

variable {name rest : List Char}

/-- A bare key is taken up to the first character that is none of a key. -/
theorem keyIn_append (h : BareKey name) (hrest : rest.head?.any isKeyChar = false) :
    keyIn (name ++ rest) = some (name, rest) := by
  obtain ⟨c, cs, rfl⟩ := List.exists_cons_of_ne_nil h.1
  have hc : isKeyChar c = true := h.2 c List.mem_cons_self
  obtain ⟨htake, hdrop⟩ : rest.takeWhile isKeyChar = [] ∧ rest.dropWhile isKeyChar = rest := by
    cases rest with
    | nil => exact ⟨rfl, rfl⟩
    | cons d rest =>
      have hd : isKeyChar d = false := hrest
      simp [hd]
  rw [keyIn, if_pos (by simpa using hc), List.takeWhile_append_of_pos h.2,
    List.dropWhile_append_of_pos h.2, htake, hdrop, List.append_nil]

/-- A bare key begins with a character that begins nothing else: no blank, line end, comment or
header. -/
theorem BareKey.exists_cons (h : BareKey name) :
    ∃ c cs, name = c :: cs ∧ Toml.isBlank c = false ∧ c ≠ '\n' ∧ c ≠ '#' ∧ c ≠ '[' := by
  obtain ⟨c, cs, rfl⟩ := List.exists_cons_of_ne_nil h.1
  have hkey : isKeyChar c = true := h.2 c List.mem_cons_self
  have hne : ∀ d, isKeyChar d = false → c ≠ d := by
    rintro d hd rfl
    rw [hkey] at hd
    cases hd
  refine ⟨c, cs, rfl, ?_, hne '\n' rfl, hne '#' rfl, hne '[' rfl⟩
  simp [Toml.isBlank, hne ' ' rfl, hne '\t' rfl]

theorem moreKeys_of_ne {c : Char} (hc : c ≠ '.') (cs : List Char) (n : Nat) :
    moreKeys n (c :: cs) = some ([], c :: cs) := by
  cases n with
  | zero => rfl
  | succ n =>
    rw [moreKeys]
    exact fun _ h => hc (List.cons.inj h).1

/-- A bare key on its own is a path of one name, and the blanks behind it are skipped. -/
theorem pathIn_append (h : BareKey name) (hrest : rest.head?.any isKeyChar = false) {c : Char}
    {cs : List Char} (hblanks : skipBlanks rest = c :: cs) (hc : c ≠ '.') :
    pathIn (name ++ rest) = some ([name], c :: cs) := by
  simp [pathIn, keyIn_append h hrest, hblanks, moreKeys_of_ne hc]

end Keys

/-! ### Lines -/

/-- The state of a document whose open table is that of the defaults, with some entries. -/
def openDefaults (entries : Entries) : State where
  entries := [(tableName.toList, .table entries)]
  header := [tableName.toList]
  opened := [[tableName.toList]]

section Lines

variable {name rest : List Char} {v : Value} {entries : Entries} {n : Nat}

/-- A line that begins neither with a blank nor with a comment, and is read up to its end. -/
theorem linesIn_of_lineIn {s s' : State} {c : Char} {cs : List Char}
    (hblank : Toml.isBlank c = false) (hend : c ≠ '\n') (hcomment : c ≠ '#')
    (hline : lineIn s (c :: cs) = .ok (s', '\n' :: rest)) (n : Nat) :
    linesIn (n + 1) s (c :: cs) = linesIn n s' rest := by
  have hskip : skipBlanks (c :: cs) = c :: cs := by simp [skipBlanks, hblank]
  have hbehind : skipComment (skipBlanks ('\n' :: rest)) = some ('\n' :: rest) := by
    rw [skipBlanks, List.dropWhile_cons_of_neg (by decide)]
    rfl
  rw [linesIn, hskip]
  split
  · next h => cases h
  · next h => exact absurd (List.cons.inj h).1 hend
  · next cs' _ _ =>
    simp [hcomment, hline, hbehind]

/-- A line in single brackets opens a table. -/
theorem lineIn_of_openTable {s s' : State} {cs : List Char} {path : Toml.Path}
    (hhead : cs.head? ≠ some '[') (hpath : pathIn (skipBlanks cs) = some (path, ']' :: rest))
    (hopen : s.openTable path = some s') : lineIn s ('[' :: cs) = .ok (s', rest) := by
  rw [lineIn]
  · simp [hpath, hopen, pure, Except.pure]
  · rintro cs' rfl
    exact hhead rfl

/-- The line of a header opens the table of the defaults. -/
theorem linesIn_header (n : Nat) (rest : List Char) :
    linesIn (n + 1) {} ('[' :: tableName.toList ++ ']' :: '\n' :: rest) =
      linesIn n (openDefaults []) rest := by
  have hbare : BareKey tableName.toList := ⟨by decide, List.all_eq_true.mp rfl⟩
  have hpath : pathIn (tableName.toList ++ ']' :: '\n' :: rest) =
      some ([tableName.toList], ']' :: '\n' :: rest) :=
    pathIn_append hbare rfl rfl (show ']' ≠ '.' by decide)
  have hopen : State.openTable {} [tableName.toList] = some (openDefaults []) := by
    simp [State.openTable, Toml.leadsInto, Entries.update, Entries.put, openDefaults]
  -- the name does not begin with a bracket, so that no item of an array is opened
  have hhead : (tableName.toList ++ ']' :: '\n' :: rest).head? ≠ some '[' := by
    have hfirst : tableName.toList.head? = some 'd' := by decide
    rw [List.head?_append, hfirst]
    simp
  exact linesIn_of_lineIn rfl (by decide) (by decide) (lineIn_of_openTable hhead hpath hopen) n

/-- An entry under a new name is added to the open table. -/
theorem assign_openDefaults (hname : name ∉ entries.map Prod.fst) (hv : Plain v) :
    (openDefaults entries).assign [name] v = some (openDefaults (entries ++ [(name, v)])) := by
  have hwhole : Toml.isWhole v = false := by cases hv <;> rfl
  have hlookup := Entries.lookup_of_not_mem hname
  have hput := Entries.put_of_not_mem hname v
  simp [State.assign, openDefaults, Toml.waypoints, Toml.leadsInto, Toml.addEntry, Entries.update,
    hwhole, hlookup, hput, Entries.put]

/-- A line that begins with a key gives it the value behind the equals sign. -/
theorem lineIn_of_pathIn {s s' : State} {cs behind : List Char} {path : Toml.Path}
    (hhead : cs.head? ≠ some '[') (hpath : pathIn cs = some (path, '=' :: behind))
    (hvalue : Toml.valueIn (2 * behind.length + 1) (skipBlanks behind) = .ok (v, rest))
    (hassign : s.assign path v = some s') : lineIn s cs = .ok (s', rest) := by
  unfold lineIn
  split
  · exact absurd rfl hhead
  · exact absurd rfl hhead
  · simp [hpath, hvalue, hassign, pure, Except.pure]

/-- The line of an entry gives its value to its name. -/
theorem lineIn_entry (hbare : BareKey name) (hname : name ∉ entries.map Prod.fst) (hv : Plain v)
    (rest : List Char) :
    lineIn (openDefaults entries) (name ++ ' ' :: '=' :: ' ' :: (literal v ++ '\n' :: rest)) =
      .ok (openDefaults (entries ++ [(name, v)]), '\n' :: rest) := by
  have hhead : (name ++ ' ' :: '=' :: ' ' :: (literal v ++ '\n' :: rest)).head? ≠ some '[' := by
    obtain ⟨c, cs, rfl, -, -, -, hheader⟩ := hbare.exists_cons
    exact fun h => hheader (Option.some.inj h)
  refine lineIn_of_pathIn hhead (pathIn_append hbare rfl rfl (by decide)) ?_
    (assign_openDefaults hname hv)
  rw [skipBlanks, List.dropWhile_cons_of_pos (by decide)]
  exact (congrArg _ (Toml.skipBlanks_literal hv _)).trans (Toml.valueIn_literal hv _ _)

theorem entryLine_append (e : List Char × Value) (rest : List Char) :
    entryLine e ++ rest = e.1 ++ ' ' :: '=' :: ' ' :: (literal e.2 ++ '\n' :: rest) := by
  simp [entryLine]

/-- **A line for an entry** adds the entry, and the next line is read. -/
theorem linesIn_entryLine {e : List Char × Value} (hbare : BareKey e.1)
    (hname : e.1 ∉ entries.map Prod.fst) (hv : Plain e.2) (n : Nat) (rest : List Char) :
    linesIn (n + 1) (openDefaults entries) (entryLine e ++ rest) =
      linesIn n (openDefaults (entries ++ [e])) rest := by
  obtain ⟨name, v⟩ := e
  have hline := lineIn_entry hbare hname hv rest
  rw [entryLine_append]
  obtain ⟨c, cs, rfl, hblank, hend, hcomment, -⟩ := hbare.exists_cons
  exact linesIn_of_lineIn hblank hend hcomment hline n

end Lines

/-! ### The whole file -/

/-- Lines without carriage returns are plain already, whatever stands behind them. -/
theorem plainLines_append {cs : List Char} (h : '\r' ∉ cs) (rest : List Char) :
    plainLines (cs ++ rest) = cs ++ plainLines rest := by
  induction cs with
  | nil => rfl
  | cons c cs ih =>
    obtain ⟨hc, hcs⟩ := not_or.mp (mt List.mem_cons.mpr h)
    rw [List.cons_append, plainLines, ih hcs, List.cons_append]
    · exact fun _ heq => absurd heq.symm hc
    · exact Ne.symm hc

theorem plainLines_of_not_mem {cs : List Char} (h : '\r' ∉ cs) : plainLines cs = cs := by
  have hplain := plainLines_append h []
  rwa [List.append_nil, plainLines, List.append_nil] at hplain

section Files

variable {entries front : Entries}

theorem not_mem_of_nodup {e : List Char × Value}
    (h : ((front ++ e :: entries).map Prod.fst).Nodup) : e.1 ∉ front.map Prod.fst := by
  rw [List.map_append, List.map_cons] at h
  exact fun hold => (List.nodup_append.mp h).2.2 e.1 hold e.1 List.mem_cons_self rfl

/-- Lines for entries are read one by one, each into the table that the ones before left. -/
theorem linesIn_flatMap (h : Writable (front ++ entries)) {n : Nat} (hn : entries.length ≤ n) :
    linesIn n (openDefaults front) (entries.flatMap entryLine) =
      .ok (openDefaults (front ++ entries)) := by
  induction entries generalizing front n with
  | nil =>
    rw [List.append_nil]
    cases n <;> rfl
  | cons e entries ih =>
    obtain ⟨n, rfl⟩ := Nat.exists_eq_add_one_of_ne_zero (Nat.ne_zero_of_lt hn)
    have hmem : e ∈ front ++ e :: entries := List.mem_append_right front List.mem_cons_self
    have hnew : e.1 ∉ front.map Prod.fst := not_mem_of_nodup h.nodup
    have hrest : Writable ((front ++ [e]) ++ entries) := by
      rwa [List.append_assoc, List.singleton_append]
    rw [List.flatMap_cons, linesIn_entryLine (h.bare e hmem) hnew (h.plain e hmem),
      ih hrest (Nat.le_of_succ_le_succ hn), List.append_assoc, List.singleton_append]

theorem return_not_mem_name {name : List Char} (h : BareKey name) : '\r' ∉ name := by
  intro hc
  cases h.2 _ hc

theorem return_not_mem_entryLine {e : List Char × Value} (hbare : BareKey e.1) (hv : Plain e.2) :
    '\r' ∉ entryLine e := by
  have hequals : '\r' ∉ " = ".toList := by decide
  intro hc
  simp only [entryLine, List.mem_append, List.mem_singleton] at hc
  rcases hc with ((hc | hc) | hc) | hc
  · exact return_not_mem_name hbare hc
  · exact hequals hc
  · exact Toml.return_not_mem_literal hv hc
  · cases hc

theorem return_not_mem_header : '\r' ∉ '[' :: tableName.toList ++ [']', '\n'] := by decide

theorem return_not_mem_fileText (h : Writable entries) : '\r' ∉ fileText entries := by
  intro hc
  rcases List.mem_append.mp hc with hc | hc
  · exact return_not_mem_header hc
  · obtain ⟨e, he, hc⟩ := List.mem_flatMap.mp hc
    exact return_not_mem_entryLine (h.bare e he) (h.plain e he) hc

theorem length_le_flatMap (entries : Entries) :
    2 * entries.length ≤ (entries.flatMap entryLine).length := by
  induction entries with
  | nil => exact Nat.le_refl 0
  | cons e entries ih =>
    have hequals : " = ".toList.length = 3 := rfl
    have hline : 2 ≤ (entryLine e).length := by
      simp only [entryLine, List.length_append, List.length_cons, hequals]
      omega
    rw [List.flatMap_cons, List.length_append, List.length_cons]
    omega

/-- **The file that is written** is a document of one table, that of the defaults. -/
theorem read_fileText (h : Writable entries) :
    Toml.read (fileText entries) = .ok [(tableName.toList, .table entries)] := by
  have htext : fileText entries =
      '[' :: tableName.toList ++ ']' :: '\n' :: entries.flatMap entryLine := by
    simp [fileText]
  have hlength : entries.length ≤ (fileText entries).length := by
    have := length_le_flatMap entries
    simp only [htext, List.length_append, List.length_cons]
    omega
  have hlines : linesIn (fileText entries).length (openDefaults []) (entries.flatMap entryLine) =
      .ok (openDefaults entries) := @linesIn_flatMap entries [] h _ hlength
  rw [Toml.read, plainLines_of_not_mem (return_not_mem_fileText h), congrArg (linesIn _ {}) htext,
    linesIn_header, hlines]
  rfl

/-- Entries are written in place of a table exactly if no number in them is without a numeral. -/
theorem newFile_table (old entries : Entries) :
    newFile (.table old) entries =
      if ∀ e ∈ entries, e.2.hasNumerals = true then .ok (fileText entries)
      else .error .wrongLength := by
  simp only [newFile, namesHaveNumerals, Bool.true_and, List.all_eq_true]

theorem newFile_of_writable (h : Writable entries) (old : Entries) :
    newFile (.table old) entries = .ok (fileText entries) := by
  rw [newFile_table, if_pos fun e he => (h.plain e he).hasNumerals]

/-- **The defaults** are read back from the file that is written for them. -/
theorem defaultsValue_fileText (h : Writable entries) :
    defaultsValue (some (fileText entries)) = .ok (.table entries) := by
  simp [defaultsValue, read_fileText h]

end Files

end StatementShape.Config
