import StatementShape.Proofs.Config.Loaded
import StatementShape.Proofs.Config.Rewritten

/-!
# What saving one setting does to the others

Saving a setting writes all defaults anew, also those whose names are not known. If the names of the
others are bare keys, then each is read back under its name: a truth value, a whole number or a
string as it was, and any other value as the string of its text. But a single string with a control
character in it makes the file unreadable, and with a single number without a numeral, which a file
can hold in hexadecimal digits, no setting is saved at all.

## Main results

* `saveValue_of_bareKey`: saving a setting, and what becomes of all entries
* `exists_unreadable_save`: a file that is not readable any more when a setting is saved
-/

namespace StatementShape.Config

/-! ### Settings that are loaded -/

section Loaded

variable {entries : Entries} {settings settings' : Settings} {key : Key} {s : Setting} {v : Value}

/-- The value of a setting is read back as it was. -/
theorem rewritten_of_ofValue (h : Setting.ofValue key v = .ok s) : v.rewritten = v := by
  rw [← value_of_ofValue h]
  cases s <;> rfl

/-- Entries that are applied are applied in the same way when they are read back. -/
theorem applyAll_map_rewriteEntry (h : applyAll settings entries = .ok settings') :
    applyAll settings (entries.map rewriteEntry) = .ok settings' := by
  induction entries generalizing settings with
  | nil => exact h
  | cons e entries ih =>
    obtain ⟨next, hentry, hrest⟩ := applyAll_cons_eq_ok.mp h
    refine applyAll_cons_eq_ok.mpr ⟨next, ?_, ih hrest⟩
    rcases applyEntry_eq_ok hentry with ⟨hname, rfl⟩ | ⟨s, hname, hs, rfl⟩
    · exact applyEntry_of_ofName?_eq_none hname _ _
    · rw [rewriteEntry, rewritten_of_ofValue hs]
      exact hentry

end Loaded

/-! ### Saving -/

section Saving

variable {file : List Char} {tables entries : Entries} {settings : Settings} {key : Key}
  {s : Setting} {v : Value}

/-- The value of the defaults in a file that has some. -/
theorem defaultsValue_of_read (hread : Toml.read file = .ok tables)
    (htable : tables.lookup tableName.toList = some v) : defaultsValue (some file) = .ok v := by
  simp [defaultsValue, hread, htable]

/-- The defaults of a file with a table of them. -/
theorem defaults_of_read (hread : Toml.read file = .ok tables)
    (htable : tables.lookup tableName.toList = some (.table entries)) :
    defaults (some file) = .ok entries := by
  rw [defaults, defaultsValue_of_read hread htable]
  rfl

/-- Saving a value that is accepted, in a file with a table of defaults, writes a new file. -/
theorem saveValue_eq_newFile (hread : Toml.read file = .ok tables)
    (htable : tables.lookup tableName.toList = some (.table entries))
    (hvalue : Setting.ofValue key v = .ok s) :
    saveValue (some file) key.name.toList v =
      newFile (.table entries) (entries.put key.name.toList v) := by
  have hdefaults := defaultsValue_of_read hread htable
  obtain ⟨-, rfl⟩ := Setting.inRange_of_ofValue hvalue
  obtain rfl := value_of_ofValue hvalue
  simp [saveValue, Key.ofName?_name, hdefaults, entriesOf, hvalue]

/-- The names in the new defaults are bare keys: that of the saved setting is the name of a key. -/
theorem bareKey_of_mem_put (hbare : ∀ e ∈ entries, e.1 ≠ key.name.toList → BareKey e.1) :
    ∀ e ∈ entries.put key.name.toList v, BareKey e.1 := by
  intro e he
  by_cases hname : e.1 = key.name.toList
  · rw [hname]
    exact key.bareKey_name
  · rcases Entries.mem_of_mem_put he with rfl | he
    · exact absurd rfl hname
    · exact hbare e he hname

/-- A file with the new defaults, as they are read back, is loaded with the saved setting in place
of that of its key. -/
theorem load_of_read_again {text : List Char} (hread : Toml.read file = .ok tables)
    (htable : tables.lookup tableName.toList = some (.table entries))
    (hload : load (some file) = .ok settings) (hvalue : Setting.ofValue key v = .ok s)
    (hagain : Toml.read text =
      .ok [(tableName.toList, .table ((entries.put key.name.toList v).map rewriteEntry))]) :
    load (some text) = .ok (settings.apply s) := by
  have hdistinct : entries.Distinct := ((Toml.sound_read hread).lookup htable).distinct
  obtain ⟨entries', hdefaults', happly⟩ := load_eq_ok.mp hload
  obtain rfl : entries = entries' :=
    Except.ok.inj ((defaults_of_read hread htable).symm.trans hdefaults')
  obtain ⟨-, rfl⟩ := Setting.inRange_of_ofValue hvalue
  -- the saved value is read back as it was, and so are the values of the other settings
  have happly' := applyAll_map_rewriteEntry (applyAll_put hdistinct happly hvalue)
  exact load_eq_ok.mpr ⟨_, defaults_of_read hagain List.lookup_cons_self, happly'⟩

/-- **Saving one setting** in a file with a table of defaults, in which all other names are bare
keys. If a number in the new defaults has no numeral, then nothing is written. Otherwise, if no
string among the values has control characters, then the new file holds the defaults again, and
nothing else: the saved value under the name of its key, and under any other name what the old file
has there, as it is read back; it is loaded with the saved setting in place of that of its key. If a
string has such characters, then the new file cannot be read. -/
theorem saveValue_of_bareKey (hread : Toml.read file = .ok tables)
    (htable : tables.lookup tableName.toList = some (.table entries))
    (hload : load (some file) = .ok settings) (hvalue : Setting.ofValue key v = .ok s)
    (hbare : ∀ e ∈ entries, e.1 ≠ key.name.toList → BareKey e.1) :
    ((∃ e ∈ entries.put key.name.toList v, e.2.hasNumerals = false) →
      saveValue (some file) key.name.toList v = .error .wrongLength) ∧
    ((∀ e ∈ entries.put key.name.toList v, e.2.hasNumerals = true) →
      ∃ text, saveValue (some file) key.name.toList v = .ok text ∧
        ((∀ e ∈ entries.put key.name.toList v, Legible e.2) →
          ∃ entries', Toml.read text = .ok [(tableName.toList, .table entries')] ∧
            load (some text) = .ok (settings.apply s) ∧
            entries'.map Prod.fst = (entries.put key.name.toList v).map Prod.fst ∧
            entries'.lookup key.name.toList = some v ∧
            ∀ name ≠ key.name.toList,
              entries'.lookup name = (entries.lookup name).map Value.rewritten) ∧
        ((∃ e ∈ entries.put key.name.toList v, ¬ Legible e.2) →
          Toml.read text = .error .malformed)) := by
  have hdistinct : entries.Distinct := ((Toml.sound_read hread).lookup htable).distinct
  have hput : (entries.put key.name.toList v).Distinct := hdistinct.put _ v
  have hbare := bareKey_of_mem_put (v := v) hbare
  rw [saveValue_eq_newFile hread htable hvalue, newFile_table]
  refine ⟨fun ⟨e, he, hlong⟩ => if_neg fun hall => ?_, fun hnumerals => ?_⟩
  · rw [hall e he] at hlong
    cases hlong
  -- a file is written; whether it can be read again depends on the control characters in it
  rw [if_pos hnumerals]
  refine ⟨_, rfl, fun hlegible => ?_, read_fileText_eq_malformed hbare hnumerals hput⟩
  have hagain := read_fileText_of_legible hbare hlegible hnumerals hput
  refine ⟨_, hagain, load_of_read_again hread htable hload hvalue hagain, ?_, ?_,
    fun name hname => ?_⟩
  · rw [List.map_map]
    rfl
  · rw [lookup_map_rewriteEntry, Entries.lookup_put_self, Option.map_some,
      rewritten_of_ofValue hvalue]
  · rw [lookup_map_rewriteEntry, Entries.lookup_put_of_ne hname]

end Saving

/-- A sample file, with a quoted name, a string in single quotes and an array. -/
def sampleFile : List Char :=
  "[defaults]\nlog = true # all\n\"owner\" = 'a \"b\"'\ntags = [1]\n[more]\nx = 1\n".toList

/-- The defaults of the sample file. -/
def sampleDefaults : Entries :=
  [("log".toList, .bool true), ("owner".toList, .string "a \"b\"".toList),
    ("tags".toList, .array [.integer 1])]

theorem read_sampleFile : Toml.read sampleFile =
    .ok [(tableName.toList, .table sampleDefaults),
      ("more".toList, .table [("x".toList, .integer 1)])] :=
  toOption_eq_some.mp (by decide +kernel)

/-- A number of days without a numeral. -/
def longDays : Int := 16 ^ 3600

theorem inRange_longDays : Setting.InRange (.retentionDays longDays) :=
  show (1 : Int) ≤ 16 ^ 3600 from one_le_pow₀ (by decide)

theorem hasNumeral_longDays : Number.hasNumeral longDays = false := by
  have hpos : 0 ≤ longDays := Int.le_trans (by decide) inRange_longDays
  rw [Bool.eq_false_iff, ne_eq, Number.hasNumeral_iff_of_nonneg hpos, Int.not_lt]
  exact Number.ten_pow_mostDigits_le

/-- Saving in the sample file keeps the string, and makes the array one; a number without a numeral
is not saved. -/
theorem saveValue_of_bareKey_sample :
    saveValue (some sampleFile) "retention_days".toList (.integer longDays) =
        .error .wrongLength ∧
    ∃ text entries', saveValue (some sampleFile) "log".toList (.bool false) = .ok text ∧
      Toml.read text = .ok [(tableName.toList, .table entries')] ∧
      entries'.lookup "log".toList = some (.bool false) ∧
      entries'.lookup "owner".toList = some (.string "a \"b\"".toList) ∧
      entries'.lookup "tags".toList = some (.string "[1]".toList) := by
  have hload : load (some sampleFile) = .ok { log := true } :=
    load_eq_ok.mpr ⟨sampleDefaults, defaults_of_read read_sampleFile rfl, rfl⟩
  have hbare : ∀ e ∈ sampleDefaults, BareKey e.1 := by decide
  have hlegible : ∀ e ∈ sampleDefaults.put "log".toList (.bool false), Legible e.2 := by
    have howner : Clean "a \"b\"".toList := by decide
    simpa [sampleDefaults, Entries.put, Legible] using howner
  obtain ⟨hlong, -⟩ := saveValue_of_bareKey read_sampleFile rfl hload
    (Setting.ofValue_value inRange_longDays) fun e he _ => hbare e he
  obtain ⟨-, hsaved⟩ := saveValue_of_bareKey read_sampleFile rfl hload
    (show Setting.ofValue .log (.bool false) = .ok (.log false) from rfl) fun e he _ => hbare e he
  obtain ⟨text, hsave, hagain, -⟩ := hsaved (by decide)
  obtain ⟨entries', hread, -, -, hlog, hothers⟩ := hagain hlegible
  have hmem := Entries.mem_of_lookup (Entries.lookup_put_self Key.retentionDays.name.toList
    (Setting.retentionDays longDays).value sampleDefaults)
  refine ⟨hlong ⟨_, hmem, hasNumeral_longDays⟩, text, entries', hsave, hread, hlog,
    (hothers _ (by decide)).trans ?_, (hothers _ (by decide)).trans ?_⟩
  · decide
  · decide

/-- A file with an escaped line end in the string of a name that is not known. -/
def escapedFile : List Char := "[defaults]\ntitle = \"a\\nb\"\n".toList

/-- The defaults of that file. -/
def escapedDefaults : Entries := [("title".toList, .string "a\nb".toList)]

theorem read_escapedFile :
    Toml.read escapedFile = .ok [(tableName.toList, .table escapedDefaults)] :=
  toOption_eq_some.mp (by decide +kernel)

/-- **A file that becomes unreadable**: it is loaded, and a truth value is saved; then the line end
is written as it is, and the string does not end on its line. -/
theorem exists_unreadable_save :
    load (some escapedFile) = .ok {} ∧
      ∃ text, saveValue (some escapedFile) "log".toList (.bool false) = .ok text ∧
        Toml.read text = .error .malformed := by
  have hdefaults : defaults (some escapedFile) = .ok escapedDefaults :=
    defaults_of_read read_escapedFile rfl
  have hbare : ∀ e ∈ escapedDefaults.put "log".toList (.bool false), BareKey e.1 := by
    decide
  have hnumerals : ∀ e ∈ escapedDefaults.put "log".toList (.bool false),
      e.2.hasNumerals = true := by
    decide
  have hsave := saveValue_eq_newFile read_escapedFile rfl
    (show Setting.ofValue .log (.bool false) = .ok (.log false) from rfl)
  rw [newFile_table] at hsave
  replace hsave := hsave.trans (if_pos hnumerals)
  refine ⟨load_eq_ok.mpr ⟨_, hdefaults, rfl⟩, _, hsave, ?_⟩
  refine read_fileText_eq_malformed hbare hnumerals (by decide) ⟨_, List.mem_cons_self, fun h => ?_⟩
  cases h _ rfl '\n' (by decide)

end StatementShape.Config
