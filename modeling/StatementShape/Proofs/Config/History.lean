import Mathlib.Data.Bool.AllAny
import Mathlib.Data.List.Forall2
import Mathlib.Data.List.Induction
import Mathlib.Data.List.Nodup
import StatementShape.Proofs.Config.Spelling
import StatementShape.Proofs.Config.Written

/-!
# Saving one setting after another

Every save reads the whole file and writes it anew. What the file holds is told by a list of
settings with distinct keys, in the order in which the keys were first saved: a save replaces the
setting of its key, or adds one. So after any number of saves a setting has the value that was saved
last, and the others have kept theirs.

## Main definitions

* `saveText`, `saveTexts`: a text saved under a name, and texts saved one after another
* `Settings.get?`, `lastSaved?`: the setting of a key, and the one that was saved last
* `store`: what a save does to the settings that are stored
* `Holds`: a file that holds some settings

## Main results

* `Holds.save`: a save leaves a file that holds the setting, and all others as before
* `load_saveTexts`: after any number of saves, every setting has the value that was saved last
-/

namespace StatementShape.Config

open Toml (isControl Plain)

/-! ### Saving texts -/

/-- Saving a text under a name: it is parsed, and its value is saved. -/
def saveText (file : Option (List Char)) (name text : List Char) : Except Failure (List Char) :=
  (Setting.parse name text).mapError .fault >>= fun s => saveValue file name s.value

/-- Saving texts under names, one after another. -/
def saveTexts : Option (List Char) → List (List Char × List Char) →
    Except Failure (Option (List Char))
  | file, [] => .ok file
  | file, (name, text) :: calls =>
    saveText file name text >>= fun file => saveTexts (some file) calls

/-- What is parsed has the name of its key, and is in range. -/
theorem inRange_of_parse {name text : List Char} {s : Setting}
    (h : Setting.parse name text = .ok s) : name = s.key.name.toList ∧ s.InRange := by
  unfold Setting.parse at h
  split at h
  · next key hkey =>
    obtain rfl := Key.name_of_ofName? hkey
    cases key with
    | dialect => cases h; exact ⟨rfl, trivial⟩
    | format =>
      obtain ⟨hrange, hk⟩ := Setting.inRange_of_ofValue (k := .format) (v := .string text) h
      exact ⟨by rw [hk], hrange⟩
    | log =>
      simp only [Setting.ofText] at h
      split at h
      · cases h; exact ⟨rfl, trivial⟩
      · cases h
    | retentionDays =>
      simp only [Setting.ofText] at h
      split at h
      · next days _ =>
        obtain ⟨hrange, hk⟩ :=
          Setting.inRange_of_ofValue (k := .retentionDays) (v := .integer days) h
        exact ⟨by rw [hk], hrange⟩
      · cases h
  · cases h

/-- A setting from a value has that value. -/
theorem value_of_ofValue {k : Key} {v : Value} {s : Setting}
    (h : Setting.ofValue k v = .ok s) : s.value = v := by
  unfold Setting.ofValue at h
  split at h
  · exact Except.ok.inj h ▸ rfl
  · unfold Setting.ofFormatName at h
    split at h
    · next f hf =>
      have hname := List.find?_some hf
      rw [beq_iff_eq] at hname
      rw [← Except.ok.inj h, Setting.value, hname, String.toList_ofList]
    · cases h
  · exact Except.ok.inj h ▸ rfl
  · unfold Setting.ofDays at h
    split at h
    · cases h
    · exact Except.ok.inj h ▸ rfl
  · cases h

/-- A number that is parsed has a numeral. -/
theorem hasNumerals_of_parse {name text : List Char} {s : Setting}
    (h : Setting.parse name text = .ok s) : s.value.hasNumerals = true := by
  cases s with
  | retentionDays days =>
    have hkey := Key.ofName?_name .retentionDays
    obtain ⟨rfl, -⟩ := inRange_of_parse h
    simp only [Setting.parse, Setting.key, hkey, Setting.ofText] at h
    split at h
    · next n hn =>
      have hdays := value_of_ofValue (k := .retentionDays) (v := .integer n) h
      rw [hdays]
      exact hasNumeral_of_integerOf? hn
    · cases h
  | _ => rfl

/-! ### Settings by their keys -/

/-- The setting of a key; a dialect that is not chosen is none. -/
def Settings.get? (settings : Settings) : Key → Option Setting
  | .dialect => settings.dialect.map .dialect
  | .format => some (.format settings.format)
  | .log => some (.log settings.log)
  | .retentionDays => some (.retentionDays settings.retentionDays)

/-- The setting of a key that was saved last. -/
def lastSaved? (key : Key) (saved : List Setting) : Option Setting :=
  (saved.filter fun s => s.key = key).getLast?

section Keys

variable {key : Key} {s : Setting} {saved stored : List Setting}

/-- Applying a setting changes that of its key alone. -/
theorem Settings.get?_apply (settings : Settings) (s : Setting) (key : Key) :
    (settings.apply s).get? key = if s.key = key then some s else settings.get? key := by
  cases s <;> cases key <;> rfl

@[simp] theorem lastSaved?_nil (key : Key) : lastSaved? key [] = none := rfl

theorem lastSaved?_of_not_mem (h : key ∉ saved.map Setting.key) : lastSaved? key saved = none := by
  have hnone : saved.filter (fun s => s.key = key) = [] := by
    rw [List.filter_eq_nil_iff]
    intro s hs heq
    exact h (of_decide_eq_true heq ▸ List.mem_map_of_mem hs)
  rw [lastSaved?, hnone]
  rfl

theorem lastSaved?_cons (key : Key) (s : Setting) (saved : List Setting) :
    lastSaved? key (s :: saved) =
      (lastSaved? key saved).or (if s.key = key then some s else none) := by
  unfold lastSaved?
  by_cases hkey : s.key = key
  · rw [List.filter_cons_of_pos (by simpa using hkey), if_pos hkey, List.getLast?_cons]
    cases (saved.filter fun s => s.key = key).getLast? <;> rfl
  · rw [List.filter_cons_of_neg (by simpa using hkey), if_neg hkey, Option.or_none]

theorem lastSaved?_concat (key : Key) (saved : List Setting) (s : Setting) :
    lastSaved? key (saved ++ [s]) = if s.key = key then some s else lastSaved? key saved := by
  unfold lastSaved?
  rw [List.filter_append]
  split <;> simp [*]

/-- Applying settings one after another leaves the last one of each key. -/
theorem Settings.get?_foldl_apply (settings : Settings) (saved : List Setting) (key : Key) :
    (saved.foldl Settings.apply settings).get? key =
      (lastSaved? key saved).or (settings.get? key) := by
  induction saved using List.reverseRecOn with
  | nil => rfl
  | append_singleton saved s ih =>
    rw [List.foldl_append, List.foldl_cons, List.foldl_nil, Settings.get?_apply, ih,
      lastSaved?_concat]
    split <;> rfl

end Keys

/-! ### What is stored -/

/-- The entry that is written for a setting. -/
def Setting.entry (s : Setting) : List Char × Value := (s.key.name.toList, s.value)

/-- Storing a setting in the place of that of its key, or behind the others. -/
def store (s : Setting) : List Setting → List Setting
  | [] => [s]
  | t :: ts => if t.key = s.key then s :: ts else t :: store s ts

/-- Characters that no string on one line may hold: the control characters but the tab. -/
def Forbidden (c : Char) : Prop :=
  c.toNat ≤ 0x8 ∨ (0xA ≤ c.toNat ∧ c.toNat ≤ 0x1F) ∨ c.toNat = 0x7F

instance : DecidablePred Forbidden := fun c =>
  inferInstanceAs (Decidable (c.toNat ≤ 0x8 ∨ (0xA ≤ c.toNat ∧ c.toNat ≤ 0x1F) ∨ c.toNat = 0x7F))

/-- Settings that can be saved: they are in range, no number is without a numeral, and no dialect
holds a forbidden character. -/
structure Setting.Saveable (s : Setting) : Prop where
  inRange : s.InRange
  numerals : s.value.hasNumerals = true
  clean : ∀ name, s = .dialect name → ∀ c ∈ name, ¬ Forbidden c

/-- Settings that are stored together: one for each key at most. -/
structure Stored (stored : List Setting) : Prop where
  saveable : ∀ s ∈ stored, s.Saveable
  nodup : (stored.map Setting.key).Nodup

section Storing

variable {key : Key} {s : Setting} {stored : List Setting}

theorem Key.name_injective {k l : Key} (h : k.name.toList = l.name.toList) : k = l := by
  have hk := Key.ofName?_name k
  rw [h, Key.ofName?_name] at hk
  exact (Option.some.inj hk).symm

theorem Key.bareKey_name (k : Key) : BareKey k.name.toList := by
  cases k <;> exact ⟨by decide, List.all_eq_true.mp rfl⟩

theorem isControl_of_not_forbidden {c : Char} (h : ¬ Forbidden c) : isControl c = false := by
  refine Bool.eq_false_iff.mpr fun hc => h ?_
  simp only [isControl, Bool.or_eq_true, Bool.and_eq_true, decide_eq_true_eq] at hc
  rcases hc with ⟨hlt, htab⟩ | rfl
  · have hlt : c.toNat < 32 := hlt
    have htab : c.toNat ≠ 9 := fun heq => htab (Char.toNat_inj.mp heq)
    unfold Forbidden
    omega
  · exact .inr (.inr rfl)

/-- The value of a setting that can be saved is plain. -/
theorem plain_value (h : s.Saveable) : Plain s.value := by
  cases s with
  | dialect name =>
    exact Plain.string fun c hc => isControl_of_not_forbidden (h.clean name rfl c hc)
  | format f => exact Plain.string (by cases f <;> exact List.all_iff_forall_prop.mp rfl)
  | log on => exact Plain.bool on
  | retentionDays days => exact Plain.integer h.numerals

/-- Settings that are stored together can be written. -/
theorem Stored.writable (h : Stored stored) : Writable (stored.map Setting.entry) where
  bare e he := by
    obtain ⟨s, -, rfl⟩ := List.mem_map.mp he
    exact s.key.bareKey_name
  plain e he := by
    obtain ⟨s, hs, rfl⟩ := List.mem_map.mp he
    exact plain_value (h.saveable s hs)
  nodup := by
    have hnames : (stored.map Setting.entry).map Prod.fst =
        (stored.map Setting.key).map fun k => k.name.toList := by
      rw [List.map_map, List.map_map]
      rfl
    rw [hnames]
    exact List.Nodup.map (fun _ _ => Key.name_injective) h.nodup

/-- Storing a setting puts its entry. -/
theorem map_entry_store (s : Setting) (stored : List Setting) :
    (store s stored).map Setting.entry =
      Entries.put s.key.name.toList s.value (stored.map Setting.entry) := by
  induction stored with
  | nil => rfl
  | cons t ts ih =>
    rw [store, List.map_cons, Setting.entry, Entries.put]
    by_cases hkey : t.key = s.key
    · rw [if_pos hkey, if_pos (by rw [hkey]), List.map_cons, Setting.entry, hkey]
    · rw [if_neg hkey, if_neg (fun h => hkey (Key.name_injective h)), List.map_cons, ih]
      rfl

theorem mem_of_mem_store {t : Setting} (h : t ∈ store s stored) : t = s ∨ t ∈ stored := by
  induction stored with
  | nil => exact .inl (List.mem_singleton.mp h)
  | cons u us ih =>
    rw [store] at h
    split at h
    · rcases List.mem_cons.mp h with rfl | h
      · exact .inl rfl
      · exact .inr (List.mem_cons_of_mem u h)
    · rcases List.mem_cons.mp h with rfl | h
      · exact .inr List.mem_cons_self
      · exact (ih h).imp_right (List.mem_cons_of_mem u)

/-- Storing a setting that can be saved keeps the others, one for each key. -/
theorem Stored.store (h : Stored stored) (hs : s.Saveable) : Stored (store s stored) where
  saveable t ht := by
    rcases mem_of_mem_store ht with rfl | ht
    · exact hs
    · exact h.saveable t ht
  nodup := by
    induction stored with
    | nil => simp [Config.store]
    | cons u us ih =>
      obtain ⟨hu, hus⟩ := List.nodup_cons.mp h.nodup
      have ih := ih ⟨fun t ht => h.saveable t (List.mem_cons_of_mem u ht), hus⟩
      rw [Config.store]
      split
      · next hkey =>
        rw [List.map_cons, List.nodup_cons, ← hkey]
        exact ⟨hu, hus⟩
      · next hkey =>
        rw [List.map_cons, List.nodup_cons]
        -- a setting with this key behind it would be the new one, or one that was there before
        refine ⟨fun hmem => ?_, ih⟩
        obtain ⟨t, ht, hk⟩ := List.mem_map.mp hmem
        rcases mem_of_mem_store ht with rfl | ht
        · exact hkey hk.symm
        · exact hu (hk ▸ List.mem_map_of_mem ht)

/-- The last setting of a key in what is stored is the one that was just stored, or that from
before. -/
theorem lastSaved?_store (h : (stored.map Setting.key).Nodup) (s : Setting) (key : Key) :
    lastSaved? key (store s stored) = if s.key = key then some s else lastSaved? key stored := by
  induction stored with
  | nil => simp [store, lastSaved?_cons]
  | cons t ts ih =>
    obtain ⟨ht, hts⟩ := List.nodup_cons.mp h
    have ih := ih hts
    rw [store]
    by_cases hkey : t.key = s.key
    · rw [if_pos hkey, lastSaved?_cons, lastSaved?_cons, hkey]
      split
      · next hs =>
        -- the setting that is replaced was the only one of its key
        rw [hkey, hs] at ht
        rw [lastSaved?_of_not_mem ht]
        rfl
      · rfl
    · rw [if_neg hkey, lastSaved?_cons, lastSaved?_cons, ih]
      split
      · rfl
      · rfl

/-- Storing settings one after another leaves the last one of each key. -/
theorem lastSaved?_foldl_store (h : Stored stored) {saved : List Setting}
    (hsaved : ∀ s ∈ saved, s.Saveable) (key : Key) :
    lastSaved? key (saved.foldl (fun ts s => store s ts) stored) =
      (lastSaved? key saved).or (lastSaved? key stored) := by
  induction saved generalizing stored with
  | nil => rfl
  | cons s saved ih =>
    obtain ⟨hs, hsaved⟩ := List.forall_mem_cons.mp hsaved
    rw [List.foldl_cons, ih (h.store hs) hsaved, lastSaved?_store h.nodup, lastSaved?_cons,
      Option.or_assoc]
    split <;> rfl

end Storing

/-! ### Files that hold settings -/

/-- A file that holds settings: the one that is written for them, or none if there are none. -/
structure Holds (file : Option (List Char)) (stored : List Setting) : Prop where
  sound : Stored stored
  written : file = some (fileText (stored.map Setting.entry)) ∨ file = none ∧ stored = []

section Files

variable {file : Option (List Char)} {stored : List Setting} {s : Setting}

theorem holds_none : Holds none [] := ⟨⟨by simp, List.nodup_nil⟩, .inr ⟨rfl, rfl⟩⟩

/-- The defaults in a file are the entries of the settings that it holds. -/
theorem Holds.defaultsValue (h : Holds file stored) :
    Config.defaultsValue file = .ok (.table (stored.map Setting.entry)) := by
  obtain rfl | ⟨rfl, rfl⟩ := h.written
  · exact defaultsValue_fileText h.sound.writable
  · rfl

theorem applyEntry_entry (settings : Settings) (h : s.InRange) :
    applyEntry settings s.entry = .ok (settings.apply s) := by
  simp [applyEntry, Setting.entry, Key.ofName?_name, Setting.ofValue_value h, Except.map]

/-- The entries of settings in range are applied without a fault. -/
theorem applyAll_map_entry (h : ∀ s ∈ stored, s.InRange) (settings : Settings) :
    applyAll settings (stored.map Setting.entry) = .ok (stored.foldl Settings.apply settings) := by
  induction stored generalizing settings with
  | nil => rfl
  | cons s stored ih =>
    obtain ⟨hs, hstored⟩ := List.forall_mem_cons.mp h
    rw [List.map_cons, applyAll, List.foldlM_cons, applyEntry_entry settings hs]
    exact ih hstored (settings.apply s)

/-- Loading a file gives the settings that it holds. -/
theorem Holds.load (h : Holds file stored) :
    Config.load file = .ok (stored.foldl Settings.apply {}) := by
  have happly := applyAll_map_entry (fun s hs => (h.sound.saveable s hs).inRange) {}
  simp [Config.load, defaults, h.defaultsValue, entriesOf, happly]

/-- The file that is written for a single setting is loaded with it. -/
theorem load_fileText_entry (hs : s.Saveable) :
    Config.load (some (fileText [s.entry])) = .ok (({} : Settings).apply s) := by
  have hstored : Stored [s] := ⟨by simpa using hs, List.nodup_singleton _⟩
  have hholds : Holds (some (fileText [s.entry])) [s] := ⟨hstored, .inl rfl⟩
  exact hholds.load

/-- **Saving a setting** succeeds, and leaves a file that holds it with all others. -/
theorem Holds.save (h : Holds file stored) (hs : s.Saveable) :
    ∃ text, saveValue file s.key.name.toList s.value = .ok text ∧
      Holds (some text) (store s stored) := by
  refine ⟨fileText ((store s stored).map Setting.entry), ?_, h.sound.store hs, .inl rfl⟩
  have hwrite := newFile_of_writable (h.sound.store hs).writable (stored.map Setting.entry)
  rw [map_entry_store] at hwrite
  simp [saveValue_value file hs.inRange, Config.save, h.defaultsValue, entriesOf, map_entry_store,
    hwrite]

/-- Saving a text that is parsed to a setting saves the setting. -/
theorem Holds.saveText (h : Holds file stored) {name text : List Char}
    (hparse : Setting.parse name text = .ok s) (hs : s.Saveable) :
    ∃ text', Config.saveText file name text = .ok text' ∧ Holds (some text') (store s stored) := by
  obtain ⟨rfl, -⟩ := inRange_of_parse hparse
  simpa [Config.saveText, hparse, Except.mapError, bind, Except.bind] using h.save hs

/-- Saving texts one after another stores the settings that they are parsed to. -/
theorem Holds.saveTexts (h : Holds file stored) {calls : List (List Char × List Char)}
    {saved : List Setting}
    (hparse : List.Forall₂ (fun call s => Setting.parse call.1 call.2 = .ok s) calls saved)
    (hsaved : ∀ s ∈ saved, s.Saveable) :
    ∃ file', Config.saveTexts file calls = .ok file' ∧
      Holds file' (saved.foldl (fun ts s => store s ts) stored) := by
  -- the file and what it holds change with every save; that the one holds the other stays
  induction hparse generalizing file stored with
  | nil => exact ⟨file, rfl, h⟩
  | @cons call s calls saved hcall _ ih =>
    obtain ⟨hs, hsaved⟩ := List.forall_mem_cons.mp hsaved
    obtain ⟨text, htext, hholds⟩ := h.saveText hcall hs
    obtain ⟨file', hfile', hholds'⟩ := ih hholds hsaved
    refine ⟨file', ?_, hholds'⟩
    rw [Config.saveTexts, htext]
    exact hfile'

end Files

/-- **The history of the settings.** However many texts are saved one after another, beginning
without a file, with no forbidden character in any dialect: every save succeeds, the settings can be
loaded, and each has the value that was saved last, or its default if there is none. -/
theorem load_saveTexts {calls : List (List Char × List Char)} {saved : List Setting}
    (hparse : List.Forall₂ (fun call s => Setting.parse call.1 call.2 = .ok s) calls saved)
    (hclean : ∀ name, Setting.dialect name ∈ saved → ∀ c ∈ name, ¬ Forbidden c) :
    ∃ file settings, saveTexts none calls = .ok file ∧ load file = .ok settings ∧
      ∀ key, settings.get? key = (lastSaved? key saved).or (Settings.get? {} key) := by
  have hsaved : ∀ s ∈ saved, s.Saveable := by
    intro s hs
    obtain ⟨call, -, hcall⟩ := exists_mem_of_forall₂ hparse hs
    refine ⟨(inRange_of_parse hcall).2, hasNumerals_of_parse hcall, ?_⟩
    rintro name rfl
    exact hclean name hs
  obtain ⟨file, hfile, hholds⟩ := holds_none.saveTexts hparse hsaved
  refine ⟨file, _, hfile, hholds.load, fun key => ?_⟩
  rw [Settings.get?_foldl_apply, lastSaved?_foldl_store holds_none.sound hsaved, lastSaved?_nil,
    Option.or_none]

/-- Sample texts, with all that has a meaning in the file: quotes, backslashes, comments, keys
and tables. -/
def sampleCalls : List (List Char × List Char) :=
  [("dialect".toList, []), ("retention_days".toList, " +0_07 ".toList),
    ("dialect".toList, "\\\"\\u0041 # é = [".toList), ("log".toList, "False".toList),
    ("retention_days".toList, "90".toList)]

/-- What the sample texts are parsed to. -/
def sampleSaved : List Setting :=
  [.dialect [], .retentionDays 7, .dialect "\\\"\\u0041 # é = [".toList, .log false,
    .retentionDays 90]

/-- The sample texts are saved, and the last ones are loaded; no format is among them. -/
theorem load_saveTexts_sample :
    ∃ file settings, saveTexts none sampleCalls = .ok file ∧ load file = .ok settings ∧
      settings.get? .dialect = some (.dialect "\\\"\\u0041 # é = [".toList) ∧
      settings.get? .format = some (.format .text) ∧ settings.get? .log = some (.log false) ∧
      settings.get? .retentionDays = some (.retentionDays 90) := by
  have hparse : List.Forall₂ (fun call s => Setting.parse call.1 call.2 = .ok s) sampleCalls
      sampleSaved := by
    refine .cons rfl (.cons rfl (.cons rfl (.cons rfl (.cons rfl .nil))))
  have hclean : ∀ name, Setting.dialect name ∈ sampleSaved → ∀ c ∈ name, ¬ Forbidden c := by
    intro name h
    simp only [sampleSaved, List.mem_cons, List.not_mem_nil, Setting.dialect.injEq, reduceCtorEq,
      or_false, false_or] at h
    rcases h with rfl | rfl <;> exact List.all_iff_forall_prop.mp rfl
  obtain ⟨file, settings, hfile, hload, hget⟩ := load_saveTexts hparse hclean
  exact ⟨file, settings, hfile, hload, hget .dialect, hget .format, hget .log, hget .retentionDays⟩

end StatementShape.Config
