import StatementShape.Proofs.Config.Frame

/-!
# Defaults overlaid with entries

A key accepts some values and refuses all others, each for a fault of its own. A table of defaults
is loaded exactly if every entry with the name of a key is accepted. Each setting then has the value
of its entry, or that without a file if there is no entry, so that neither the order of the entries
nor the entries under other names count. Otherwise the first entry that is refused gives the fault,
whatever stands behind it.

The fault of a value that has a number without a numeral in it cannot be worded, and a document with
a decimal number that is too long is not read to its end. Neither is told as a fault.

## Main definitions

* `Accepts`, `Refuses`: the values that a key accepts, and the faults of all others
* `Settings.value?`: the value of a setting, by its key
* `Accepted`, `FirstFault`: entries that are accepted, and the fault of the first one that is not
* `Overlays`: settings that are those of a table, laid over others
* `HasDefaults`: documents with a table of defaults, or without any defaults

## Main results

* `exists_of_accepts`, `ofValue_of_refuses`: what is made of a value
* `exists_applyAll_of_accepted`, `applyAll_of_firstFault`: what is made of entries
* `load_of_hasDefaults`: what is made of a document
* `exists_unworded_fault`: a document with a fault that is not told
-/

namespace StatementShape.Config

open Report (Format)

/-! ### Values -/

/-- Values that a key accepts. -/
inductive Accepts : Key → Value → Prop
  | dialect (name : List Char) : Accepts .dialect (.string name)
  | text : Accepts .format (.string "text".toList)
  | json : Accepts .format (.string "json".toList)
  | log (on : Bool) : Accepts .log (.bool on)
  | days {days : Int} (h : 1 ≤ days) : Accepts .retentionDays (.integer days)

/-- Values of the type that a key has. A truth value is no number. -/
inductive HasType : Key → Value → Prop
  | dialect (name : List Char) : HasType .dialect (.string name)
  | format (name : List Char) : HasType .format (.string name)
  | log (on : Bool) : HasType .log (.bool on)
  | days (days : Int) : HasType .retentionDays (.integer days)

/-- The fault of a value that a key refuses: it has another type, or it is no format, or a
number below one. -/
inductive Refuses : Key → Value → Fault → Prop
  | wrongType {k : Key} {v : Value} (h : ¬ HasType k v) : Refuses k v (.wrongType k v)
  | unknownFormat {name : List Char} (notText : name ≠ "text".toList)
      (notJson : name ≠ "json".toList) : Refuses .format (.string name) .unknownFormat
  | tooFewDays {days : Int} (h : days < 1) : Refuses .retentionDays (.integer days) .tooFewDays

section Values

variable {k : Key} {v : Value} {s : Setting} {f : Fault} {name : List Char}

/-- There are two formats, and no other name is that of one. -/
theorem ofFormatName_cases (name : List Char) :
    name = "text".toList ∧ Setting.ofFormatName name = .ok (.format .text) ∨
    name = "json".toList ∧ Setting.ofFormatName name = .ok (.format .json) ∨
    (name ≠ "text".toList ∧ name ≠ "json".toList) ∧
      Setting.ofFormatName name = .error .unknownFormat := by
  by_cases htext : name = "text".toList
  · exact .inl ⟨htext, htext ▸ rfl⟩
  by_cases hjson : name = "json".toList
  · exact .inr (.inl ⟨hjson, hjson ▸ rfl⟩)
  refine .inr (.inr ⟨⟨htext, hjson⟩, ?_⟩)
  have hnone : Format.ofName? (String.ofList name) = none := by
    have hne : ∀ f : Format, name ≠ f.name.toList → (f.name == String.ofList name) = false := by
      intro f h
      rw [beq_eq_false_iff_ne]
      rintro heq
      exact h (by rw [heq, String.toList_ofList])
    simp [Format.ofName?, hne .text htext, hne .json hjson]
  rw [Setting.ofFormatName, hnone]

/-- **A value that is accepted** makes the setting of the key with that value. -/
theorem exists_of_accepts (h : Accepts k v) :
    ∃ s : Setting, s.key = k ∧ s.value = v ∧ Setting.ofValue k v = .ok s := by
  cases h with
  | dialect name => exact ⟨.dialect name, rfl, rfl, rfl⟩
  | text => exact ⟨.format .text, rfl, rfl, rfl⟩
  | json => exact ⟨.format .json, rfl, rfl, rfl⟩
  | log on => exact ⟨.log on, rfl, rfl, rfl⟩
  | @days days h =>
    refine ⟨.retentionDays days, rfl, rfl, ?_⟩
    simp [Setting.ofValue, Setting.ofDays, Int.not_lt.mpr h]

/-- **A value that is refused** gives its fault. -/
theorem ofValue_of_refuses (h : Refuses k v f) : Setting.ofValue k v = .error f := by
  cases h with
  | wrongType h =>
    unfold Setting.ofValue
    split
    · exact absurd (.dialect _) h
    · exact absurd (.format _) h
    · exact absurd (.log _) h
    · exact absurd (.days _) h
    · rfl
  | @unknownFormat name htext hjson =>
    rcases ofFormatName_cases name with ⟨rfl, -⟩ | ⟨rfl, -⟩ | ⟨-, hfault⟩
    · exact absurd rfl htext
    · exact absurd rfl hjson
    · exact hfault
  | tooFewDays h => simp [Setting.ofValue, Setting.ofDays, h]

/-- Every value is accepted or refused. -/
theorem accepts_or_refuses (k : Key) (v : Value) : Accepts k v ∨ ∃ f, Refuses k v f := by
  by_cases htype : HasType k v
  · cases htype with
    | dialect name => exact .inl (.dialect name)
    | format name =>
      rcases ofFormatName_cases name with ⟨rfl, -⟩ | ⟨rfl, -⟩ | ⟨⟨htext, hjson⟩, -⟩
      · exact .inl .text
      · exact .inl .json
      · exact .inr ⟨_, .unknownFormat htext hjson⟩
    | log on => exact .inl (.log on)
    | days days =>
      rcases Int.lt_or_le days 1 with h | h
      · exact .inr ⟨_, .tooFewDays h⟩
      · exact .inl (.days h)
  · exact .inr ⟨_, .wrongType htype⟩

end Values

/-! ### Settings by their values -/

/-- The value of a setting, by its key; a dialect that is not chosen has none. -/
def Settings.value? (settings : Settings) (k : Key) : Option Value :=
  (settings.get? k).map Setting.value

/-- Settings are told by their values. -/
theorem Settings.ext_value? {settings settings' : Settings}
    (h : ∀ k, settings.value? k = settings'.value? k) : settings = settings' := by
  have hname : ∀ f f' : Format, f.name.toList = f'.name.toList → f = f' := by
    rintro (_ | _) (_ | _) <;> decide
  obtain ⟨dialect, format, log, days⟩ := settings
  obtain ⟨dialect', format', log', days'⟩ := settings'
  have hdialect := h .dialect
  have hformat := h .format
  have hlog := h .log
  have hdays := h .retentionDays
  simp only [value?, get?, Option.map_some, Option.some.injEq, Setting.value, Value.string.injEq,
    Value.bool.injEq, Value.integer.injEq] at hformat hlog hdays
  obtain rfl : dialect = dialect' := by
    have hinj : Function.Injective fun name : List Char => (Setting.dialect name).value :=
      fun _ _ h => Value.string.inj h
    exact Option.map_injective hinj (by simpa [value?, get?, Function.comp_def] using hdialect)
  obtain rfl := hname _ _ hformat
  rw [hlog, hdays]

theorem Settings.value?_apply (settings : Settings) (s : Setting) (k : Key) :
    (settings.apply s).value? k = if s.key = k then some s.value else settings.value? k := by
  rw [value?, get?_apply]
  split <;> rfl

/-! ### Entries -/

/-- Entries that are accepted: those under the name of a key have a value that it accepts. -/
def Accepted (entries : Entries) : Prop :=
  ∀ e ∈ entries, ∀ k : Key, e.1 = k.name.toList → Accepts k e.2

/-- The fault of the first entry that is refused, whatever entries stand behind it. -/
def FirstFault (entries : Entries) (f : Fault) : Prop :=
  ∃ before e after, entries = before ++ e :: after ∧ Accepted before ∧
    ∃ k : Key, e.1 = k.name.toList ∧ Refuses k e.2 f

/-- Settings that are those of a table, laid over others: each has the value of its entry, or
the one it had. -/
def Overlays (entries : Entries) (settings settings' : Settings) : Prop :=
  ∀ k, settings'.value? k = (entries.lookup k.name.toList).or (settings.value? k)

/-- The entries under names of keys. -/
def known (entries : Entries) : Entries := entries.filter fun e => (Key.ofName? e.1).isSome

section Entries

variable {entries entries' : Entries} {settings settings' : Settings} {e : List Char × Value}
  {f : Fault} {k : Key} {v : Value}

theorem accepted_cons : Accepted (e :: entries) ↔
    (∀ k : Key, e.1 = k.name.toList → Accepts k e.2) ∧ Accepted entries := by
  simp [Accepted]

theorem mem_known : e ∈ known entries ↔ e ∈ entries ∧ ∃ k : Key, e.1 = k.name.toList := by
  rw [known, List.mem_filter, Option.isSome_iff_exists]
  refine and_congr_right fun _ => exists_congr fun k => ?_
  constructor
  · exact fun h => (Key.name_of_ofName? h).symm
  · exact fun h => h ▸ Key.ofName?_name k

theorem accepted_known : Accepted (known entries) ↔ Accepted entries := by
  constructor
  · exact fun h e he k hk => h e (mem_known.mpr ⟨he, k, hk⟩) k hk
  · exact fun h e he => h e (mem_known.mp he).1

/-- **Entries that are accepted** are laid over the settings there are, one by one. -/
theorem exists_applyAll_of_accepted (h : Accepted entries) (settings : Settings) :
    ∃ settings', applyAll settings entries = .ok settings' ∧
      (entries.Distinct → Overlays entries settings settings') := by
  -- along the entries, with the settings that those in front have left
  induction entries generalizing settings with
  | nil => exact ⟨settings, rfl, fun _ k => rfl⟩
  | cons e entries ih =>
    obtain ⟨name, v⟩ := e
    obtain ⟨hvalue, hrest⟩ := accepted_cons.mp h
    cases hname : Key.ofName? name with
    | none =>
      have hne : ∀ k : Key, k.name.toList ≠ name := by
        rintro k rfl
        rw [Key.ofName?_name] at hname
        cases hname
      obtain ⟨settings', happly, hoverlays⟩ := ih hrest settings
      refine ⟨settings', applyAll_cons_eq_ok.mpr
        ⟨settings, applyEntry_of_ofName?_eq_none hname v settings, happly⟩, fun hdistinct k => ?_⟩
      rw [hoverlays (List.nodup_cons.mp hdistinct).2 k, List.lookup_cons, beq_false_of_ne (hne k)]
    | some key =>
      obtain rfl := Key.name_of_ofName? hname
      obtain ⟨s, rfl, rfl, hs⟩ := exists_of_accepts (hvalue key rfl)
      obtain ⟨settings', happly, hoverlays⟩ := ih hrest (settings.apply s)
      refine ⟨settings', applyAll_cons_eq_ok.mpr
        ⟨_, applyEntry_of_ofValue hs settings, happly⟩, fun hdistinct k => ?_⟩
      have hnew := (List.nodup_cons.mp hdistinct).1
      rw [hoverlays (List.nodup_cons.mp hdistinct).2 k, Settings.value?_apply]
      by_cases hk : s.key = k
      · -- no other entry has the name of this key, so that its setting is not laid over again
        subst hk
        rw [Entries.lookup_of_not_mem hnew]
        simp
      · have hne : k.name.toList ≠ s.key.name.toList := fun h => hk (Key.name_injective h).symm
        rw [List.lookup_cons, beq_false_of_ne hne, if_neg hk]

/-- **The first entry that is refused** gives the fault. -/
theorem applyAll_of_firstFault (h : FirstFault entries f) (settings : Settings) :
    applyAll settings entries = .error f := by
  obtain ⟨before, ⟨name, v⟩, after, rfl, hbefore, k, rfl, hrefuses⟩ := h
  obtain ⟨settings', hfront, -⟩ := exists_applyAll_of_accepted hbefore settings
  have hentry : applyEntry settings' (k.name.toList, v) = .error f := by
    rw [applyEntry, Key.ofName?_name]
    exact map_eq_error.mpr (ofValue_of_refuses hrefuses)
  rw [applyAll, List.foldlM_append]
  exact bind_eq_error.mpr (.inr ⟨settings', hfront, bind_eq_error.mpr (.inl hentry)⟩)

/-- Entries are accepted, or there is a first one that is refused. -/
theorem accepted_or_firstFault (entries : Entries) :
    Accepted entries ∨ ∃ f, FirstFault entries f := by
  induction entries with
  | nil => exact .inl fun _ h => nomatch h
  | cons e entries ih =>
    by_cases hentry : ∀ k : Key, e.1 = k.name.toList → Accepts k e.2
    · rcases ih with hrest | ⟨f, before, e', after, rfl, hbefore, hrefuses⟩
      · exact .inl (accepted_cons.mpr ⟨hentry, hrest⟩)
      · exact .inr ⟨f, e :: before, e', after, rfl, accepted_cons.mpr ⟨hentry, hbefore⟩, hrefuses⟩
    · push Not at hentry
      obtain ⟨k, hk, hnot⟩ := hentry
      obtain ⟨f, hrefuses⟩ := (accepts_or_refuses k e.2).resolve_left hnot
      exact .inr ⟨f, [], e, entries, rfl, (fun _ h => nomatch h), k, hk, hrefuses⟩

/-- Distinct names each have the entry that is found. -/
theorem lookup_eq_some_iff_mem (h : entries.Distinct) {name : List Char} :
    entries.lookup name = some v ↔ (name, v) ∈ entries := by
  refine ⟨Entries.mem_of_lookup, fun hmem => ?_⟩
  obtain ⟨before, after, rfl⟩ := List.append_of_mem hmem
  refine List.lookup_eq_some_iff.mpr ⟨before, after, rfl, fun e he => ?_⟩
  rw [Entries.Distinct, List.map_append, List.nodup_append] at h
  have hne : e.1 ≠ name :=
    h.2.2 _ (List.mem_map_of_mem he) _ (List.mem_map_of_mem List.mem_cons_self)
  simpa using hne.symm

/-- The order of entries does not count, nor do entries under other names. -/
theorem overlays_of_perm (hdistinct : entries.Distinct) (hdistinct' : entries'.Distinct)
    (hperm : (known entries').Perm (known entries)) (h : Overlays entries settings settings') :
    Overlays entries' settings settings' := by
  -- a lookup finds an entry exactly if it is among the entries, in whatever place
  have hlookup : ∀ k : Key, entries'.lookup k.name.toList = entries.lookup k.name.toList := by
    intro k
    refine Option.ext fun v => ?_
    rw [lookup_eq_some_iff_mem hdistinct, lookup_eq_some_iff_mem hdistinct']
    have hmem := hperm.mem_iff (a := (k.name.toList, v))
    simpa only [mem_known, and_iff_left (⟨k, rfl⟩ : ∃ k' : Key, k.name.toList = k'.name.toList)]
      using hmem
  intro k
  rw [hlookup, h k]

theorem Overlays.unique {settings'' : Settings} (h : Overlays entries settings settings')
    (h' : Overlays entries settings settings'') : settings' = settings'' :=
  Settings.ext_value? fun k => (h k).trans (h' k).symm

/-- Settings laid over those without a file have values that their keys accept. -/
theorem Overlays.accepts (h : Overlays entries {} settings) (haccepted : Accepted entries)
    (hvalue : settings.value? k = some v) : Accepts k v := by
  rw [h k] at hvalue
  rcases Option.or_eq_some_iff.mp hvalue with hentry | ⟨-, hdefault⟩
  · exact haccepted _ (Entries.mem_of_lookup hentry) k rfl
  · cases k with
    | dialect => cases hdefault
    | format =>
      cases hdefault
      exact .text
    | log =>
      cases hdefault
      exact .log true
    | retentionDays =>
      cases hdefault
      exact .days (by decide)

end Entries

/-! ### Documents -/

/-- Documents with these defaults: the entries of a table, or none if there is no such table. -/
def HasDefaults (text : List Char) (entries : Entries) : Prop :=
  ∃ tables, Toml.read text = .ok tables ∧
    (tables.lookup tableName.toList = none ∧ entries = [] ∨
      tables.lookup tableName.toList = some (.table entries))

section Documents

variable {text : List Char} {entries : Entries}

theorem HasDefaults.defaults (h : HasDefaults text entries) :
    defaults (some text) = .ok entries := by
  obtain ⟨tables, hread, ⟨hnone, rfl⟩ | htable⟩ := h
  · simp [Config.defaults, defaultsValue, hread, hnone, entriesOf]
  · exact defaults_of_read hread htable

theorem HasDefaults.distinct (h : HasDefaults text entries) : entries.Distinct := by
  obtain ⟨tables, hread, ⟨-, rfl⟩ | htable⟩ := h
  · exact List.nodup_nil
  · exact ((Toml.sound_read hread).lookup htable).distinct

theorem HasDefaults.load (h : HasDefaults text entries) :
    load (some text) = (applyAll {} entries).mapError Failure.ofFault := by
  rw [Config.load, h.defaults]

/-- A document with accepted entries is loaded with these laid over the settings without a
file. -/
theorem HasDefaults.load_of_accepted (h : HasDefaults text entries) (haccepted : Accepted entries) :
    ∃ settings, Config.load (some text) = .ok settings ∧ Overlays entries {} settings := by
  obtain ⟨settings, happly, hoverlays⟩ := exists_applyAll_of_accepted haccepted {}
  exact ⟨settings, by rw [h.load, happly]; rfl, hoverlays h.distinct⟩

theorem HasDefaults.load_of_firstFault (h : HasDefaults text entries) {f : Fault}
    (hfault : FirstFault entries f) : Config.load (some text) = .error (.ofFault f) := by
  rw [h.load, applyAll_of_firstFault hfault]
  rfl

/-- A document with a decimal number that is too long is not read to its end. -/
theorem load_of_longNumeral (h : Toml.read text = .error .longNumeral) :
    Config.load (some text) = .error .wrongLength := by
  simp [Config.load, defaults, defaultsValue, h]

/-- **A document with a table of defaults**, or without any, is loaded exactly if its entries are
accepted. The settings are its entries laid over those without a file; each of them but the dialect
has a value, which its key accepts, and they are the same for any document with the same entries
under the names of keys, in any order. Otherwise the failure is the fault of the first entry that is
refused, if its value has numerals; if not, then the fault cannot be worded, and the failure is
that. So it is for a document with a decimal number that is too long, wherever it stands. -/
theorem load_of_hasDefaults (text : List Char) :
    (∀ entries, HasDefaults text entries →
      ((∃ settings, load (some text) = .ok settings) ↔ Accepted entries) ∧
      (∀ settings, load (some text) = .ok settings →
        Overlays entries {} settings ∧
        (∀ k, settings.value? k = none → k = .dialect) ∧
        (∀ k v, settings.value? k = some v → Accepts k v) ∧
        ∀ text' entries', HasDefaults text' entries' → (known entries').Perm (known entries) →
          load (some text') = .ok settings) ∧
      ∀ failure, load (some text) = .error failure ↔
        ∃ f, FirstFault entries f ∧
          failure = if f.hasNumerals then .fault f else .wrongLength) ∧
    (Toml.read text = .error .longNumeral → load (some text) = .error .wrongLength) := by
  refine ⟨fun entries h => ?_, load_of_longNumeral⟩
  -- either all entries are accepted, or one is the first that is refused, and never both
  have hok : ∀ settings, Config.load (some text) = .ok settings →
      Accepted entries ∧ Overlays entries {} settings := by
    intro settings hload
    rcases accepted_or_firstFault entries with haccepted | ⟨f, hfault⟩
    · obtain ⟨settings', hload', hoverlays⟩ := h.load_of_accepted haccepted
      exact ⟨haccepted, Except.ok.inj (hload'.symm.trans hload) ▸ hoverlays⟩
    · rw [h.load_of_firstFault hfault] at hload
      cases hload
  refine ⟨⟨fun ⟨settings, hload⟩ => (hok settings hload).1, fun haccepted => ?_⟩,
    fun settings hload => ?_, fun failure => ⟨fun hload => ?_, ?_⟩⟩
  · obtain ⟨settings, hload, -⟩ := h.load_of_accepted haccepted
    exact ⟨settings, hload⟩
  · obtain ⟨haccepted, hoverlays⟩ := hok settings hload
    refine ⟨hoverlays, fun k hk => ?_, fun k v => hoverlays.accepts haccepted,
      fun text' entries' h' hperm => ?_⟩
    · cases k with
      | dialect => rfl
      | format | log | retentionDays => cases hk
    · have haccepted' : Accepted entries' := accepted_known.mp fun e he =>
        accepted_known.mpr haccepted e (hperm.mem_iff.mp he)
      obtain ⟨settings', hload', hoverlays'⟩ := h'.load_of_accepted haccepted'
      have hsame := overlays_of_perm h.distinct h'.distinct hperm hoverlays
      rw [hload', hoverlays'.unique hsame]
  · rcases accepted_or_firstFault entries with haccepted | ⟨f, hfault⟩
    · obtain ⟨settings, hload', -⟩ := h.load_of_accepted haccepted
      rw [hload'] at hload
      cases hload
    · rw [h.load_of_firstFault hfault] at hload
      cases hload
      exact ⟨f, hfault, rfl⟩
  · rintro ⟨f, hfault, rfl⟩
    exact h.load_of_firstFault hfault

end Documents

/-- A document with three settings, in another order than they are stored, and a comment. -/
def shuffledFile : List Char :=
  "[defaults]\nretention_days = 7 # week\nowner = [1]\nformat = \"json\"\nlog = false\n".toList

/-- A document with the same settings, and a table of its own. -/
def orderedFile : List Char :=
  "[defaults]\nformat = 'json'\nlog = false\nretention_days = 0x7\n[more]\nlog = 1\n".toList

/-- A document with two faults, and an entry that is none of the settings. -/
def faultyFile : List Char :=
  "[defaults]\nowner = 1\nlog = 1\nformat = \"yaml\"\n".toList

/-- The defaults of the shuffled document. -/
def shuffledDefaults : Entries :=
  [("retention_days".toList, .integer 7), ("owner".toList, .array [.integer 1]),
    ("format".toList, .string "json".toList), ("log".toList, .bool false)]

/-- The defaults of the document with the same settings. -/
def orderedDefaults : Entries :=
  [("format".toList, .string "json".toList), ("log".toList, .bool false),
    ("retention_days".toList, .integer 7)]

/-- The defaults of the faulty document. -/
def faultyDefaults : Entries :=
  [("owner".toList, .integer 1), ("log".toList, .integer 1),
    ("format".toList, .string "yaml".toList)]

theorem read_sampleFiles :
    (Toml.read shuffledFile).toOption = some [(tableName.toList, .table shuffledDefaults)] ∧
      (Toml.read orderedFile).toOption = some [(tableName.toList, .table orderedDefaults),
        ("more".toList, .table [("log".toList, .integer 1)])] ∧
      (Toml.read faultyFile).toOption = some [(tableName.toList, .table faultyDefaults)] := by
  decide +kernel

theorem hasDefaults_shuffledFile : HasDefaults shuffledFile shuffledDefaults :=
  ⟨_, toOption_eq_some.mp read_sampleFiles.1, .inr rfl⟩

theorem hasDefaults_orderedFile : HasDefaults orderedFile orderedDefaults :=
  ⟨_, toOption_eq_some.mp read_sampleFiles.2.1, .inr rfl⟩

theorem hasDefaults_faultyFile : HasDefaults faultyFile faultyDefaults :=
  ⟨_, toOption_eq_some.mp read_sampleFiles.2.2, .inr rfl⟩

/-- Both documents are loaded with the same settings, and the faulty one gives the first of its
faults. -/
theorem load_of_hasDefaults_sample :
    load (some shuffledFile) = .ok ⟨none, .json, false, 7⟩ ∧
      load (some orderedFile) = .ok ⟨none, .json, false, 7⟩ ∧
      load (some faultyFile) = .error (.fault (.wrongType .log (.integer 1))) := by
  have hload : load (some shuffledFile) = .ok ⟨none, .json, false, 7⟩ :=
    hasDefaults_shuffledFile.load.trans rfl
  obtain ⟨-, hsettings, -⟩ := (load_of_hasDefaults _).1 _ hasDefaults_shuffledFile
  obtain ⟨-, -, -, hsame⟩ := hsettings _ hload
  refine ⟨hload, hsame _ _ hasDefaults_orderedFile ?_, ?_⟩
  · exact @List.perm_append_comm _ [_, _] [_]
  · obtain ⟨-, -, hfailure⟩ := (load_of_hasDefaults _).1 _ hasDefaults_faultyFile
    refine (hfailure _).mpr ⟨.wrongType .log (.integer 1), ⟨[("owner".toList, .integer 1)],
      ("log".toList, .integer 1), _, rfl, ?_, .log, rfl, .wrongType nofun⟩, rfl⟩
    intro e he k hk
    obtain rfl := List.mem_singleton.mp he
    cases k <;> cases hk

/-- A document with a number for a truth value, a one and thousands of zeros in hexadecimal
digits. -/
def longFaultFile : List Char :=
  "[defaults]\nlog = 0x1".toList ++ (List.replicate 3600 '0' ++ ['\n'])

/-- The defaults of that document. -/
def longFaultDefaults : Entries := [("log".toList, .integer longDays)]

theorem hasDefaults_longFaultFile : HasDefaults longFaultFile longFaultDefaults :=
  ⟨[(tableName.toList, .table longFaultDefaults)], toOption_eq_some.mp (by decide +kernel),
    .inr rfl⟩

/-- **A fault that is not told**: the only entry is no truth value, but its number has no numeral,
so that it cannot be said what was given. -/
theorem exists_unworded_fault :
    HasDefaults longFaultFile longFaultDefaults ∧
      FirstFault longFaultDefaults (.wrongType .log (.integer longDays)) ∧
      load (some longFaultFile) = .error .wrongLength := by
  have hfault : FirstFault longFaultDefaults (.wrongType .log (.integer longDays)) :=
    ⟨[], _, [], rfl, (fun _ h => nomatch h), .log, rfl, .wrongType nofun⟩
  have hlong : (Fault.wrongType .log (.integer longDays)).hasNumerals = false := by
    rw [Fault.hasNumerals, Value.hasNumerals, hasNumeral_longDays]
  have hload := hasDefaults_longFaultFile.load_of_firstFault hfault
  rw [Failure.ofFault_eq_wrongLength hlong] at hload
  exact ⟨hasDefaults_longFaultFile, hfault, hload⟩

end StatementShape.Config
