import StatementShape.CommandLine.Run
import StatementShape.Proofs.Config.Overlay

/-!
# Configurations that cannot be used

Whatever a configuration file holds, it is loaded, or there is a fault in it that is reported. Two
kinds of files are left out: those with a decimal number that is too long, and those whose defaults
are something else than a table, and do not pass for one either, as a list of pairs does. Over such
a file a command breaks off without a report. Over any other file it breaks off only where a number
without a numeral would have to be written, in the wording of a fault, among the settings that are
shown, or in a new file.

A command that loads the settings reports the first fault. A command that saves a setting only needs
the defaults there are, and reports a file that is no document.

## Main definitions

* `IsPair`, `Collects`: the values that pass for an entry of a table, and for a table
* `Unusable`: the texts that are not read to their end, or whose defaults do not pass for a table
* `IsFaultOf`: the fault of a text
* `Request.ReadsFile`: the requests for which the file is read
* `Unwritable`: the requests that would have to write a number without a numeral

## Main results

* `exists_entriesOf_iff`: exactly the values that pass for a table have entries
* `load_of_text`: a text is loaded or has a fault, unless it is unusable
* `exists_unusable`: not every text is loaded or has a fault
* `perform_of_text`: what requests make of a file, whatever it holds
-/

namespace StatementShape

namespace Config

/-! ### Values that pass for a table -/

/-- Whether a value can be a name: a list or a table cannot. -/
def isName : Value → Bool
  | .array _ | .table _ => false
  | _ => true

/-- Values that pass for an entry: two values the first of which can be a name, two characters, or
the names of two entries. -/
inductive IsPair : Value → Prop
  | items {a b : Value} (name : isName a = true) : IsPair (.array [a, b])
  | characters {c d : Char} : IsPair (.string [c, d])
  | names {e f : List Char × Value} : IsPair (.table [e, f])

/-- Values that pass for a table: tables, lists of pairs, and the empty text. -/
inductive Collects : Value → Prop
  | table {entries : Entries} : Collects (.table entries)
  | pairs {items : List Value} (all : ∀ item ∈ items, IsPair item) : Collects (.array items)
  | empty : Collects (.string [])

/-- Whether a failure is one of defaults that do not pass for a table. -/
def Failure.isMisfit : Failure → Bool
  | .notPairs | .wrongLength => true
  | .fault _ => false

/-- An item of a list that passes for a table, put among the pairs in front of it. -/
def putItem (pairs : List (Value × Value)) (item : Value) :
    Except Failure (List (Value × Value)) := do
  let (name, v) ← pairOf item
  putPair pairs name v

section Collections

variable {v item name : Value} {items : List Value} {pairs : List (Value × Value)} {e : Failure}

theorem entriesOf_array (items : List Value) :
    entriesOf (.array items) =
      (items.foldlM putItem []).map fun pairs => pairs.map fun p => (p.1.plain, p.2) := by
  change (items.foldlM putItem [] >>= fun pairs =>
    pure (pairs.map fun p => (p.1.plain, p.2))) = _
  cases items.foldlM putItem [] <;> rfl

/-! #### What can be had -/

theorem exists_nameOf_iff : (∃ n, nameOf v = .ok n) ↔ isName v = true := by
  cases v <;> simp [nameOf, isName]
  split <;> simp

theorem exists_putPair_iff : (∃ ps, putPair pairs name v = .ok ps) ↔ isName name = true := by
  rw [← exists_nameOf_iff]
  unfold putPair
  cases nameOf name with
  | error e => simp [bind, Except.bind]
  | ok n =>
    simp only [bind, Except.bind, Except.ok.injEq, exists_eq', iff_true]
    split <;> exact ⟨_, rfl⟩

theorem exists_pairOf_iff : (∃ p, pairOf v = .ok p ∧ isName p.1 = true) ↔ IsPair v := by
  constructor
  · rintro ⟨p, hp, hname⟩
    -- a list, a string and a table can have two parts, and no other value has parts
    cases v with
    | array items =>
      rcases items with _ | ⟨a, _ | ⟨b, _ | ⟨c, items⟩⟩⟩
      case cons.cons.nil =>
        cases hp
        exact .items hname
      all_goals cases hp
    | string s =>
      rcases s with _ | ⟨c, _ | ⟨d, _ | ⟨x, s⟩⟩⟩
      case cons.cons.nil => exact .characters
      all_goals cases hp
    | table entries =>
      rcases entries with _ | ⟨e, _ | ⟨f, _ | ⟨x, entries⟩⟩⟩
      case cons.cons.nil => exact .names
      all_goals cases hp
    | _ => cases hp
  · rintro (hname | _ | _)
    · exact ⟨_, rfl, hname⟩
    · exact ⟨_, rfl, rfl⟩
    · exact ⟨_, rfl, rfl⟩

theorem exists_putItem_iff : (∃ ps, putItem pairs item = .ok ps) ↔ IsPair item := by
  rw [← exists_pairOf_iff]
  simp only [putItem, bind_eq_ok]
  constructor
  · rintro ⟨ps, p, hp, hput⟩
    exact ⟨p, hp, exists_putPair_iff.mp ⟨ps, hput⟩⟩
  · rintro ⟨p, hp, hname⟩
    obtain ⟨ps, hput⟩ : ∃ ps, putPair pairs p.1 p.2 = .ok ps := exists_putPair_iff.mpr hname
    exact ⟨ps, p, hp, hput⟩

theorem exists_foldlM_putItem_iff :
    (∃ ps, items.foldlM putItem pairs = .ok ps) ↔ ∀ item ∈ items, IsPair item := by
  induction items generalizing pairs with
  | nil => simp [pure, Except.pure]
  | cons item items ih =>
    simp only [List.foldlM_cons, bind_eq_ok, List.forall_mem_cons]
    constructor
    · rintro ⟨ps, qs, hitem, hrest⟩
      exact ⟨exists_putItem_iff.mp ⟨qs, hitem⟩, ih.mp ⟨ps, hrest⟩⟩
    · rintro ⟨hitem, hrest⟩
      obtain ⟨qs, hqs⟩ : ∃ qs, putItem pairs item = .ok qs := exists_putItem_iff.mpr hitem
      obtain ⟨ps, hps⟩ := ih.mpr hrest
      exact ⟨ps, qs, hqs, hps⟩

/-- **Exactly the values that pass for a table** have entries. -/
theorem exists_entriesOf_iff : (∃ entries, entriesOf v = .ok entries) ↔ Collects v := by
  constructor
  · rintro ⟨entries, h⟩
    cases v with
    | table => exact .table
    | array items =>
      rw [entriesOf_array] at h
      obtain ⟨ps, hps, -⟩ := map_eq_ok.mp h
      exact .pairs (exists_foldlM_putItem_iff.mp ⟨ps, hps⟩)
    | string s =>
      cases s with
      | nil => exact .empty
      | cons c s => cases h
    | _ => cases h
  · rintro (_ | hall | _)
    · exact ⟨_, rfl⟩
    · obtain ⟨ps, hps⟩ : ∃ ps, _ := exists_foldlM_putItem_iff.mpr hall
      exact ⟨_, by rw [entriesOf_array]; exact map_eq_ok.mpr ⟨ps, hps, rfl⟩⟩
    · exact ⟨_, rfl⟩

/-! #### Why it cannot -/

theorem isMisfit_of_nameOf (h : nameOf v = .error e) : e.isMisfit = true := by
  unfold nameOf at h
  split at h
  · cases h
  · split at h <;> cases h
  · cases h; rfl
  · cases h; rfl
  · cases h

theorem isMisfit_of_pairOf (h : pairOf v = .error e) : e.isMisfit = true := by
  unfold pairOf at h
  dsimp only at h
  repeat' split at h
  all_goals cases h
  all_goals rfl

theorem isMisfit_of_putPair (h : putPair pairs name v = .error e) : e.isMisfit = true := by
  unfold putPair at h
  rcases bind_eq_error.mp h with hname | ⟨n, -, h⟩
  · exact isMisfit_of_nameOf hname
  · dsimp only at h
    split at h <;> cases h

theorem isMisfit_of_putItem (h : putItem pairs item = .error e) : e.isMisfit = true := by
  rcases bind_eq_error.mp h with hpair | ⟨p, -, hput⟩
  · exact isMisfit_of_pairOf hpair
  · exact isMisfit_of_putPair hput

theorem isMisfit_of_foldlM_putItem (h : items.foldlM putItem pairs = .error e) :
    e.isMisfit = true := by
  induction items generalizing pairs with
  | nil => cases h
  | cons item items ih =>
    rw [List.foldlM_cons] at h
    rcases bind_eq_error.mp h with hitem | ⟨ps, -, hrest⟩
    · exact isMisfit_of_putItem hitem
    · exact ih hrest

/-- A value without entries does not pass for a table, and is no fault. -/
theorem isMisfit_of_entriesOf (h : entriesOf v = .error e) : e.isMisfit = true := by
  cases v with
  | table => cases h
  | array items =>
    rw [entriesOf_array] at h
    cases hfold : items.foldlM putItem [] with
    | ok ps => rw [hfold] at h; cases h
    | error e' =>
      rw [hfold] at h
      cases h
      exact isMisfit_of_foldlM_putItem hfold
  | string s =>
    cases s with
    | nil => cases h
    | cons c s => cases h; rfl
  | _ => cases h; rfl

end Collections

/-! ### Texts that are loaded -/

/-- Unusable texts: a decimal number in them is too long, or they are documents whose defaults do
not pass for a table. -/
inductive Unusable (text : List Char) : Prop
  | longNumeral (read : Toml.read text = .error .longNumeral) : Unusable text
  | misfit {tables : Entries} {v : Value} (read : Toml.read text = .ok tables)
      (lookup : tables.lookup tableName.toList = some v) (not : ¬ Collects v) : Unusable text

/-- The fault of a text: it is no document, or the first of its defaults that has the name of a
setting and a value that this setting cannot have. -/
inductive IsFaultOf (text : List Char) : Fault → Prop
  | unreadable (read : Toml.read text = .error .malformed) : IsFaultOf text .unreadable
  | entry {entries : Entries} {f : Fault} (defaults : defaults (some text) = .ok entries)
      (first : FirstFault entries f) : IsFaultOf text f

section Texts

variable {text : List Char} {f : Fault}

theorem defaults_eq_entriesOf {tables : Entries} {v : Value} (hread : Toml.read text = .ok tables)
    (hlookup : tables.lookup tableName.toList = some v) : defaults (some text) = entriesOf v := by
  rw [defaults, defaultsValue_of_read hread hlookup]
  rfl

/-- The defaults of a text that is not unusable can be had, unless it is no document. -/
theorem defaults_of_not_unusable (h : ¬ Unusable text) :
    (Toml.read text = .error .malformed ∧ defaults (some text) = .error (.fault .unreadable)) ∨
      ∃ entries, defaults (some text) = .ok entries := by
  cases hread : Toml.read text with
  | error flaw =>
    cases flaw with
    | malformed => exact .inl ⟨rfl, by simp [defaults, defaultsValue, hread]⟩
    | longNumeral => exact absurd (.longNumeral hread) h
  | ok tables =>
    right
    cases hlookup : tables.lookup tableName.toList with
    | none => exact ⟨[], by simp [defaults, defaultsValue, hread, hlookup, entriesOf]⟩
    | some v =>
      have hcollects : Collects v := by
        by_contra hnot
        exact h (.misfit hread hlookup hnot)
      rw [defaults_eq_entriesOf hread hlookup]
      exact exists_entriesOf_iff.mpr hcollects

/-- An unusable text has no defaults, but not for a fault. -/
theorem defaults_of_unusable (h : Unusable text) :
    ∃ e : Failure, e.isMisfit = true ∧ defaults (some text) = .error e := by
  cases h with
  | longNumeral hread => exact ⟨.wrongLength, rfl, by simp [defaults, defaultsValue, hread]⟩
  | @misfit tables v hread hlookup hcollects =>
    rw [defaults_eq_entriesOf hread hlookup]
    cases hentries : entriesOf v with
    | ok entries => exact absurd (exists_entriesOf_iff.mp ⟨entries, hentries⟩) hcollects
    | error e => exact ⟨e, isMisfit_of_entriesOf hentries, rfl⟩

theorem load_of_defaults_eq_error {file : Option (List Char)} {e : Failure}
    (h : defaults file = .error e) : load file = .error e := by
  rw [load, h]

/-- A text is refused for its fault, if that can be worded. -/
theorem load_of_isFaultOf (h : IsFaultOf text f) : load (some text) = .error (.ofFault f) := by
  cases h with
  | unreadable hread =>
    exact load_of_defaults_eq_error (by simp [defaults, defaultsValue, hread, Failure.ofFault,
      Fault.hasNumerals])
  | entry hdefaults hfirst =>
    simp only [load, hdefaults, applyAll_of_firstFault hfirst, mapError_error]

/-- **A text that is not unusable** is loaded, or has a fault. -/
theorem load_of_text (h : ¬ Unusable text) :
    (∃ settings, load (some text) = .ok settings) ∨ ∃ f, IsFaultOf text f := by
  rcases defaults_of_not_unusable h with ⟨hread, -⟩ | ⟨entries, hdefaults⟩
  · exact .inr ⟨.unreadable, .unreadable hread⟩
  · rcases accepted_or_firstFault entries with haccepted | ⟨f, hfirst⟩
    · obtain ⟨settings, happly, -⟩ := exists_applyAll_of_accepted haccepted {}
      exact .inl ⟨settings, load_eq_ok.mpr ⟨entries, hdefaults, happly⟩⟩
    · exact .inr ⟨f, .entry hdefaults hfirst⟩

/-- **Not every text** is loaded or has a fault: the defaults may be a number. -/
theorem exists_unusable :
    ¬ ∀ text : List Char, (∃ settings, load (some text) = .ok settings) ∨
      ∃ f, load (some text) = .error (.fault f) := by
  intro hall
  have hmisfit : (match load (some "defaults = 1\n".toList) with
      | .ok _ => false
      | .error e => e.isMisfit) = true := by decide +kernel
  rcases hall "defaults = 1\n".toList with ⟨settings, h⟩ | ⟨f, h⟩ <;> rw [h] at hmisfit <;>
    cases hmisfit

end Texts

/-! ### Files that are written -/

section Saving

variable {file : Option (List Char)} {old : Value} {entries : Entries} {s : Setting} {e : Failure}

/-- A file is not written exactly if a name or a value in it has a number without a numeral. -/
theorem newFile_eq_error_iff : newFile old entries = .error e ↔
    e = .wrongLength ∧
      (namesHaveNumerals old = false ∨ ∃ e ∈ entries, e.2.hasNumerals = false) := by
  rw [newFile]
  split
  · next hall =>
    simp only [Bool.and_eq_true, List.all_eq_true] at hall
    refine iff_of_false (by simp) ?_
    rintro ⟨-, hnames | ⟨e, he, hlong⟩⟩
    · cases hall.1.symm.trans hnames
    · cases (hall.2 e he).symm.trans hlong
  · next hnot =>
    simp only [Bool.and_eq_true, List.all_eq_true, not_and_or, Bool.not_eq_true, not_forall,
      exists_prop] at hnot
    rw [Except.error.injEq]
    exact ⟨fun h => ⟨h.symm, hnot⟩, fun h => h.1.symm⟩

theorem save_of_defaults_eq_error (h : defaults file = .error e) : save file s = .error e := by
  rcases bind_eq_error.mp h with hvalue | ⟨old, hvalue, hentries⟩
  · simp [save, hvalue]
  · simp [save, hvalue, hentries]

/-- The defaults of a file are the entries of their value. -/
theorem exists_of_defaults_eq_ok (h : defaults file = .ok entries) :
    ∃ old, defaultsValue file = .ok old ∧ entriesOf old = .ok entries :=
  bind_eq_ok.mp h

theorem save_eq_newFile (hvalue : defaultsValue file = .ok old) (h : entriesOf old = .ok entries) :
    save file s = newFile old (entries.put s.key.name.toList s.value) := by
  simp [save, hvalue, h]

end Saving

end Config

namespace CommandLine

open Config (Failure Fault IsFaultOf Setting Settings Unusable)
open Report (Format)

/-- Requests for which the file is read: all but those to save a setting of which the name or the
text is rejected. -/
def Request.ReadsFile (r : Request) : Prop :=
  ∀ key value, r = .set key value → ∃ setting, Setting.parse key value = .ok setting

/-- Requests that would have to write a number without a numeral: in the wording of the fault of the
file, among its settings, or in a new file with one of them saved. -/
inductive Unwritable (text : List Char) : Request → Prop
  | fault {r : Request} {f : Fault} (notSet : ∀ key value, r ≠ .set key value)
      (fault : IsFaultOf text f) (long : f.hasNumerals = false) : Unwritable text r
  | shown {settings : Settings} (load : Config.load (some text) = .ok settings)
      (long : Number.hasNumeral settings.retentionDays = false) : Unwritable text .show_
  | saved {key value : List Char} {setting : Setting} {old : Config.Value}
      {entries : Config.Entries}
      (parse : Setting.parse key value = .ok setting)
      (defaults : Config.defaultsValue (some text) = .ok old)
      (collects : Config.entriesOf old = .ok entries)
      (long : Config.namesHaveNumerals old = false ∨
        ∃ e ∈ entries.put setting.key.name.toList setting.value, e.2.hasNumerals = false) :
      Unwritable text (.set key value)

/-- Outcomes of runs that break off over the configuration. -/
def Outcome.IsMisfit (o : Outcome) : Prop :=
  o.break_ = some .notPairs ∨ o.break_ = some .wrongLength

section Requests

variable {s : Surroundings} {r : Request} {h : Home} {e : Failure} {f : Fault} {setting : Setting}
  {settings : Settings} {key value text : List Char} {logs : Log.Files}

theorem isMisfit_ofFailure {path : String} :
    (Outcome.ofFailure path e).IsMisfit ↔ e.isMisfit = true := by
  cases e <;> simp [Outcome.ofFailure, Outcome.broken, Outcome.IsMisfit, Failure.isMisfit]

theorem not_isMisfit_of_break_eq_none {o : Outcome} (ho : o.break_ = none) : ¬ o.IsMisfit := by
  simp [Outcome.IsMisfit, ho]

/-! ### Requests on a file that cannot be used -/

/-- A request that is not to save a setting reports why the file cannot be loaded. -/
theorem perform_of_load_eq_error (hload : Config.load h.config = .error e)
    (hr : ∀ key value, r ≠ .set key value) : perform s r h = (h, .ofFailure s.configPath e) := by
  cases r with
  | classify => simp only [perform, hload]
  | show_ => simp only [perform, hload]
  | set key value => exact absurd rfl (hr key value)

/-- A setting that is not rejected is saved, or it is reported why it cannot be. -/
theorem perform_set_eq_error (hparse : Setting.parse key value = .ok setting)
    (hsave : Config.save h.config setting = .error e) :
    perform s (.set key value) h =
      (h, match e with
        | .fault f => .refused .configSet (.badSetting (f.message s.configPath))
        | e => .ofFailure s.configPath e) := by
  simp only [perform, saveSetting, hparse, mapError_ok, ok_bind, hsave]
  cases e <;> rfl

/-- A request that reads an unusable file breaks off. -/
theorem perform_of_defaults_eq_error (he : e.isMisfit = true)
    (hdefaults : Config.defaults h.config = .error e) (hr : r.ReadsFile) :
    perform s r h = (h, .ofFailure s.configPath e) := by
  have hload := Config.load_of_defaults_eq_error hdefaults
  cases r with
  | classify => exact perform_of_load_eq_error hload (by simp)
  | show_ => exact perform_of_load_eq_error hload (by simp)
  | set key value =>
    obtain ⟨setting, hparse⟩ := hr key value rfl
    rw [perform_set_eq_error hparse (Config.save_of_defaults_eq_error hdefaults)]
    cases e with
    | fault f => cases he
    | notPairs => rfl
    | wrongLength => rfl

/-! ### Requests that break off -/

theorem not_isMisfit_classifyText (s : Surroundings) (settings : Settings) (sql : List Char)
    (dialect : Option (List Char)) (format : Option Format) (noLog : Bool) (h : Home) :
    ¬ (classifyText s settings sql dialect format noLog h).2.IsMisfit := by
  unfold classifyText
  split
  · exact not_isMisfit_of_break_eq_none rfl
  · split
    · simp [Outcome.IsMisfit, Outcome.broken]
    · dsimp only
      split
      · split
        · exact not_isMisfit_of_break_eq_none rfl
        · next hlog =>
          -- Behind a report, only the calendar can be in the way.
          unfold logReport at hlog
          dsimp only at hlog
          split at hlog <;> cases hlog
          simp [Outcome.IsMisfit, Outcome.broken]
      · exact not_isMisfit_of_break_eq_none rfl

theorem isMisfit_showSettings_iff : (showSettings settings).IsMisfit ↔
    Number.hasNumeral settings.retentionDays = false := by
  rw [showSettings]
  split
  · next hlong => simp [Outcome.IsMisfit, hlong]
  · next hlong => simp [Outcome.IsMisfit, Outcome.broken, hlong]

/-- A request on a file that can be loaded breaks off over it exactly if the settings are to be
shown, and the number of days has no numeral. -/
theorem isMisfit_iff_of_load_eq_ok (hload : Config.load h.config = .ok settings)
    (hr : ∀ key value, r ≠ .set key value) :
    (perform s r h).2.IsMisfit ↔
      r = .show_ ∧ Number.hasNumeral settings.retentionDays = false := by
  cases r with
  | classify sql fromInput dialect format noLog =>
    refine iff_of_false ?_ nofun
    simp only [perform, hload]
    split
    · exact not_isMisfit_of_break_eq_none rfl
    · exact not_isMisfit_classifyText _ _ _ _ _ _ _
  | show_ => simp only [perform, hload, isMisfit_showSettings_iff, true_and]
  | set key value => exact absurd rfl (hr key value)

/-- A request to save a setting breaks off over the file exactly if it is for a misfit that the
setting is not saved. -/
theorem isMisfit_set_iff (hparse : Setting.parse key value = .ok setting) :
    (perform s (.set key value) h).2.IsMisfit ↔
      ∃ e : Failure, e.isMisfit = true ∧ Config.save h.config setting = .error e := by
  cases hsave : Config.save h.config setting with
  | ok file =>
    simp only [perform, saveSetting, hparse, mapError_ok, ok_bind, hsave, reduceCtorEq, and_false,
      exists_false, iff_false]
    exact not_isMisfit_of_break_eq_none rfl
  | error e =>
    rw [perform_set_eq_error hparse hsave]
    cases e with
    | fault f =>
      refine iff_of_false (not_isMisfit_of_break_eq_none rfl) ?_
      rintro ⟨e, he, heq⟩
      cases heq
      cases he
    | notPairs => exact iff_of_true (.inl rfl) ⟨_, rfl, rfl⟩
    | wrongLength => exact iff_of_true (.inr rfl) ⟨_, rfl, rfl⟩

/-- A request to save a setting that is rejected reads no file. -/
theorem not_isMisfit_set (hparse : Setting.parse key value = .error f) :
    ¬ (perform s (.set key value) h).2.IsMisfit := by
  simp only [perform, saveSetting, hparse, mapError_error, error_bind]
  exact not_isMisfit_of_break_eq_none rfl

/-- A request that breaks off over the file has read it, and the file is unusable, or a number
without a numeral would have to be written. -/
theorem exists_of_isMisfit (hmisfit : (perform s r ⟨some text, logs⟩).2.IsMisfit) :
    r.ReadsFile ∧ (Unusable text ∨ Unwritable text r) := by
  -- a request to save a setting needs the defaults only, all others load the settings
  by_cases hr : ∀ key value, r ≠ .set key value
  · refine ⟨fun key value heq => absurd heq (hr key value),
      or_iff_not_imp_left.mpr fun husable => ?_⟩
    rcases Config.load_of_text husable with ⟨settings, hload⟩ | ⟨f, hfault⟩
    · obtain ⟨rfl, hlong⟩ := (isMisfit_iff_of_load_eq_ok hload hr).mp hmisfit
      exact .shown hload hlong
    · rw [perform_of_load_eq_error (Config.load_of_isFaultOf hfault) hr] at hmisfit
      refine .fault hr hfault (Bool.eq_false_iff.mpr fun hnumerals => ?_)
      rw [Failure.ofFault_eq_fault hnumerals] at hmisfit
      exact not_isMisfit_of_break_eq_none rfl hmisfit
  · push Not at hr
    obtain ⟨key, value, rfl⟩ := hr
    cases hparse : Setting.parse key value with
    | error f => exact absurd hmisfit (not_isMisfit_set hparse)
    | ok setting =>
      refine ⟨?_, or_iff_not_imp_left.mpr fun husable => ?_⟩
      · rintro key' value' ⟨⟩
        exact ⟨setting, hparse⟩
      obtain ⟨e, he, hsave⟩ := (isMisfit_set_iff hparse).mp hmisfit
      rcases Config.defaults_of_not_unusable husable with ⟨-, hdefaults⟩ | ⟨entries, hdefaults⟩
      · rw [Config.save_of_defaults_eq_error hdefaults] at hsave
        cases hsave
        cases he
      · obtain ⟨old, hvalue, hentries⟩ := Config.exists_of_defaults_eq_ok hdefaults
        rw [Config.save_eq_newFile hvalue hentries, Config.newFile_eq_error_iff] at hsave
        exact .saved hparse hvalue hentries hsave.2

/-- A request that would have to write a number without a numeral breaks off. -/
theorem isMisfit_of_unwritable (hlong : Unwritable text r) :
    (perform s r ⟨some text, logs⟩).2.IsMisfit := by
  cases hlong with
  | fault hr hfault hlong =>
    have hload := Config.load_of_isFaultOf hfault
    rw [Failure.ofFault_eq_wrongLength hlong] at hload
    rw [perform_of_load_eq_error hload hr]
    exact isMisfit_ofFailure.mpr rfl
  | shown hload hlong => exact (isMisfit_iff_of_load_eq_ok hload (by simp)).mpr ⟨rfl, hlong⟩
  | saved hparse hvalue hentries hlong =>
    refine (isMisfit_set_iff hparse).mpr ⟨.wrongLength, rfl, ?_⟩
    rw [Config.save_eq_newFile hvalue hentries]
    exact Config.newFile_eq_error_iff.mpr ⟨rfl, hlong⟩

/-- **What requests make of a file**, whatever it holds. It is loaded, or there is a fault in it. If
the fault can be worded, every request reports it but those to save a setting; these report a file
that is no document, and look no further than its defaults. If it cannot, then the requests break
off. Over an unusable file, every request that reads it breaks off without a report. Apart from
that, a request breaks off over the file only where a number without a numeral would have to be
written. -/
theorem perform_of_text (s : Surroundings) (text : List Char) (logs : Log.Files) :
    (¬ Unusable text →
      (∃ settings, Config.load (some text) = .ok settings) ∨
      ∃ f, IsFaultOf text f ∧
        (f.hasNumerals = true → Config.load (some text) = .error (.fault f) ∧
          ∀ r : Request, (∀ key value, r ≠ .set key value) →
            perform s r ⟨some text, logs⟩ = (⟨some text, logs⟩,
              { errors := "Error: " ++ f.message s.configPath ++ "\n", exitCode := 1 })) ∧
        (f.hasNumerals = false → Config.load (some text) = .error .wrongLength ∧
          ∀ r : Request, (∀ key value, r ≠ .set key value) →
            perform s r ⟨some text, logs⟩ = (⟨some text, logs⟩, .broken .wrongLength ""))) ∧
    (Toml.read text = .error .malformed → ∀ key value setting,
      Setting.parse key value = .ok setting →
        perform s (.set key value) ⟨some text, logs⟩ = (⟨some text, logs⟩,
          .refused .configSet (.badSetting (Fault.unreadable.message s.configPath)))) ∧
    (Unusable text → ∃ e : Failure, e.isMisfit = true ∧ Config.load (some text) = .error e ∧
      ∀ r : Request, r.ReadsFile →
        perform s r ⟨some text, logs⟩ = (⟨some text, logs⟩, .ofFailure s.configPath e)) ∧
    ∀ r : Request, (perform s r ⟨some text, logs⟩).2.IsMisfit ↔
      r.ReadsFile ∧ (Unusable text ∨ Unwritable text r) := by
  refine ⟨fun husable => ?_, fun hread key value setting hparse => ?_, fun hunusable => ?_,
    fun r => ⟨exists_of_isMisfit, ?_⟩⟩
  · rcases Config.load_of_text husable with hok | ⟨f, hfault⟩
    · exact .inl hok
    · have hload := Config.load_of_isFaultOf hfault
      refine .inr ⟨f, hfault, fun hnumerals => ?_, fun hlong => ?_⟩
      · rw [Failure.ofFault_eq_fault hnumerals] at hload
        exact ⟨hload, fun r hr => perform_of_load_eq_error (e := .fault f) hload hr⟩
      · rw [Failure.ofFault_eq_wrongLength hlong] at hload
        exact ⟨hload, fun r hr => perform_of_load_eq_error (e := .wrongLength) hload hr⟩
  · have hdefaults : Config.defaults (some text) = .error (.fault .unreadable) := by
      simp [Config.defaults, Config.defaultsValue, hread]
    exact perform_set_eq_error (h := ⟨some text, logs⟩) hparse
      (Config.save_of_defaults_eq_error hdefaults)
  · obtain ⟨e, he, hdefaults⟩ := Config.defaults_of_unusable hunusable
    exact ⟨e, he, Config.load_of_defaults_eq_error hdefaults,
      fun r hr => perform_of_defaults_eq_error he hdefaults hr⟩
  · rintro ⟨hr, hunusable | hlong⟩
    · obtain ⟨e, he, hdefaults⟩ := Config.defaults_of_unusable hunusable
      rw [perform_of_defaults_eq_error he hdefaults hr]
      exact isMisfit_ofFailure.mpr he
    · exact isMisfit_of_unwritable hlong

end Requests

end CommandLine

end StatementShape
