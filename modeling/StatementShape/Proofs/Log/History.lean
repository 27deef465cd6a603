import Mathlib.Data.List.DropRight
import Mathlib.Data.List.Induction
import StatementShape.Proofs.Calendar.Clock
import StatementShape.Proofs.Json.Print
import StatementShape.Proofs.Log.Name

/-!
# The log of a project, call by call

Entries are logged and days cleaned up in any order, by a clock that may go back. What is left is
told day by day: the file of a day holds a line for each entry that was logged on it since the last
cleanup that removed the day, in the order of the calls, and a day without such entries has no file.
That the files are those of days, each day once, and that they lie in the folder of the project,
holds after every call, and carries the induction.

## Main definitions

* `Call`, `Call.apply`, `applyCalls`: calls, and what they leave
* `Call.Removes`, `entriesOf`: the calls that remove a day, and the entries that are left of it
* `Tidy`: files of days, in the folder of a project
* `Mirrors`: files that hold what the calls say

## Main results

* `Tidy.cleanup`, `text?_cleanup`: one cleanup, and what it leaves of each day
* `Mirrors.record`, `Mirrors.cleanup`: one call more
* `holds_line`: a line is read back as its entry
* `mirrors_of_calls`: the files mirror the calls, however many there were
-/

namespace StatementShape.Log

open Calendar (Date Instant Moment dayLength isBefore_iff)
open Json (Visible decode_print visible_of_mem_line)

/-! ### Files -/

namespace Files

variable {f : Files} {path other : Path} {text : List Char} {gone : Path → Bool}

/-- The paths of files. -/
def paths (f : Files) : List Path := f.files.map Prod.fst

theorem text?_eq_none_iff : f.text? path = none ↔ path ∉ f.paths := by
  rw [text?, List.lookup_eq_none_iff, paths, List.mem_map]
  constructor
  · rintro h ⟨e, he, rfl⟩
    exact absurd (h e he) (by simp)
  · intro h e he
    have hne : path ≠ e.1 := fun heq => h ⟨e, he, heq.symm⟩
    simpa using hne

/-- A file that is written is put in its place, or behind the others if it is new. -/
theorem map_fst_put (path : Path) (text : List Char) (files : List (Path × List Char)) :
    (put path text files).map Prod.fst =
      if path ∈ files.map Prod.fst then files.map Prod.fst else files.map Prod.fst ++ [path] := by
  induction files with
  | nil => rfl
  | cons e files ih =>
    obtain ⟨p, t⟩ := e
    rw [put]
    by_cases hp : p = path
    · rw [if_pos hp]
      simp [hp]
    · rw [if_neg hp, List.map_cons, List.map_cons, ih]
      simp only [List.mem_cons, Ne.symm hp, false_or]
      split <;> rfl

theorem paths_append (f : Files) (path : Path) (text : List Char) :
    (f.append path text).paths = if path ∈ f.paths then f.paths else f.paths ++ [path] :=
  map_fst_put path _ f.files

/-- Files that are removed have no text. -/
theorem text?_removeAll_of_gone (h : gone path = true) (f : Files) :
    (f.removeAll gone).text? path = none := by
  rw [text?_eq_none_iff, paths, removeAll, List.mem_map]
  rintro ⟨e, he, rfl⟩
  simp [h] at he

theorem text?_removeAll_eq (gone : Path → Bool) (f : Files) (path : Path) :
    (f.removeAll gone).text? path = if gone path then none else f.text? path := by
  split
  · next h => exact text?_removeAll_of_gone h f
  · next h => exact text?_removeAll (Bool.eq_false_iff.mpr h) f

theorem paths_removeAll (gone : Path → Bool) (f : Files) :
    (f.removeAll gone).paths = f.paths.filter fun p => !gone p := by
  rw [paths, paths, removeAll, List.filter_map]
  rfl

@[simp] theorem files_removeFolder (folder : Path) (f : Files) :
    (f.removeFolder folder).files = f.files := by
  unfold removeFolder
  split <;> rfl

theorem text?_removeFolder (folder : Path) (f : Files) (path : Path) :
    (f.removeFolder folder).text? path = f.text? path :=
  congrArg (List.lookup path) (files_removeFolder folder f)

theorem paths_removeFolder (folder : Path) (f : Files) : (f.removeFolder folder).paths = f.paths :=
  congrArg (List.map Prod.fst) (files_removeFolder folder f)

/-- A folder that is not there cannot be removed. -/
theorem removeFolder_of_not_mem {folder : Path} (h : folder ∉ f.folders) :
    f.removeFolder folder = f := by
  have hsame : f.folders.filter (· != folder) = f.folders := List.filter_eq_self.mpr fun p hp => by
    simpa using fun heq : p = folder => h (heq ▸ hp)
  rw [removeFolder, hsame]
  split <;> rfl

theorem isDirectlyIn_iff {folder : Path} :
    isDirectlyIn folder path = true ↔ path ≠ [] ∧ path.dropLast = folder := by
  simp [isDirectlyIn]

/-- A folder with a file stays. -/
theorem removeFolder_of_mem {folder : Path} (h : path ∈ f.paths)
    (hin : isDirectlyIn folder path = true) : f.removeFolder folder = f := by
  obtain ⟨e, he, rfl⟩ := List.mem_map.mp h
  have hany : (f.files.any fun e => isDirectlyIn folder e.1) = true :=
    List.any_eq_true.mpr ⟨e, he, hin⟩
  simp [removeFolder, isEmptyFolder, hany]

end Files

/-! ### Calls -/

/-- Calls that change the log: an entry is logged, or the files of days are removed that began
so many days before now. -/
inductive Call where
  | record (e : Entry)
  | cleanup (now : Instant) (days : Int)

/-- The time of a call. -/
def Call.clock : Call → Instant
  | record e => e.at_
  | cleanup now _ => now

/-- What a call leaves. A cleanup whose cutoff the calendar does not have breaks off before it
changes anything. -/
def Call.apply (directory : List Char) (f : Files) : Call → Files
  | record e => Log.record directory e f
  | cleanup now days => ((Log.cleanup directory now days f).map Prod.fst).getD f

/-- What calls leave, one after another. -/
def applyCalls (directory : List Char) (f : Files) (calls : List Call) : Files :=
  calls.foldl (Call.apply directory) f

/-- Whether a call removes a day: a cleanup with a cutoff that the calendar has, before which
the day began. -/
def Call.Removes (d : Date) : Call → Prop
  | record _ => False
  | cleanup now days =>
    (now.cutoff? days).isSome ∧ d.midnight < now.count - days * dayLength

instance (d : Date) : DecidablePred (Call.Removes d) := fun c =>
  match c with
  | .record _ => inferInstanceAs (Decidable False)
  | .cleanup now days => inferInstanceAs
      (Decidable ((now.cutoff? days).isSome ∧ d.midnight < now.count - days * dayLength))

/-- The entry that a call logs on a day, if it does. -/
def Call.entryOn? (d : Date) : Call → Option Entry
  | record e => if e.at_.date = d then some e else none
  | cleanup _ _ => none

/-- The entries of a day that were logged since the last call that removed it. -/
def entriesOf (d : Date) (calls : List Call) : List Entry :=
  (calls.rtakeWhile fun c => !decide (c.Removes d)).filterMap (Call.entryOn? d)

/-- The text of some entries: a line for each. Without entries there is no file. -/
def textOf (entries : List Entry) : Option (List Char) :=
  if entries = [] then none else some (entries.flatMap Entry.line)

/-- The path of a day's file. -/
def pathOf (directory : List Char) (d : Date) : Path := folderOf directory ++ [fileName d]

section Calls

variable {d d' : Date} {directory : List Char} {calls : List Call} {entries : List Entry}

theorem entriesOf_concat_record (d : Date) (calls : List Call) (e : Entry) :
    entriesOf d (calls ++ [.record e]) =
      entriesOf d calls ++ if e.at_.date = d then [e] else [] := by
  rw [entriesOf, List.rtakeWhile_concat_pos _ _ _ rfl, List.filterMap_append, entriesOf]
  split
  · next h => simp [Call.entryOn?, h]
  · next h => simp [Call.entryOn?, h]

theorem entriesOf_concat_cleanup (d : Date) (calls : List Call) (now : Instant) (days : Int) :
    entriesOf d (calls ++ [.cleanup now days]) =
      if (Call.cleanup now days).Removes d then [] else entriesOf d calls := by
  rw [entriesOf, List.rtakeWhile_concat]
  by_cases h : (Call.cleanup now days).Removes d
  · simp [h]
  · simp [h, entriesOf, Call.entryOn?]

theorem textOf_append (entries : List Entry) (e : Entry) :
    textOf (entries ++ [e]) = some ((textOf entries).getD [] ++ e.line) := by
  cases entries <;> simp [textOf]

theorem dropLast_pathOf (directory : List Char) (d : Date) :
    (pathOf directory d).dropLast = folderOf directory :=
  List.dropLast_concat

theorem pathOf_ne_nil (directory : List Char) (d : Date) : pathOf directory d ≠ [] :=
  List.append_ne_nil_of_right_ne_nil _ (List.cons_ne_nil _ _)

theorem isDirectlyIn_pathOf (directory : List Char) (d : Date) :
    Files.isDirectlyIn (folderOf directory) (pathOf directory d) = true :=
  Files.isDirectlyIn_iff.mpr ⟨pathOf_ne_nil directory d, dropLast_pathOf directory d⟩

theorem pathOf_inj (h : d.isReal = true) (h' : d'.isReal = true)
    (heq : pathOf directory d = pathOf directory d') : d = d' :=
  fileName_inj h h' (List.cons.inj (List.append_cancel_left heq)).1

end Calls

/-! ### One call -/

/-- A tidy log: its files are those of days, each day once, and they lie in the folder of the
project. -/
structure Tidy (directory : List Char) (f : Files) : Prop where
  daily : ∀ path ∈ f.paths, ∃ d : Date, d.isReal = true ∧ path = pathOf directory d
  nodup : f.paths.Nodup
  folder : f.files ≠ [] → f.hasFolder (folderOf directory) = true

section Steps

variable {directory : List Char} {f g : Files} {d : Date} {e : Entry} {now : Instant} {days : Int}
  {m : Moment} {n : Nat}

theorem tidy_of_files_eq_nil (h : f.files = []) : Tidy directory f where
  daily := by simp [Files.paths, h]
  nodup := by simp [Files.paths, h]
  folder hne := absurd h hne

theorem folderOf_cases (directory : List Char) :
    folderOf directory = [] ∨ folderOf directory = [slug directory] := by
  rw [folderOf]
  split
  · exact .inl rfl
  · exact .inr rfl

/-- The folders above a day's file are that of the project, and the root. -/
theorem mem_above_iff {folder : Path} (name : List Char) :
    folder ∈ Files.above (folderOf directory ++ [name]) ↔
      folder = [] ∨ folder = folderOf directory := by
  rcases folderOf_cases directory with h | h
  · simp [h, Files.above]
  · simp [h, Files.above, List.range_succ]

/-- Logging an entry makes the folder of the project, and the root. -/
theorem mem_folders_record {folder : Path} :
    folder ∈ (Log.record directory e f).folders ↔
      folder ∈ f.folders ∨ folder = [] ∨ folder = folderOf directory := by
  rw [← mem_above_iff (fileName e.at_.date)]
  simp only [Log.record, Files.append, Files.write, Files.makeFolders, List.mem_append,
    List.mem_filter, Bool.not_eq_true', List.contains_eq_mem, decide_eq_false_iff_not]
  by_cases hold : folder ∈ f.folders
  · simp [hold]
  · simp [hold]

theorem hasFolder_record (f : Files) (e : Entry) :
    (Log.record directory e f).hasFolder (folderOf directory) = true :=
  List.contains_iff_mem.mpr (mem_folders_record.mpr (.inr (.inr rfl)))

theorem mem_paths_record {path : Path} :
    path ∈ (Log.record directory e f).paths ↔
      path ∈ f.paths ∨ path = pathOf directory e.at_.date := by
  rw [Log.record, Files.paths_append]
  split
  · next hold => exact ⟨.inl, fun h => h.elim id fun heq => heq ▸ hold⟩
  · rw [List.mem_append, List.mem_singleton, pathOf]

/-- **Logging an entry** leaves the log tidy. -/
theorem Tidy.record (h : Tidy directory f) (he : e.at_.date.isReal = true) :
    Tidy directory (Log.record directory e f) where
  daily path hpath := by
    rcases mem_paths_record.mp hpath with hold | hnew
    · exact h.daily path hold
    · exact ⟨e.at_.date, he, hnew⟩
  nodup := by
    rw [Log.record, Files.paths_append]
    split
    · exact h.nodup
    · next hnew =>
      refine List.nodup_append.mpr ⟨h.nodup, List.pairwise_singleton _ _, ?_⟩
      rintro path hpath other hother rfl
      exact hnew (List.mem_singleton.mp hother ▸ hpath)
  folder _ := hasFolder_record f e

/-- The file of a day on which an entry is logged has its line at the end. -/
theorem text?_record (f : Files) (e : Entry) :
    (Log.record directory e f).text? (pathOf directory e.at_.date) =
      some ((f.text? (pathOf directory e.at_.date)).getD [] ++ e.line) :=
  Files.text?_append_self f _ _

/-- The files of other days do not change when an entry is logged. -/
theorem text?_record_of_ne (he : e.at_.date.isReal = true) (hd : d.isReal = true)
    (hne : e.at_.date ≠ d) (f : Files) :
    (Log.record directory e f).text? (pathOf directory d) = f.text? (pathOf directory d) :=
  Files.text?_write_of_ne (fun heq => hne (pathOf_inj hd he heq).symm) f _

/-- The file of a day is removed if the name spells a day before the cutoff. -/
theorem isOutdated_pathOf (hd : d.isReal = true) :
    isOutdated (folderOf directory) m (pathOf directory d) = true ↔
      1000 ≤ d.year ∧ d.isBefore m = true := by
  have hin := isDirectlyIn_pathOf directory d
  have hname : (pathOf directory d).getLast? = some (fileName d) := by simp [pathOf]
  rw [isOutdated, hin, hname, Option.bind_some, dateOfName?_fileName hd, Bool.true_and]
  split
  · next h => simp [h]
  · next h => simp [h]

/-- A cleanup, told file by file: the files of days before its cutoff are removed from the folder
there is, and all other files stay; so do all files if the calendar does not have the cutoff. -/
theorem text?_apply_cleanup (directory : List Char) (f : Files) (now : Instant) (days : Int)
    (path : Path) :
    (Call.apply directory f (.cleanup now days)).text? path =
      if f.hasFolder (folderOf directory) = true ∧
          ((now.cutoff? days).any fun m => isOutdated (folderOf directory) m path) = true then none
      else f.text? path := by
  cases hm : now.cutoff? days with
  | none => simp [Call.apply, Log.cleanup, hm]
  | some m =>
    simp only [Call.apply, Log.cleanup, hm, Option.map_some, Option.getD_some, Option.any_some]
    split
    · next hfolder =>
      rw [Files.text?_removeFolder, Files.text?_removeAll_eq]
      simp only [hfolder, true_and]
    · next hfolder => rw [if_neg fun h => hfolder h.1]

/-- A cleanup removes the files of days before its cutoff, and then the folder if it is empty.
It is the same whether or not there is a folder, if there are no files without one. -/
theorem eq_of_cleanup (h : f.files ≠ [] → f.hasFolder (folderOf directory) = true)
    (hclean : Log.cleanup directory now days f = some (g, n)) :
    ∃ m, now.cutoff? days = some m ∧
      g = (f.removeAll (isOutdated (folderOf directory) m)).removeFolder (folderOf directory) ∧
      n = f.files.countP fun e => isOutdated (folderOf directory) m e.1 := by
  obtain ⟨m, hm, hclean⟩ := Option.map_eq_some_iff.mp hclean
  refine ⟨m, hm, ?_⟩
  dsimp only at hclean
  split at hclean
  · cases hclean
    exact ⟨rfl, rfl⟩
  · next hfolder =>
    -- without the folder there is no file to remove, and no folder
    have hnil : f.files = [] := by
      by_contra hne
      exact hfolder (h hne)
    cases hclean
    refine ⟨?_, by rw [hnil]; rfl⟩
    have hsame : f.removeAll (isOutdated (folderOf directory) m) = f := by
      rw [Files.removeAll, hnil, List.filter_nil, ← hnil]
    rw [hsame, Files.removeFolder_of_not_mem (by simpa [Files.hasFolder] using hfolder)]

/-- A cleanup counts the files that it removes. -/
theorem Tidy.length_cleanup (h : Tidy directory f)
    (hclean : Log.cleanup directory now days f = some (g, n)) :
    g.files.length + n = f.files.length := by
  obtain ⟨m, -, rfl, rfl⟩ := eq_of_cleanup h.folder hclean
  have hcount : f.files.length = _ := List.length_eq_countP_add_countP
    fun e : Path × List Char => !isOutdated (folderOf directory) m e.1
  rw [Files.files_removeFolder, Files.removeAll, ← List.countP_eq_length_filter, hcount]
  simp

/-- **A cleanup** leaves the log tidy. -/
theorem Tidy.cleanup (h : Tidy directory f)
    (hclean : Log.cleanup directory now days f = some (g, n)) : Tidy directory g := by
  obtain ⟨m, -, rfl, -⟩ := eq_of_cleanup h.folder hclean
  have hkept := Files.paths_removeAll (isOutdated (folderOf directory) m) f
  have hpaths := Files.paths_removeFolder (folderOf directory)
    (f.removeAll (isOutdated (folderOf directory) m))
  have hdaily : ∀ path ∈ (f.removeAll (isOutdated (folderOf directory) m)).paths,
      ∃ d : Date, d.isReal = true ∧ path = pathOf directory d := by
    rw [hkept]
    exact fun path hpath => h.daily path (List.mem_of_mem_filter hpath)
  refine ⟨hpaths ▸ hdaily, ?_, fun hne => ?_⟩
  · rw [hpaths, hkept]
    exact h.nodup.filter _
  · -- a file that is left lies in the folder, which therefore stays
    rw [Files.files_removeFolder] at hne
    obtain ⟨e, files, hfiles⟩ := List.exists_cons_of_ne_nil hne
    have he : e.1 ∈ (f.removeAll (isOutdated (folderOf directory) m)).paths := by
      rw [Files.paths, hfiles]
      exact List.mem_cons_self
    obtain ⟨d, -, hpath⟩ := hdaily e.1 he
    rw [Files.removeFolder_of_mem he (hpath ▸ isDirectlyIn_pathOf directory d)]
    exact h.folder fun hnil => by simp [Files.removeAll, hnil] at hne

/-- **A cleanup** leaves the files of days as they are that do not begin before its cutoff, and
removes all others. -/
theorem text?_cleanup (h : f.files ≠ [] → f.hasFolder (folderOf directory) = true)
    (hnow : now.IsReal) (hclean : Log.cleanup directory now days f = some (g, n))
    (hd : d.isReal = true) :
    g.text? (pathOf directory d) =
      if 1000 ≤ d.year ∧ d.midnight < now.count - days * dayLength then none
      else f.text? (pathOf directory d) := by
  obtain ⟨m, hm, rfl, -⟩ := eq_of_cleanup h hclean
  rw [Files.text?_removeFolder, Files.text?_removeAll_eq]
  simp only [isOutdated_pathOf hd, isBefore_iff hnow hm]

end Steps

/-! ### Lines -/

/-- A line that holds an entry: characters that are visible, up to the line end behind them,
that are decoded to the eight fields of the entry. -/
structure Holds (e : Entry) (line : List Char) : Prop where
  ends : line.getLast? = some '\n'
  visible : ∀ c ∈ line.dropLast, Visible c
  decodes : Json.decode line.dropLast = some (.record [
    ("ts", .text e.at_.stamp), ("dialect", optional .string e.dialect), ("sql", .string e.sql),
    ("classification", optional .string e.label), ("has_result_set", optional .bool e.hasResultSet),
    ("is_select", optional .bool e.isSelect), ("blocked", .bool e.blocked),
    ("diagnostics", .array (e.codes.map .string))])

theorem holds_line (e : Entry) : Holds e e.line where
  ends := by simp [Entry.line]
  visible := by
    rw [Entry.line, List.dropLast_concat]
    exact visible_of_mem_line
  decodes := by
    rw [Entry.line, List.dropLast_concat]
    exact decode_print .loose e.json

/-! ### All calls -/

/-- Instants of years with four digits. -/
structure InEra (i : Instant) : Prop where
  real : i.IsReal
  year : 1000 ≤ i.date.year

/-- Files that mirror calls: those of days, each day once, with the entries that are left of
it. -/
structure Mirrors (directory : List Char) (calls : List Call) (f : Files) : Prop where
  tidy : Tidy directory f
  text : ∀ d : Date, d.isReal = true → f.text? (pathOf directory d) = textOf (entriesOf d calls)

section Runs

variable {directory : List Char} {calls : List Call} {f g : Files} {e : Entry} {now : Instant}
  {days : Int} {n : Nat}

theorem mirrors_nil (h : f.files = []) : Mirrors directory [] f where
  tidy := tidy_of_files_eq_nil h
  text d _ := by
    rw [Files.text?, h]
    rfl

/-- **Logging an entry** adds it to those of its day. -/
theorem Mirrors.record (h : Mirrors directory calls f) (he : e.at_.date.isReal = true) :
    Mirrors directory (calls ++ [.record e]) (Log.record directory e f) where
  tidy := h.tidy.record he
  text d hd := by
    rw [entriesOf_concat_record]
    by_cases heq : e.at_.date = d
    · subst heq
      rw [if_pos rfl, text?_record, h.text _ he, textOf_append]
    · rw [if_neg heq, List.append_nil, text?_record_of_ne he hd heq, h.text d hd]

/-- The entries of a day are logged on it. -/
theorem year_of_entriesOf (hera : ∀ c ∈ calls, InEra c.clock) {d : Date}
    (h : entriesOf d calls ≠ []) : 1000 ≤ d.year := by
  obtain ⟨e, entries, hentries⟩ := List.exists_cons_of_ne_nil h
  have he : e ∈ entriesOf d calls := hentries ▸ List.mem_cons_self
  obtain ⟨c, hc, hentry⟩ := List.mem_filterMap.mp he
  have hmem : c ∈ calls := (List.rtakeWhile_suffix _ _).subset hc
  cases c with
  | record e' =>
    simp only [Call.entryOn?, Option.ite_none_right_eq_some] at hentry
    rw [← hentry.1]
    exact (hera _ hmem).year
  | cleanup => cases hentry

theorem Call.removes_cleanup_iff (hclean : Log.cleanup directory now days f = some (g, n))
    (d : Date) :
    (Call.cleanup now days).Removes d ↔ d.midnight < now.count - days * dayLength := by
  obtain ⟨m, hm, -⟩ := Option.map_eq_some_iff.mp hclean
  simp [Call.Removes, hm]

/-- A cleanup that breaks off removes nothing. -/
theorem Call.not_removes_of_cleanup (hclean : Log.cleanup directory now days f = none) (d : Date) :
    ¬ (Call.cleanup now days).Removes d := by
  have hcutoff : now.cutoff? days = none := Option.map_eq_none_iff.mp hclean
  simp [Call.Removes, hcutoff]

/-- **A cleanup** leaves nothing of the days that it removes. -/
theorem Mirrors.cleanup (h : Mirrors directory calls f) (hera : ∀ c ∈ calls, InEra c.clock)
    (hnow : now.IsReal) :
    Mirrors directory (calls ++ [.cleanup now days])
      (Call.apply directory f (.cleanup now days)) := by
  rw [Call.apply]
  cases hclean : Log.cleanup directory now days f with
  | none =>
    refine ⟨h.tidy, fun d hd => ?_⟩
    rw [entriesOf_concat_cleanup, if_neg (Call.not_removes_of_cleanup hclean d)]
    exact h.text d hd
  | some p =>
    obtain ⟨g, n⟩ := p
    refine ⟨h.tidy.cleanup hclean, fun d hd => ?_⟩
    have htext := text?_cleanup h.tidy.folder hnow hclean hd
    rw [entriesOf_concat_cleanup]
    simp only [Call.removes_cleanup_iff hclean, Option.map_some, Option.getD_some]
    rw [htext, h.text d hd]
    by_cases hold : d.midnight < now.count - days * dayLength
    · rw [if_pos hold]
      split
      · rfl
      · next hearly =>
        -- nothing was logged on a day of a year with fewer digits
        have hnone : entriesOf d calls = [] := by
          by_contra hne
          exact hearly ⟨year_of_entriesOf hera hne, hold⟩
        rw [hnone]
    · rw [if_neg hold, if_neg fun h => hold h.2]

/-- The files mirror the calls, whatever they are. -/
theorem mirrors_applyCalls (hera : ∀ c ∈ calls, InEra c.clock) (hf : f.files = []) :
    Mirrors directory calls (applyCalls directory f calls) := by
  -- on the last call, since the entries that are left are counted back from the end
  induction calls using List.reverseRecOn with
  | nil => exact mirrors_nil hf
  | append_singleton calls c ih =>
    obtain ⟨hcalls, hc⟩ := List.forall_mem_append.mp hera
    have hc := List.forall_mem_singleton.mp hc
    have ih := ih hcalls
    rw [applyCalls, List.foldl_concat]
    cases c with
    | record e => exact ih.record hc.real.date
    | cleanup now days => exact ih.cleanup hcalls hc.real

end Runs

/-- A cleanup that is done: the files of the days are gone that began before the cutoff, and no
others, and their number is told. -/
structure Cleans (directory : List Char) (now : Instant) (days : Int) (f g : Files) (n : Nat) :
    Prop where
  tidy : Tidy directory g
  text : ∀ d : Date, d.isReal = true → g.text? (pathOf directory d) =
    if d.midnight < now.count - days * dayLength then none else f.text? (pathOf directory d)
  count : g.files.length + n = f.files.length

theorem Mirrors.cleans {directory : List Char} {calls : List Call} {f g : Files} {now : Instant}
    {days : Int} {n : Nat} (h : Mirrors directory calls f) (hera : ∀ c ∈ calls, InEra c.clock)
    (hnow : now.IsReal) (hclean : Log.cleanup directory now days f = some (g, n)) :
    Cleans directory now days f g n where
  tidy := h.tidy.cleanup hclean
  text d hd := by
    -- the cleanup is one call more, of which the mirror speaks already
    have hnext : Mirrors directory (calls ++ [.cleanup now days]) _ := h.cleanup hera hnow
    have htext := hnext.text d hd
    rw [Call.apply, hclean, entriesOf_concat_cleanup] at htext
    simp only [Call.removes_cleanup_iff hclean] at htext
    rw [h.text d hd]
    refine htext.trans ?_
    split <;> rfl
  count := h.tidy.length_cleanup hclean

/-- **The log mirrors its calls.** Beginning without files, and with the clock in years of four
digits, any entries are logged and any days cleaned up, one after another. Then the files are those
of days, each with the lines of the entries that were logged on the day since it was last removed,
and there is none for a day without such entries; every line holds its entry; and a further cleanup
removes exactly the files of the days that began before its cutoff, and tells their number, or
breaks off and changes nothing. -/
theorem mirrors_of_calls {directory : List Char} {calls : List Call} {f : Files}
    (hera : ∀ c ∈ calls, InEra c.clock) (hf : f.files = []) :
    Mirrors directory calls (applyCalls directory f calls) ∧
      (∀ e : Entry, Holds e e.line) ∧
      ∀ now days, InEra now →
        (∀ g n, cleanup directory now days (applyCalls directory f calls) = some (g, n) →
          Cleans directory now days (applyCalls directory f calls) g n) ∧
        (cleanup directory now days (applyCalls directory f calls) = none →
          applyCalls directory f (calls ++ [.cleanup now days]) =
            applyCalls directory f calls) := by
  have hmirrors : Mirrors directory calls (applyCalls directory f calls) :=
    mirrors_applyCalls hera hf
  refine ⟨hmirrors, holds_line, fun now days hnow => ⟨fun g n hclean => ?_, fun hclean => ?_⟩⟩
  · exact hmirrors.cleans hera hnow.real hclean
  · rw [applyCalls, List.foldl_concat, ← applyCalls, Call.apply, hclean]
    rfl

/-- A sample entry, logged at noon of a day in March. -/
def sampleEntry (day : Nat) : Entry where
  at_ := { date := { year := 2024, month := 3, day },
           time := { Calendar.Time.midnight with hour := 12 } }
  sql := "SELECT '\n\"\x01é😀'".toList
  codes := ["Q0201".toList]

/-- Sample calls: a cleanup removes the first day, on which an entry is logged again when the
clock has gone back; the calendar does not have the cutoff of the last cleanup. -/
def sampleCalls : List Call :=
  [.record (sampleEntry 1), .record (sampleEntry 3), .cleanup (sampleEntry 4).at_ 2,
    .record (sampleEntry 1), .record (sampleEntry 3), .cleanup (sampleEntry 4).at_ 1000000]

/-- The sample calls leave one line of the first day, and two of the third. -/
theorem mirrors_of_calls_sample :
    (∀ c ∈ sampleCalls, InEra c.clock) ∧
      (applyCalls "/work".toList {} sampleCalls).text?
          (pathOf "/work".toList (sampleEntry 1).at_.date) = some (sampleEntry 1).line ∧
      (applyCalls "/work".toList {} sampleCalls).text?
          (pathOf "/work".toList (sampleEntry 3).at_.date) =
        some ((sampleEntry 3).line ++ (sampleEntry 3).line) := by
  have hera : ∀ c ∈ sampleCalls, InEra c.clock := by
    have htime : (sampleEntry 1).at_.time.IsReal := ⟨by decide, by decide, by decide, by decide⟩
    simp only [sampleCalls, List.forall_mem_cons, Call.clock]
    refine ⟨?_, ?_, ?_, ?_, ?_, ?_, List.forall_mem_nil _⟩
    all_goals exact ⟨⟨by decide, htime⟩, by decide⟩
  have hmirrors : Mirrors "/work".toList sampleCalls (applyCalls "/work".toList {} sampleCalls) :=
    (mirrors_of_calls hera rfl).1
  refine ⟨hera, ?_, ?_⟩
  · rw [hmirrors.text _ (by decide)]
    have hentries : entriesOf (sampleEntry 1).at_.date sampleCalls = [sampleEntry 1] := by decide
    rw [hentries]
    simp [textOf]
  · rw [hmirrors.text _ (by decide)]
    have hentries : entriesOf (sampleEntry 3).at_.date sampleCalls =
        [sampleEntry 3, sampleEntry 3] := by
      decide
    rw [hentries]
    simp [textOf]

end StatementShape.Log
