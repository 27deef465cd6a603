import StatementShape.Proofs.Log.History

/-!
# The logs of several projects

Entries are logged and days cleaned up from several working directories, in any order. A call reads
and changes the files of one folder only, and what it leaves there depends on nothing else. A
cleanup asks whether the folder is there, which others may have made or removed; but a folder that is
not there has no files. So the files in a folder are those that the calls from its directories
leave, without all others.

Directories with the same folder share their files, though. The name of a folder has dashes for
slashes, and a dash in a directory stays a dash, so that `/work/a` and `/work-a` have one log. Only
directories without dashes are sure to have folders of their own.

No system has a folder and a file of the same path, and neither do the logs of projects, unless the
folder of one stands where the root project has the file of a day.

## Main definitions

* `applyFrom`, `callsFrom`: calls from several directories, and those from one
* `AgreeIn`: logs with the same files in a folder
* `Housed`, `Filed`: files with folders around them, and the files and folders of some projects
* `Clear`: projects whose folders do not stand where the other has a file
* `LeavesAlone`: a project whose calls do not disturb another

## Main results

* `agreeIn_of_ne`, `AgreeIn.apply`: one call, from another folder and from the same
* `agreeIn_applyFrom`: all calls
* `leaveAlone_iff`: two projects leave each other alone exactly if their folders differ
* `exists_shared_file`: two directories that share a file
* `folderOf_inj`: directories without dashes have folders of their own
-/

namespace StatementShape.Log

open Calendar (Date Instant Moment)
open Files (isDirectlyIn isDirectlyIn_iff)

/-! ### Calls from several directories -/

/-- What calls leave that are made from several directories, one after another. -/
def applyFrom (f : Files) (calls : List (List Char × Call)) : Files :=
  calls.foldl (fun f c => c.2.apply c.1 f) f

/-- The calls from a directory, in their order. -/
def callsFrom (directory : List Char) (calls : List (List Char × Call)) : List Call :=
  (calls.filter fun c => c.1 = directory).map Prod.snd

/-- Logs with the same files in a folder. -/
def AgreeIn (folder : Path) (f g : Files) : Prop :=
  ∀ path, isDirectlyIn folder path = true → f.text? path = g.text? path

/-- Logs without stray files: every file lies in a folder that is there. -/
def Housed (f : Files) : Prop := ∀ path ∈ f.paths, path ≠ [] ∧ path.dropLast ∈ f.folders

/-- The files and folders that calls make from some directories: files of days, and no folders
but theirs and the root. -/
structure Filed (P : List Char → Prop) (f : Files) : Prop where
  daily : ∀ path ∈ f.paths, ∃ a d, P a ∧ path = pathOf a d
  folders : ∀ folder ∈ f.folders, folder = [] ∨ ∃ a, P a ∧ folder = folderOf a

section Steps

variable {P : List Char → Prop} {f g : Files} {a : List Char} {folder path : Path}
  {calls : List (List Char × Call)} {m : Moment}

theorem applyFrom_concat (f : Files) (calls : List (List Char × Call)) (a : List Char) (c : Call) :
    applyFrom f (calls ++ [(a, c)]) = c.apply a (applyFrom f calls) := by
  rw [applyFrom, List.foldl_concat, applyFrom]

/-- A cleanup leaves everything as it is, or removes files, and then the folder if it is
empty. -/
theorem apply_cleanup_cases (a : List Char) (f : Files) (now : Instant) (days : Int) :
    Call.apply a f (.cleanup now days) = f ∨ ∃ gone : Path → Bool,
      Call.apply a f (.cleanup now days) = (f.removeAll gone).removeFolder (folderOf a) := by
  cases hm : now.cutoff? days with
  | none => exact .inl (by simp [Call.apply, Log.cleanup, hm])
  | some m =>
    simp only [Call.apply, Log.cleanup, hm, Option.map_some, Option.getD_some]
    split
    · exact .inr ⟨_, rfl⟩
    · exact .inl rfl

theorem mem_paths_of_removeAll {gone : Path → Bool} (h : path ∈ (f.removeAll gone).paths) :
    path ∈ f.paths := by
  rw [Files.paths_removeAll] at h
  exact List.mem_of_mem_filter h

theorem mem_folders_of_removeFolder {other : Path} (h : other ∈ (f.removeFolder folder).folders) :
    other ∈ f.folders := by
  unfold Files.removeFolder at h
  split at h
  · exact List.mem_of_mem_filter h
  · exact h

/-! ### Folders with files -/

theorem housed_empty : Housed {} := fun _ hpath => nomatch hpath

theorem Housed.record (h : Housed f) (a : List Char) (e : Entry) : Housed (Log.record a e f) := by
  intro path hpath
  rcases mem_paths_record.mp hpath with hold | rfl
  · obtain ⟨hne, hfolder⟩ := h path hold
    exact ⟨hne, mem_folders_record.mpr (.inl hfolder)⟩
  · refine ⟨pathOf_ne_nil a _, mem_folders_record.mpr (.inr (.inr ?_))⟩
    exact dropLast_pathOf a _

/-- A file keeps its folder from being empty. -/
theorem Housed.removeFolder (h : Housed f) (folder : Path) : Housed (f.removeFolder folder) := by
  intro path hpath
  rw [Files.paths_removeFolder] at hpath
  obtain ⟨hne, hfolder⟩ := h path hpath
  refine ⟨hne, ?_⟩
  by_cases hin : path.dropLast = folder
  · rwa [Files.removeFolder_of_mem hpath (isDirectlyIn_iff.mpr ⟨hne, hin⟩)]
  · unfold Files.removeFolder
    split
    · exact List.mem_filter.mpr ⟨hfolder, by simpa using hin⟩
    · exact hfolder

theorem Housed.apply (h : Housed f) (a : List Char) (c : Call) : Housed (c.apply a f) := by
  cases c with
  | record e => exact h.record a e
  | cleanup now days =>
    rcases apply_cleanup_cases a f now days with heq | ⟨gone, heq⟩
    · rw [heq]
      exact h
    · rw [heq]
      have hkept : Housed (f.removeAll gone) := fun path hpath =>
        h path (mem_paths_of_removeAll hpath)
      exact hkept.removeFolder (folderOf a)

/-- Calls leave no stray files. -/
theorem Housed.applyFrom (h : Housed f) (calls : List (List Char × Call)) :
    Housed (applyFrom f calls) :=
  List.foldlRecOn calls _ h fun _ hf c _ => hf.apply c.1 c.2

/-! ### Files and folders of projects -/

theorem filed_empty (P : List Char → Prop) : Filed P {} where
  daily _ hpath := nomatch hpath
  folders _ hfolder := nomatch hfolder

theorem Filed.record (h : Filed P f) (ha : P a) (e : Entry) : Filed P (Log.record a e f) where
  daily path hpath := by
    rcases mem_paths_record.mp hpath with hold | hnew
    · exact h.daily path hold
    · exact ⟨a, e.at_.date, ha, hnew⟩
  folders folder hfolder := by
    rcases mem_folders_record.mp hfolder with hold | hroot | hown
    · exact h.folders folder hold
    · exact .inl hroot
    · exact .inr ⟨a, ha, hown⟩

theorem Filed.apply (h : Filed P f) (ha : P a) (c : Call) : Filed P (c.apply a f) := by
  cases c with
  | record e => exact h.record ha e
  | cleanup now days =>
    rcases apply_cleanup_cases a f now days with heq | ⟨gone, heq⟩
    · rw [heq]
      exact h
    · rw [heq]
      refine ⟨fun path hpath => ?_, fun folder hfolder => ?_⟩
      · rw [Files.paths_removeFolder] at hpath
        exact h.daily path (mem_paths_of_removeAll hpath)
      · have hold : folder ∈ (f.removeAll gone).folders := mem_folders_of_removeFolder hfolder
        exact h.folders folder hold

/-- Calls make files and folders of their projects. -/
theorem Filed.applyFrom (h : Filed P f) (hcalls : ∀ c ∈ calls, P c.1) :
    Filed P (applyFrom f calls) :=
  List.foldlRecOn calls _ h fun _ hf c hc => hf.apply (hcalls c hc) c.2

/-! ### One folder -/

theorem dropLast_of_isOutdated (h : isOutdated folder m path = true) : path.dropLast = folder := by
  rw [isOutdated, Bool.and_eq_true] at h
  exact (isDirectlyIn_iff.mp h.1).2

/-- **Calls from another folder** leave the files as they are. -/
theorem agreeIn_of_ne (h : folderOf a ≠ folder) (c : Call) (f : Files) :
    AgreeIn folder (c.apply a f) f := by
  intro path hpath
  obtain ⟨-, hin⟩ := isDirectlyIn_iff.mp hpath
  cases c with
  | record e =>
    have hne : path ≠ pathOf a e.at_.date := by
      rintro rfl
      exact h ((dropLast_pathOf a e.at_.date).symm.trans hin)
    exact Files.text?_write_of_ne hne f _
  | cleanup now days =>
    rw [text?_apply_cleanup]
    refine if_neg fun hgone => ?_
    obtain ⟨m, -, hm⟩ := (Option.any_eq_true _ _).mp hgone.2
    exact h ((dropLast_of_isOutdated hm).symm.trans hin)

/-- A cleanup does not need the folder to be there: otherwise there is nothing in it. -/
theorem Housed.text?_cleanup (h : Housed f) (a : List Char) (now : Instant) (days : Int)
    (path : Path) :
    (Call.apply a f (.cleanup now days)).text? path =
      if ((now.cutoff? days).any fun m => isOutdated (folderOf a) m path) = true then none
      else f.text? path := by
  rw [text?_apply_cleanup]
  by_cases hfolder : folderOf a ∈ f.folders
  · simp [Files.hasFolder, hfolder]
  · rw [if_neg fun hgone => hfolder (by simpa [Files.hasFolder] using hgone.1)]
    split
    · next hgone =>
      obtain ⟨m, -, hm⟩ := (Option.any_eq_true _ _).mp hgone
      refine Files.text?_eq_none_iff.mpr fun hpath => hfolder ?_
      rw [← dropLast_of_isOutdated hm]
      exact (h path hpath).2
    · rfl

/-- **The same call** keeps the files of a folder the same. -/
theorem AgreeIn.apply (h : AgreeIn folder f g) (hf : Housed f) (hg : Housed g) (a : List Char)
    (c : Call) : AgreeIn folder (c.apply a f) (c.apply a g) := by
  intro path hpath
  cases c with
  | record e =>
    by_cases heq : path = pathOf a e.at_.date
    · subst heq
      rw [Call.apply, Call.apply, text?_record, text?_record, h _ hpath]
    · have hf := Files.text?_write_of_ne heq f ((f.text? (pathOf a e.at_.date)).getD [] ++ e.line)
      have hg := Files.text?_write_of_ne heq g ((g.text? (pathOf a e.at_.date)).getD [] ++ e.line)
      exact hf.trans ((h path hpath).trans hg.symm)
  | cleanup now days => rw [hf.text?_cleanup, hg.text?_cleanup, h path hpath]

/-- **The files in a folder** are those that the calls from it leave, without all others. -/
theorem agreeIn_applyFrom (hf : Housed f) (folder : Path) (calls : List (List Char × Call)) :
    AgreeIn folder (applyFrom f calls)
      (applyFrom f (calls.filter fun c => folderOf c.1 = folder)) := by
  -- on the last call, which is made on both sides, or on one and changes nothing in the folder
  induction calls using List.reverseRecOn with
  | nil => exact fun _ _ => rfl
  | append_singleton calls c ih =>
    obtain ⟨a, c⟩ := c
    rw [applyFrom_concat, List.filter_append]
    by_cases h : folderOf a = folder
    · rw [List.filter_singleton, decide_eq_true h, cond_true, applyFrom_concat]
      exact ih.apply (hf.applyFrom _) (hf.applyFrom _) a c
    · rw [List.filter_singleton, decide_eq_false h, cond_false, List.append_nil]
      exact fun path hpath => (agreeIn_of_ne h c _ path hpath).trans (ih path hpath)

end Steps

/-! ### Two projects -/

/-- Calls that are made from one of two directories. -/
def MadeFrom (a b : List Char) (calls : List (List Char × Call)) : Prop :=
  ∀ c ∈ calls, c.1 = a ∨ c.1 = b

/-- Projects whose folders do not stand where the other has the file of a day. -/
def Clear (a b : List Char) : Prop := ∀ d, pathOf a d ≠ folderOf b ∧ pathOf b d ≠ folderOf a

/-- A project that another leaves alone. No call from the other changes a file in the folder,
where the entries of the project are logged. However the calls from the two follow on each other,
the files in the folder are those that the calls from the project leave without the others. -/
structure LeavesAlone (other own : List Char) : Prop where
  spared : ∀ f (c : Call), AgreeIn (folderOf own) (c.apply other f) f
  alone : ∀ f, Housed f → ∀ calls, MadeFrom other own calls →
    AgreeIn (folderOf own) (applyFrom f calls) (applyCalls own f (callsFrom own calls))

section Projects

variable {a b : List Char} {calls : List (List Char × Call)}

theorem applyFrom_filter (f : Files) (a : List Char) (calls : List (List Char × Call)) :
    applyFrom f (calls.filter fun c => c.1 = a) = applyCalls a f (callsFrom a calls) := by
  rw [applyFrom, applyCalls, callsFrom, List.foldl_map]
  refine List.foldl_ext _ _ _ fun g c hc => ?_
  have heq : c.1 = a := by simpa using List.of_mem_filter hc
  rw [heq]

/-- Projects with folders of their own leave each other alone. -/
theorem leavesAlone_of_ne (h : folderOf a ≠ folderOf b) : LeavesAlone a b where
  spared f c := agreeIn_of_ne h c f
  alone f hf calls hmade := by
    -- the folder tells the two directories apart
    have hfilter : (calls.filter fun c => folderOf c.1 = folderOf b) =
        calls.filter fun c => c.1 = b := by
      refine List.filter_congr fun c hc => ?_
      rcases hmade c hc with heq | heq
      · have hne : a ≠ b := fun hab => h (congrArg folderOf hab)
        simp [heq, h, hne]
      · simp [heq]
    rw [← applyFrom_filter, ← hfilter]
    exact agreeIn_applyFrom hf (folderOf b) calls

/-- Projects that share a folder do not: the first entry that is logged from one is in a file of
the other. -/
theorem not_leavesAlone_of_eq (h : folderOf a = folderOf b) (e : Entry) : ¬ LeavesAlone a b := by
  intro halone
  have hpath : pathOf a e.at_.date = pathOf b e.at_.date := by rw [pathOf, pathOf, h]
  have hline := halone.spared {} (.record e) _ (isDirectlyIn_pathOf b e.at_.date)
  rw [← hpath, Call.apply, text?_record] at hline
  cases hline

/-- Projects other than that of the root do not stand in each other's way. -/
theorem clear_of_ne_nil (ha : folderOf a ≠ []) (hb : folderOf b ≠ []) : Clear a b := by
  have ha := (folderOf_cases a).resolve_left ha
  have hb := (folderOf_cases b).resolve_left hb
  intro d
  simp [pathOf, ha, hb]

theorem pathOf_ne_folderOf_self (a : List Char) (d : Date) : pathOf a d ≠ folderOf a := by
  intro h
  simpa [pathOf] using congrArg List.length h

/-- No path is that of a file and of a folder. -/
theorem not_mem_folders_of_clear (hclear : Clear a b) (hmade : MadeFrom a b calls) :
    ∀ path ∈ (applyFrom {} calls).paths, path ∉ (applyFrom {} calls).folders := by
  have hfiled : Filed (fun c => c = a ∨ c = b) (applyFrom {} calls) :=
    (filed_empty _).applyFrom hmade
  intro path hpath hfolder
  obtain ⟨c, d, hc, rfl⟩ := hfiled.daily path hpath
  rcases hfiled.folders _ hfolder with hroot | ⟨c', hc', hfolder⟩
  · exact pathOf_ne_nil c d hroot
  · rcases hc with rfl | rfl <;> rcases hc' with rfl | rfl
    · exact pathOf_ne_folderOf_self _ d hfolder
    · exact (hclear d).1 hfolder
    · exact (hclear d).2 hfolder
    · exact pathOf_ne_folderOf_self _ d hfolder

end Projects

/-! ### Directories without dashes -/

/-- Absolute directories without dashes, with one slash in front. -/
def Dashless (directory : List Char) : Prop :=
  ∃ name, directory = '/' :: name ∧ name.head? ≠ some '/' ∧ '-' ∉ name ∧ name ≠ ['.']

section Names

variable {a b : List Char}

/-- The name of a project spells such a directory, with slashes for dashes. -/
theorem Dashless.spelled (h : Dashless a) :
    '/' :: (slug a).map (fun c => if c = '-' then '/' else c) = a := by
  obtain ⟨name, rfl, hslash, hdash, -⟩ := h
  have hslug : slug ('/' :: name) = name.map fun c => if c = '/' then '-' else c := by
    cases name with
    | nil => rfl
    | cons c name =>
      have hc : c ≠ '/' := fun heq => hslash (congrArg some heq)
      have hc' : c ≠ '-' := fun heq => hdash (heq ▸ List.mem_cons_self)
      simp [slug, hc, hc']
  rw [hslug, List.map_map]
  refine congrArg (List.cons '/') ((List.map_congr_left fun c hc => ?_).trans (List.map_id name))
  have hne : c ≠ '-' := fun heq => hdash (heq ▸ hc)
  by_cases hc : c = '/'
  · simp [hc]
  · simp [hc, hne]

/-- **Directories without dashes** have folders of their own. -/
theorem folderOf_inj (ha : Dashless a) (hb : Dashless b) (h : folderOf a = folderOf b) : a = b := by
  have hname : ∀ {c : List Char}, Dashless c → slug c = (folderOf c).headD [] := by
    intro c hc
    have hdot : slug c ≠ ['.'] := by
      intro hdot
      obtain ⟨name, rfl, -, -, hne⟩ := id hc
      have hspelled := hc.spelled
      rw [hdot] at hspelled
      exact hne (List.cons.inj hspelled).2.symm
    rw [folderOf]
    split
    · next hnil => exact hnil.resolve_right hdot
    · rfl
  rw [← ha.spelled, ← hb.spelled, hname ha, hname hb, h]

end Names

/-- **Two projects leave each other alone** exactly if their folders differ, as those of two
directories without dashes do. Neither of the folders stands where the other project has the file of
a day, and so no path is ever that of a file and of a folder. -/
theorem leaveAlone_iff {a b : List Char} (hclear : Clear a b) :
    (LeavesAlone a b ∧ LeavesAlone b a ↔ folderOf a ≠ folderOf b) ∧
    (Dashless a → Dashless b → a ≠ b → folderOf a ≠ folderOf b) ∧
    ∀ calls, MadeFrom a b calls →
      ∀ path ∈ (applyFrom {} calls).paths, path ∉ (applyFrom {} calls).folders := by
  refine ⟨⟨?_, ?_⟩, ?_, fun calls hmade => not_mem_folders_of_clear hclear hmade⟩
  · rintro ⟨halone, -⟩ h
    exact not_leavesAlone_of_eq h (sampleEntry 1) halone
  · intro h
    exact ⟨leavesAlone_of_ne h, leavesAlone_of_ne h.symm⟩
  · intro ha hb hne h
    exact hne (folderOf_inj ha hb h)

/-- Sample calls: an entry is logged from a directory, and then days are cleaned up from
another, that of the entry among them. -/
def sampleCallsFrom (a b : List Char) : List (List Char × Call) :=
  [(a, .record (sampleEntry 1)), (b, .cleanup (sampleEntry 4).at_ 1)]

/-- Two sample projects: what is cleaned up from the one is not what has been logged from the
other. -/
theorem leaveAlone_sample :
    Clear "/work/a".toList "/work/b".toList ∧
      (applyFrom {} (sampleCallsFrom "/work/a".toList "/work/b".toList)).text?
        (pathOf "/work/a".toList (sampleEntry 1).at_.date) = some (sampleEntry 1).line := by
  have hclear : Clear "/work/a".toList "/work/b".toList :=
    clear_of_ne_nil (by decide) (by decide)
  refine ⟨hclear, ?_⟩
  have hfolders : folderOf "/work/a".toList ≠ folderOf "/work/b".toList := by decide
  obtain ⟨-, halone⟩ := (leaveAlone_iff hclear).1.mpr hfolders
  have hmade : MadeFrom "/work/b".toList "/work/a".toList
      (sampleCallsFrom "/work/a".toList "/work/b".toList) :=
    List.forall_mem_cons.mpr ⟨.inr rfl, List.forall_mem_singleton.mpr (.inl rfl)⟩
  have hcalls : callsFrom "/work/a".toList (sampleCallsFrom "/work/a".toList "/work/b".toList) =
      [.record (sampleEntry 1)] := rfl
  have hsame := halone.alone {} housed_empty _ hmade _
    (isDirectlyIn_pathOf "/work/a".toList (sampleEntry 1).at_.date)
  rw [hsame, hcalls]
  exact text?_record {} (sampleEntry 1)

/-- **Two directories that share a file**: a cleanup from the one removes what has been logged from
the other. -/
theorem exists_shared_file :
    "/work/a".toList ≠ "/work-a".toList ∧
      (applyFrom {} ((sampleCallsFrom "/work/a".toList "/work-a".toList).take 1)).text?
        (pathOf "/work/a".toList (sampleEntry 1).at_.date) = some (sampleEntry 1).line ∧
      (applyFrom {} (sampleCallsFrom "/work/a".toList "/work-a".toList)).text?
        (pathOf "/work/a".toList (sampleEntry 1).at_.date) = none := by
  refine ⟨by decide, text?_record {} (sampleEntry 1), ?_⟩
  decide +kernel

end StatementShape.Log
