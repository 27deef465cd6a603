import StatementShape.Proofs.Calendar.Cutoff
import StatementShape.Proofs.Log.Projects
import StatementShape.Proofs.Log.Spelling

/-!
# What a cleanup removes

The root of the logs may hold anything: folders of other projects, folders in folders, and files of
any name. A cleanup removes the files that lie directly in the folder of the project and whose names
spell a day that began before the cutoff. It removes the folder if nothing is left in it, and
touches nothing else. A cleanup at the same time finds nothing more to remove. If the calendar does
not have the cutoff, nothing is touched at all.

## Main definitions

* `Goes`: the paths that a cleanup removes
* `CleanedUp`: files before and after a cleanup

## Main results

* `isOutdated_iff`: the files that are removed are those whose paths go
* `cleanup_of_housed`: every cleanup, whatever the files are
* `exists_removed_not_in_digits`: a name with a blank, which is removed
-/

namespace StatementShape.Log

open Calendar (Date Instant Moment Time dayLength isBefore_iff isSome_cutoff?_iff)
open Files (isDirectlyIn isDirectlyIn_iff)

/-- The paths that go: directly in the folder of the project, with a name that spells a day
which began before the cutoff. -/
def Goes (directory : List Char) (cutoff : Int) (path : Path) : Prop :=
  ∃ stem d, path = folderOf directory ++ [stem ++ ending] ∧ Spells stem d ∧ d.midnight < cutoff

/-- Files before and after a cleanup: the paths that go are gone, their number is told, and all
other files are what they were; of the folders only that of the project may be gone, which it is
exactly if there is nothing in it. -/
structure CleanedUp (directory : List Char) (cutoff : Int) (f g : Files) (n : Nat) : Prop where
  mem_paths_iff : ∀ path, path ∈ g.paths ↔ path ∈ f.paths ∧ ¬ Goes directory cutoff path
  text : ∀ path, ¬ Goes directory cutoff path → g.text? path = f.text? path
  count : n = (f.paths.filter fun path => path ∉ g.paths).length
  mem_folders_iff : ∀ folder, folder ∈ g.folders ↔ folder ∈ f.folders ∧
    ¬ (folder = folderOf directory ∧
      ∀ path, path ∈ g.paths ∨ path ∈ g.folders → path = [] ∨ path.dropLast ≠ folder)

/-! ### Files that are removed -/

namespace Files

variable {f : Files} {folder path : Path} {gone : Path → Bool}

theorem removeAll_eq_self (h : ∀ path ∈ f.paths, gone path = false) : f.removeAll gone = f := by
  have hfiles : f.files.filter (fun e => !gone e.1) = f.files :=
    List.filter_eq_self.mpr fun e he => by rw [h e.1 (List.mem_map_of_mem he), Bool.not_false]
  rw [removeAll, hfiles]

theorem isEmptyFolder_iff : f.isEmptyFolder folder = true ↔
    ∀ path, path ∈ f.paths ∨ path ∈ f.folders → path = [] ∨ path.dropLast ≠ folder := by
  have hin (path : Path) :
      isDirectlyIn folder path = false ↔ path = [] ∨ path.dropLast ≠ folder := by
    rw [Bool.eq_false_iff, Ne, isDirectlyIn_iff]
    tauto
  simp only [isEmptyFolder, Bool.not_eq_true', Bool.or_eq_false_iff, List.any_eq_false,
    Bool.not_eq_true, hin, paths, List.mem_map]
  constructor
  · rintro ⟨hfolders, hfiles⟩ path (⟨e, he, rfl⟩ | hpath)
    · exact hfiles e he
    · exact hfolders path hpath
  · intro h
    exact ⟨fun path hpath => h path (.inr hpath), fun e he => h e.1 (.inl ⟨e, he, rfl⟩)⟩

/-- Removing a folder does not change what is in it. -/
theorem isEmptyFolder_removeFolder (folder : Path) (f : Files) :
    (f.removeFolder folder).isEmptyFolder folder = f.isEmptyFolder folder := by
  rw [Bool.eq_iff_iff, isEmptyFolder_iff, isEmptyFolder_iff, paths_removeFolder]
  constructor
  · intro h path hpath
    by_cases heq : path = folder
    · -- a folder does not lie in itself
      by_cases hnil : path = []
      · exact .inl hnil
      · refine .inr fun hlast => hnil ?_
        have hlength := congrArg List.length (hlast.trans heq.symm)
        rw [List.length_dropLast] at hlength
        exact List.length_eq_zero_iff.mp (by omega)
    · refine h path (hpath.imp id fun hfolder => ?_)
      unfold removeFolder
      split
      · exact List.mem_filter.mpr ⟨hfolder, by simpa using heq⟩
      · exact hfolder
  · exact fun h path hpath => h path (hpath.imp id mem_folders_of_removeFolder)

theorem mem_folders_removeFolder_iff {other : Path} :
    other ∈ (f.removeFolder folder).folders ↔
      other ∈ f.folders ∧ ¬ (other = folder ∧ (f.removeFolder folder).isEmptyFolder other) := by
  by_cases heq : other = folder
  · subst heq
    rw [isEmptyFolder_removeFolder, removeFolder]
    split
    · next h => simp [h]
    · next h => simp [h]
  · rw [removeFolder]
    split
    · simp [heq]
    · simp [heq]

theorem removeFolder_removeFolder (folder : Path) (f : Files) :
    (f.removeFolder folder).removeFolder folder = f.removeFolder folder := by
  by_cases h : folder ∈ (f.removeFolder folder).folders
  · obtain ⟨-, hempty⟩ := mem_folders_removeFolder_iff.mp h
    rw [removeFolder, if_neg fun hnone => hempty ⟨rfl, hnone⟩]
  · exact removeFolder_of_not_mem h

end Files

/-! ### One cleanup -/

section Cleanup

variable {directory : List Char} {f g : Files} {now : Instant} {days : Int} {m : Moment} {n : Nat}
  {path : Path}

/-- **The files that are removed** are those whose paths go. -/
theorem isOutdated_iff (hnow : now.IsReal) (hm : now.cutoff? days = some m) :
    isOutdated (folderOf directory) m path = true ↔
      Goes directory (now.count - days * dayLength) path := by
  rw [isOutdated, Bool.and_eq_true, isDirectlyIn_iff, Option.any_eq_true]
  simp only [Option.bind_eq_some_iff, dateOfName?_eq_some_iff, isBefore_iff hnow hm]
  constructor
  · rintro ⟨⟨hne, hin⟩, d, ⟨name, hlast, stem, rfl, hspells⟩, hbefore⟩
    refine ⟨stem, d, ?_, hspells, hbefore⟩
    rw [← hin, List.dropLast_append_getLast? _ hlast]
  · rintro ⟨stem, d, rfl, hspells, hbefore⟩
    exact ⟨⟨by simp, List.dropLast_concat⟩, d,
      ⟨_, List.getLast?_concat, stem, rfl, hspells⟩, hbefore⟩

/-- A cleanup does not need the folder to be there: otherwise there is nothing in it. -/
theorem Housed.cleanup_eq (h : Housed f) (directory : List Char) (hm : now.cutoff? days = some m) :
    cleanup directory now days f =
      some ((f.removeAll (isOutdated (folderOf directory) m)).removeFolder (folderOf directory),
        f.paths.countP (isOutdated (folderOf directory) m)) := by
  have hcount : f.files.countP (fun e => isOutdated (folderOf directory) m e.1) =
      f.paths.countP (isOutdated (folderOf directory) m) := by
    rw [Files.paths, List.countP_map]
    rfl
  rw [cleanup, hm, Option.map_some, Option.some.injEq]
  dsimp only
  split
  · rw [hcount]
  · next hfolder =>
    have hnot : folderOf directory ∉ f.folders := by simpa [Files.hasFolder] using hfolder
    have hkept : ∀ path ∈ f.paths, isOutdated (folderOf directory) m path = false := by
      intro path hpath
      refine Bool.eq_false_iff.mpr fun hgone => hnot ?_
      rw [← dropLast_of_isOutdated hgone]
      exact (h path hpath).2
    rw [Files.removeAll_eq_self hkept, Files.removeFolder_of_not_mem hnot,
      List.countP_eq_zero.mpr fun path hpath => by simp [hkept path hpath]]

/-- What is left after a cleanup. -/
theorem cleanedUp_of_removeAll {cutoff : Int} {gone : Path → Bool}
    (hgone : ∀ path, gone path = true ↔ Goes directory cutoff path) (f : Files) :
    CleanedUp directory cutoff f ((f.removeAll gone).removeFolder (folderOf directory))
      (f.paths.countP gone) where
  mem_paths_iff path := by
    rw [Files.paths_removeFolder, Files.paths_removeAll, List.mem_filter, Bool.not_eq_true',
      Bool.eq_false_iff, Ne, hgone]
  text path hkept := by
    rw [Files.text?_removeFolder, Files.text?_removeAll_eq,
      if_neg fun h => hkept ((hgone path).mp h)]
  count := by
    rw [List.countP_eq_length_filter, Files.paths_removeFolder, Files.paths_removeAll]
    refine congrArg List.length (List.filter_congr fun path hpath => ?_)
    simp [hpath]
  mem_folders_iff folder := by
    rw [Files.mem_folders_removeFolder_iff, Files.isEmptyFolder_iff]
    rfl

/-- A second cleanup removes nothing. -/
theorem Housed.cleanup_again (h : Housed f) (hm : now.cutoff? days = some m)
    (hclean : cleanup directory now days f = some (g, n)) :
    cleanup directory now days g = some (g, 0) := by
  have hg : Housed g := by
    have happly := h.apply directory (.cleanup now days)
    rwa [Call.apply, hclean] at happly
  rw [h.cleanup_eq directory hm, Option.some.injEq, Prod.mk.injEq] at hclean
  obtain ⟨rfl, -⟩ := hclean
  have hkept : ∀ path ∈ ((f.removeAll (isOutdated (folderOf directory) m)).removeFolder
      (folderOf directory)).paths, isOutdated (folderOf directory) m path = false := by
    intro path hpath
    rw [Files.paths_removeFolder, Files.paths_removeAll, List.mem_filter,
      Bool.not_eq_true'] at hpath
    exact hpath.2
  rw [hg.cleanup_eq directory hm, Files.removeAll_eq_self hkept, Files.removeFolder_removeFolder,
    List.countP_eq_zero.mpr fun path hpath => by simp [hkept path hpath]]

/-- **Every cleanup**, whatever the files are, if only each lies in a folder that is there. If the
calendar has the cutoff, the files go whose names spell a day that began before it, and a cleanup at
the same time removes nothing more. If it does not, the cleanup breaks off and changes nothing. -/
theorem cleanup_of_housed (directory : List Char) (days : Int) (hf : Housed f) (hnow : now.IsReal) :
    (∀ cutoff : Instant, cutoff.IsReal → cutoff.count = now.count - days * dayLength →
      ∃ g n, cleanup directory now days f = some (g, n) ∧
        CleanedUp directory cutoff.count f g n ∧
        cleanup directory now days g = some (g, 0)) ∧
    ((¬ ∃ cutoff : Instant, cutoff.IsReal ∧ cutoff.count = now.count - days * dayLength) →
      cleanup directory now days f = none ∧
        Call.apply directory f (.cleanup now days) = f) := by
  constructor
  · intro cutoff hreal hcount
    obtain ⟨m, hm⟩ :=
      Option.isSome_iff_exists.mp ((isSome_cutoff?_iff hnow).mpr ⟨cutoff, hreal, hcount⟩)
    have hclean := hf.cleanup_eq directory hm
    refine ⟨_, _, hclean, ?_, hf.cleanup_again hm hclean⟩
    rw [hcount]
    exact cleanedUp_of_removeAll (fun path => isOutdated_iff hnow hm) f
  · intro hnone
    rw [← isSome_cutoff?_iff hnow, Option.not_isSome_iff_eq_none] at hnone
    have hclean : cleanup directory now days f = none := by rw [cleanup, hnone, Option.map_none]
    exact ⟨hclean, by rw [Call.apply, hclean]; rfl⟩

end Cleanup

/-! ### Sample files -/

/-- A sample log: the project has a file of an old day, one of the first day that is kept, one
of a day that there is not, and one whose name has a blank; another project has a file of the old
day. -/
def sampleLog : Files where
  folders := [[], ["work".toList], ["other".toList]]
  files := [(["work".toList, "2020-01-05.jsonl".toList], "a".toList),
    (["work".toList, "2024-02-01.jsonl".toList], "b".toList),
    (["work".toList, "2023-02-30.jsonl".toList], "c".toList),
    (["work".toList, "2020-01- 5.jsonl".toList], "d".toList),
    (["other".toList, "2020-01-05.jsonl".toList], "e".toList)]

/-- Noon of the first of March, thirty days behind the last day of January. -/
def marchNoon : Instant where
  date := { year := 2024, month := 3, day := 1 }
  time := { Time.midnight with hour := 12 }

theorem isReal_marchNoon : marchNoon.IsReal where
  date := by decide
  time := ⟨by decide, by decide, by decide, by decide⟩

theorem housed_sampleLog : Housed sampleLog := by
  unfold Housed
  decide

/-- The sample log is cleaned up: the file of the old day is gone, and that of the other project
is not. A cleanup that would keep a million days breaks off. -/
theorem cleanup_of_housed_sample :
    (∃ g n, cleanup "/work".toList marchNoon 30 sampleLog = some (g, n) ∧
      ["work".toList, "2020-01-05.jsonl".toList] ∉ g.paths ∧
      g.text? ["other".toList, "2020-01-05.jsonl".toList] = some "e".toList ∧
      cleanup "/work".toList marchNoon 30 g = some (g, 0)) ∧
    cleanup "/work".toList marchNoon 1000000 sampleLog = none := by
  constructor
  · have hcutoff : Instant.IsReal ⟨⟨2024, 1, 31⟩, marchNoon.time⟩ :=
      ⟨by decide, isReal_marchNoon.time⟩
    obtain ⟨g, n, hclean, hcleaned, hagain⟩ := (cleanup_of_housed "/work".toList 30
      housed_sampleLog isReal_marchNoon).1 _ hcutoff (by decide)
    refine ⟨g, n, hclean, fun hmem => ?_, ?_, hagain⟩
    · refine ((hcleaned.mem_paths_iff _).mp hmem).2 ⟨"2020-01-05".toList, ⟨2020, 1, 5⟩, ?_, ?_, ?_⟩
      · decide
      · exact dateOf?_eq_some_iff.mp (by decide +kernel)
      · decide
    · rw [hcleaned.text]
      · decide
      · rintro ⟨stem, d, hpath, -⟩
        have hhead : some "other".toList = some "work".toList := congrArg List.head? hpath
        exact absurd hhead (by decide)
  · refine ((cleanup_of_housed "/work".toList 1000000 housed_sampleLog isReal_marchNoon).2 ?_).1
    rintro ⟨cutoff, hreal, hcount⟩
    -- the cutoff would lie before the beginning of the calendar
    have hfirst := Calendar.ordinal_pos hreal.date
    have hday := Calendar.midnight_le_count cutoff
    have hnow : marchNoon.count - 1000000 * dayLength < 0 := by decide
    unfold Date.midnight dayLength at hday
    omega

/-- **A name with a blank** does not look like a date, and is removed. -/
theorem exists_removed_not_in_digits :
    ¬ ∀ (directory : List Char) (f g : Files) (now : Instant) (days : Int) (n : Nat), Housed f →
      now.IsReal → cleanup directory now days f = some (g, n) →
      ∀ path ∈ f.paths, path ∉ g.paths →
        ∃ stem, path = folderOf directory ++ [stem ++ ending] ∧ InDigits stem := by
  intro h
  obtain ⟨g, hclean, hpath⟩ : ∃ g, cleanup "/work".toList marchNoon 30 sampleLog = some (g, 2) ∧
      ["work".toList, "2020-01- 5.jsonl".toList] ∉ g.paths := ⟨_, rfl, by decide +kernel⟩
  obtain ⟨stem, hstem, hdigits⟩ := h _ _ _ _ _ _ housed_sampleLog isReal_marchNoon hclean
    ["work".toList, "2020-01- 5.jsonl".toList] (by decide) hpath
  have hname : "2020-01- 5".toList ++ ending = stem ++ ending :=
    (List.cons.inj (List.cons.inj hstem).2).1
  obtain rfl := List.append_cancel_right hname
  exact absurd (hdigits.isDecimal_of_mem (c := ' ') (by decide)) (by decide +kernel)

end StatementShape.Log
