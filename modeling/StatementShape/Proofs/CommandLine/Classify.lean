import StatementShape.CommandLine.Run
import StatementShape.Proofs.Calendar.Clock
import StatementShape.Proofs.Classify.Outcome
import StatementShape.Proofs.Config.Loaded

/-!
# How a run that classifies ends

A text that is given in one way, in a dialect that is known, is always examined, and its report is
printed. If the run is not logged, or the log is to be kept for fewer days than the calendar has
had, then the run comes to its end, and its exit code tells whether the text is blocked. Otherwise
the cleanup of the log has no cutoff, and the run breaks off behind its output.

## Main definitions

* `GivenAs`: texts that are given as the one source
* `Uncleanable`: runs whose log cannot be cleaned up

## Main results

* `source_eq_ok`: exactly such a text is classified
* `run_classify`: how a run ends
* `exists_run_breaks_off`: a run that breaks off
-/

namespace StatementShape.CommandLine

open Calendar (cutoff?_eq_none_iff)
open Config (Settings one_le_retentionDays_of_load)
open Sql (Dialect)

/-- Texts that are given as the one source: as a word that is not empty, or on standard input
without such a word; there, the blanks around it do not count. -/
inductive GivenAs (s : Surroundings) (sql : List Char) : Option (List Char) → Bool → Prop
  | word (nonempty : sql ≠ []) : GivenAs s sql (some sql) false
  | input {word : Option (List Char)} (noWord : word.getD [] = [])
      (text : Text.strip (Toml.plainLines s.input) = sql) (nonempty : sql ≠ []) :
      GivenAs s sql word true

/-- Runs whose log cannot be cleaned up: they are logged, and the log is to be kept for as many
days as the calendar has had, or more. -/
def Uncleanable (s : Surroundings) (settings : Settings) (noLog : Bool) : Prop :=
  settings.log = true ∧ noLog = false ∧ (s.now.date.ordinal : Int) ≤ settings.retentionDays

instance (s : Surroundings) (settings : Settings) (noLog : Bool) :
    Decidable (Uncleanable s settings noLog) :=
  inferInstanceAs (Decidable (_ ∧ _ ∧ _))

section Runs

variable {s : Surroundings} {sql : List Char} {word dialect : Option (List Char)}
  {fromInput noLog : Bool} {format : Option Report.Format} {settings : Settings} {report : Report}
  {args : List (List Char)} {reader : Sql.Reader} {h : Home}

/-- **Exactly a text that is given as the one source** is classified. -/
theorem source_eq_ok : source s word fromInput = .ok sql ↔ GivenAs s sql word fromInput := by
  constructor
  · intro h
    unfold source at h
    dsimp only at h
    split at h
    · next hinput =>
      -- standard input is read, and there must be no word beside it
      subst hinput
      split at h
      · next hword =>
        split at h
        · cases h
        · next htext =>
          cases h
          exact .input (List.isEmpty_iff.mp hword) rfl fun hnil => htext (by simp [hnil])
      · cases h
    · next hinput =>
      obtain rfl : fromInput = false := Bool.eq_false_iff.mpr hinput
      split at h
      · cases h
      · next hword =>
        cases word with
        | none => exact absurd rfl hword
        | some w =>
          cases h
          exact .word fun hnil => hword (by simpa using hnil)
  · rintro (hsome | ⟨hnone, htext, hsome⟩)
    · simp [source, hsome]
    · simp [source, hnone, htext, hsome]

/-- A report that is logged breaks the run off exactly if the calendar does not have the
cutoff. -/
theorem break_logReport (hnow : s.now.date.isReal = true) (hdays : 1 ≤ settings.retentionDays)
    (dialect : Option (List Char)) (report : Report) (logs : Log.Files) :
    (logReport s settings dialect report logs).2 =
      if (s.now.date.ordinal : Int) ≤ settings.retentionDays then some .cutoffOutOfRange
      else none := by
  have hcutoff := cutoff?_eq_none_iff hnow hdays
  cases hm : s.now.cutoff? settings.retentionDays with
  | none =>
    rw [if_pos (hcutoff.mp hm)]
    simp [logReport, Log.cleanup, hm]
  | some m =>
    have hlt : ¬ (s.now.date.ordinal : Int) ≤ settings.retentionDays := by
      rw [← hcutoff, hm]
      exact Option.some_ne_none m
    rw [if_neg hlt]
    simp [logReport, Log.cleanup, hm]

/-- Classifying a text that has a report, in a dialect that is known. -/
theorem classifyText_eq (hnow : s.now.date.isReal = true) (hdays : 1 ≤ settings.retentionDays)
    (hlanguage : s.language (String.ofList (dialect.getD [])) = .ok reader)
    (hreport : Classify.examine reader sql = .ok report) :
    (classifyText s settings sql dialect format noLog h).2 =
      if Uncleanable s settings noLog then
        .broken .cutoffOutOfRange (Report.render (format.getD settings.format) report ++ "\n")
      else { output := Report.render (format.getD settings.format) report ++ "\n",
             exitCode := if report.blocked then 1 else 0 } := by
  have hbreak := break_logReport hnow hdays dialect report h.logs
  simp only [classifyText, hlanguage, hreport]
  -- only a run that is logged cleans the log up
  by_cases hlogged : (settings.log && !noLog) = true
  · rw [if_pos hlogged]
    rw [Bool.and_eq_true, Bool.not_eq_true'] at hlogged
    generalize logReport s settings dialect report h.logs = result at hbreak
    obtain ⟨logs, b⟩ := result
    dsimp only at hbreak
    by_cases hkept : (s.now.date.ordinal : Int) ≤ settings.retentionDays
    · rw [if_pos (show Uncleanable s settings noLog from ⟨hlogged.1, hlogged.2, hkept⟩)]
      rw [hbreak, if_pos hkept]
    · rw [if_neg (show ¬ Uncleanable s settings noLog from fun h => hkept h.2.2)]
      rw [hbreak, if_neg hkept]
  · have hclean : ¬ Uncleanable s settings noLog := fun h => hlogged (by simp [h.1, h.2.1])
    rw [if_neg hlogged, if_neg hclean]

/-- **How a run that classifies ends.** The file of settings is loaded, a text is given as the one
source, and the dialect is known. Then the text has a report, which is printed. A run whose log can
be cleaned up, or that is not logged, comes to its end, and its exit code is one exactly if the text
is blocked. Any other breaks off behind the output, with the same code as if it were. -/
theorem run_classify (hargs : Reading.ofArguments args =
      .request (.classify word fromInput dialect format noLog))
    (hload : Config.load h.config = .ok settings) (hsource : GivenAs s sql word fromInput)
    (hlanguage :
      s.language (String.ofList ((chosenDialect dialect settings).getD [])) = .ok reader)
    (hnow : s.now.date.isReal = true) :
    ∃ report, Classify.examine reader sql = .ok report ∧
      (run s args h).2 =
        if Uncleanable s settings noLog then
          { output := Report.render (format.getD settings.format) report ++ "\n", exitCode := 1,
            break_ := some .cutoffOutOfRange }
        else { output := Report.render (format.getD settings.format) report ++ "\n",
               exitCode := if report.blocked then 1 else 0 } := by
  obtain ⟨report, hreport, -⟩ := Classify.exists_examined reader sql
  refine ⟨report, hreport, ?_⟩
  have hsource := source_eq_ok.mpr hsource
  simp only [run, hargs, perform, hload, hsource]
  exact classifyText_eq hnow (one_le_retentionDays_of_load hload) hlanguage hreport

end Runs

/-- A sample run, at noon of a day in March. -/
def sampleSurroundings : Surroundings where
  configPath := "/home/.sqlshape/config.toml"
  directory := "/work".toList
  now := { date := { year := 2024, month := 3, day := 1 },
           time := { Calendar.Time.midnight with hour := 12 } }

/-- The sample text. -/
def sampleText : List Char := "SELECT 1".toList

/-- The sample command line. -/
def sampleArguments : List (List Char) := ["classify".toList, sampleText]

theorem ofArguments_sampleArguments : Reading.ofArguments sampleArguments =
    .request (.classify (some sampleText) false none none false) := by
  decide

theorem language_sampleSurroundings :
    sampleSurroundings.language (String.ofList ((none : Option (List Char)).getD [])) =
      .ok Dialect.standard.reader := rfl

/-- The sample run comes to its end: the log is kept for thirty days. -/
theorem run_classify_sample :
    ∃ report, Classify.examine Dialect.standard.reader sampleText = .ok report ∧
      (run sampleSurroundings sampleArguments {}).2.break_ = none ∧
      (run sampleSurroundings sampleArguments {}).2.exitCode = if report.blocked then 1 else 0 := by
  obtain ⟨report, hreport, hrun⟩ := run_classify (s := sampleSurroundings) (h := {})
    ofArguments_sampleArguments (show Config.load none = .ok {} from rfl) (.word (by decide))
    language_sampleSurroundings (by decide)
  refine ⟨report, hreport, ?_⟩
  rw [hrun, if_neg (by decide)]
  exact ⟨rfl, rfl⟩

/-- A file that keeps the log for more days than the calendar has. -/
def foreverFile : List Char := "[defaults]\nretention_days = 1000000\n".toList

theorem load_foreverFile : Config.load (some foreverFile) = .ok { retentionDays := 1000000 } := by
  have hwritten : foreverFile = Config.fileText [(Config.Setting.retentionDays 1000000).entry] := by
    decide
  rw [hwritten]
  exact Config.load_fileText_entry ⟨show (1 : Int) ≤ 1000000 by decide, by decide, nofun⟩

/-- **A run that breaks off**, with a file that is loaded and a text that is given as the one
source. -/
theorem exists_run_breaks_off :
    Config.load (some foreverFile) = .ok { retentionDays := 1000000 } ∧
      GivenAs sampleSurroundings sampleText (some sampleText) false ∧
      (run sampleSurroundings sampleArguments { config := some foreverFile }).2.break_ =
        some .cutoffOutOfRange := by
  have hgiven : GivenAs sampleSurroundings sampleText (some sampleText) false := .word (by decide)
  refine ⟨load_foreverFile, hgiven, ?_⟩
  obtain ⟨report, hreport, -⟩ := Classify.exists_examined Dialect.standard.reader sampleText
  have hsource := source_eq_ok.mpr hgiven
  simp only [run, ofArguments_sampleArguments, perform, load_foreverFile, hsource, chosenDialect]
  rw [classifyText_eq (by decide) (by decide) language_sampleSurroundings hreport,
    if_pos (by decide)]
  rfl

end StatementShape.CommandLine
