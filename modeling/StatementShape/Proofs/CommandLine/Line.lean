import StatementShape.Json.Read
import StatementShape.Proofs.CommandLine.Home
import StatementShape.Proofs.Log.History

/-!
# The line that a run logs

A run that is logged writes one line behind those that the file of the day has. The line and the
report that is printed as JSON are written apart from each other, with different members; decoded,
they say the same. The cleanup behind the line removes days that began before a cutoff, which is at
least one day ago, and the day of the run is not one of them; a cleanup whose cutoff the calendar
does not have removes nothing. So the line is the last one when the run has ended, however long the
log is to be kept. That whole lines stand in front of it, is what all runs before have left.

## Main definitions

* `linesText`, `WholeLines`: the text of lines, and texts of whole lines
* `Reached`: homes that runs have left
* `Repeats`: an entry that says what a printed report says

## Main results

* `text?_logReport`: logging a report, told file by file
* `wholeLines_of_reached`: runs leave whole lines
* `repeats_entryOf`: the entry for a report says what the report says
* `line_of_logged`: the line of a run, when the run has ended
-/

namespace StatementShape.CommandLine

open Calendar (Instant Moment count_lt_midnight dayLength isBefore_iff)
open Config (Settings one_le_retentionDays_of_load)
open Json (decode_print get?_record visible_of_mem_line)
open Log (Call Entry Files Path applyCalls folderOf hasFolder_record isOutdated isOutdated_pathOf
  pathOf text?_apply_cleanup text?_record)
open Report (Format)

/-! ### Lines -/

/-- The text of lines, each with its line end. -/
def linesText (lines : List (List Char)) : List Char := lines.flatMap (· ++ ['\n'])

/-- Texts of whole lines: line ends stand at the ends of lines alone, and behind the last. -/
def WholeLines (text : List Char) : Prop :=
  ∃ lines, (∀ line ∈ lines, '\n' ∉ line) ∧ text = linesText lines

theorem linesText_concat (lines : List (List Char)) (line : List Char) :
    linesText (lines ++ [line]) = linesText lines ++ (line ++ ['\n']) := by
  simp [linesText]

theorem linesText_eq_nil {lines : List (List Char)} (h : linesText lines = []) : lines = [] := by
  cases lines with
  | nil => rfl
  | cons line lines =>
    have hlength := congrArg List.length h
    simp [linesText] at hlength

theorem newline_not_mem_line (v : Json) : '\n' ∉ v.line := by
  intro hmem
  exact absurd (visible_of_mem_line '\n' hmem) (by decide)

/-- A file that is extended by an entry has one line more. -/
theorem WholeLines.append {text : List Char} (h : WholeLines text) (e : Entry) :
    WholeLines (text ++ e.line) := by
  obtain ⟨lines, hlines, rfl⟩ := h
  refine ⟨lines ++ [e.json.line], ?_, (linesText_concat lines e.json.line).symm⟩
  exact List.forall_mem_append.mpr ⟨hlines, List.forall_mem_singleton.mpr (newline_not_mem_line _)⟩

/-- Every file of the log has whole lines. -/
def HasWholeLines (logs : Files) : Prop :=
  ∀ path text, logs.text? path = some text → WholeLines text

theorem HasWholeLines.getD {logs : Files} (h : HasWholeLines logs) (path : Path) :
    WholeLines ((logs.text? path).getD []) := by
  cases htext : logs.text? path with
  | none => exact ⟨[], List.forall_mem_nil _, rfl⟩
  | some text => exact h path text htext

/-! ### Logging a report -/

section Reports

variable {s : Surroundings} {settings : Settings} {dialect : Option (List Char)} {report : Report}
  {logs : Files} {path : Path}

/-- The file of the day, in the log of the working directory. -/
def today (s : Surroundings) : Path := pathOf s.directory s.now.date

theorem text?_record_today (s : Surroundings) (dialect : Option (List Char)) (report : Report)
    (logs : Files) :
    (Log.record s.directory (entryOf s.now dialect report) logs).text? (today s) =
      some ((logs.text? (today s)).getD [] ++ (entryOf s.now dialect report).line) :=
  text?_record logs (entryOf s.now dialect report)

/-- Logging a report is two calls. If the second breaks off, the first has been made. -/
theorem logs_logReport (s : Surroundings) (settings : Settings) (dialect : Option (List Char))
    (report : Report) (logs : Files) :
    (logReport s settings dialect report logs).1 =
      applyCalls s.directory logs
        [.record (entryOf s.now dialect report), .cleanup s.now settings.retentionDays] := by
  rw [logReport, applyCalls, List.foldl_cons, List.foldl_cons, List.foldl_nil, Call.apply, Call.apply]
  split
  · next hclean => rw [hclean]; rfl
  · next hclean => rw [hclean]; rfl

/-- **Logging a report, told file by file**: what is removed behind the entry are files of days
before the cutoff. -/
theorem text?_logReport (s : Surroundings) (settings : Settings) (dialect : Option (List Char))
    (report : Report) (logs : Files) (path : Path) :
    (logReport s settings dialect report logs).1.text? path =
      if (s.now.cutoff? settings.retentionDays).any
          (fun m => isOutdated (folderOf s.directory) m path) = true then none
      else (Log.record s.directory (entryOf s.now dialect report) logs).text? path := by
  rw [logs_logReport, applyCalls, List.foldl_cons, List.foldl_cons, List.foldl_nil, Call.apply,
    text?_apply_cleanup]
  simp only [hasFolder_record, true_and]

/-- The day of the run began less than a day ago, and the cutoff is at least one day ago. -/
theorem not_isOutdated_today (hnow : s.now.IsReal) (hdays : 1 ≤ settings.retentionDays) {m : Moment}
    (hm : s.now.cutoff? settings.retentionDays = some m) :
    isOutdated (folderOf s.directory) m (today s) = false := by
  rw [Bool.eq_false_iff, Ne, today, isOutdated_pathOf hnow.date, isBefore_iff hnow hm]
  have hday := count_lt_midnight hnow
  unfold dayLength at hday ⊢
  omega

/-- The entry of a report that is logged stands at the end of the file of the day, and is not
cleaned up. -/
theorem text?_logReport_today (hnow : s.now.IsReal) (hdays : 1 ≤ settings.retentionDays)
    (dialect : Option (List Char)) (report : Report) (logs : Files) :
    (logReport s settings dialect report logs).1.text? (today s) =
      some ((logs.text? (today s)).getD [] ++ (entryOf s.now dialect report).line) := by
  have hkept : ¬ (s.now.cutoff? settings.retentionDays).any
      (fun m => isOutdated (folderOf s.directory) m (today s)) = true := by
    cases hm : s.now.cutoff? settings.retentionDays with
    | none => exact Bool.false_ne_true
    | some m =>
      rw [Option.any_some, not_isOutdated_today hnow hdays hm]
      exact Bool.false_ne_true
  rw [text?_logReport, if_neg hkept, text?_record_today]

/-- Other files keep their texts, or are removed. -/
theorem text?_logReport_of_ne (hne : path ≠ today s) :
    (logReport s settings dialect report logs).1.text? path = none ∨
      (logReport s settings dialect report logs).1.text? path = logs.text? path := by
  rw [text?_logReport]
  split
  · exact .inl rfl
  · exact .inr (Files.text?_write_of_ne hne logs _)

/-- Logging a report leaves whole lines. -/
theorem HasWholeLines.logReport (h : HasWholeLines logs) :
    HasWholeLines (logReport s settings dialect report logs).1 := by
  intro path text htext
  rw [text?_logReport, Option.ite_none_left_eq_some] at htext
  by_cases hpath : path = today s
  · rw [hpath, text?_record_today] at htext
    cases htext.2
    exact (h.getD (today s)).append _
  · exact h path text ((Files.text?_write_of_ne hpath logs _).symm.trans htext.2)

end Reports

/-! ### Homes that runs have left -/

/-- Homes that runs have left: the first one finds no log. The configuration may be edited
between them. -/
inductive Reached : Home → Prop
  | empty : Reached {}
  | edited (config : Option (List Char)) {h : Home} (reached : Reached h) : Reached { h with config }
  | run (s : Surroundings) (args : List (List Char)) {h : Home} (reached : Reached h) :
      Reached (run s args h).1

/-- **Runs leave whole lines.** -/
theorem wholeLines_of_reached {h : Home} (hreached : Reached h) : HasWholeLines h.logs := by
  induction hreached with
  | empty =>
    intro path text htext
    cases htext
  | edited config _ ih => exact ih
  | @run s args h _ ih =>
    have hends := ends_run s args h
    generalize run s args h = result at hends
    cases hends with
    | idle => exact ih
    | saved => exact ih
    | logged => exact ih.logReport

/-! ### What the line says -/

/-- An entry that says what a printed report says: the same text, blocked or not; the same
classification, where nothing that is left out is null; and the codes of the diagnostics, in their
order. -/
structure Repeats (entry printed : Json) : Prop where
  same : ∀ key ∈ ["sql", "blocked"], ∃ v, entry.get? key = some v ∧ printed.get? key = some v
  classification : ∀ key ∈ ["classification", "has_result_set", "is_select"],
    entry.get? key = some ((printed.get? key).getD .null)
  codes : ∃ codes items, entry.get? "diagnostics" = some (.array codes) ∧
    printed.get? "diagnostics" = some (.array items) ∧ items.map (Json.get? "code") = codes.map some

/-- **The entry for a report** says what the report says. -/
theorem repeats_entryOf (now : Instant) (dialect : Option (List Char)) (r : Report) :
    Repeats (entryOf now dialect r).json r.json where
  same := by
    simp only [List.forall_mem_cons]
    refine ⟨⟨.string r.sql, ?_, ?_⟩, ⟨.bool r.blocked, ?_, ?_⟩, List.forall_mem_nil _⟩
    all_goals
      simp only [Entry.json, Report.json, get?_record]
      rfl
  classification := by
    simp only [List.forall_mem_cons, Entry.json, Report.json, get?_record]
    cases hc : r.classification with
    | none =>
      simp only [entryOf, hc]
      exact ⟨rfl, rfl, rfl, List.forall_mem_nil _⟩
    | some c =>
      simp only [entryOf, hc]
      exact ⟨rfl, rfl, rfl, List.forall_mem_nil _⟩
  codes := by
    refine ⟨(r.codes.map (·.toList)).map .string, r.diagnostics.map Report.diagnosticJson, ?_, ?_, ?_⟩
    · simp only [Entry.json, get?_record]
      rfl
    · simp only [Report.json, get?_record]
      rfl
    · simp only [Report.codes, List.map_map]
      refine List.map_congr_left fun d _ => ?_
      simp only [Function.comp_apply, Report.diagnosticJson, get?_record]
      rfl

/-- **The line of a run.** In a home that runs have left, a run reads settings, takes its text from
one source, and is logged. Then one line has been added to the file of the day when the run has
ended, behind all the lines that it had. The line is decoded to an entry that says what the same run
prints where it is asked for JSON. Other files have the texts they had, or have been removed. -/
theorem line_of_logged {s : Surroundings} {args : List (List Char)} {h : Home}
    {word asked : Option (List Char)} {fromInput : Bool} {format : Option Format}
    {settings : Settings} {report : Report} (hreached : Reached h)
    (hrun : Logged s args h word fromInput asked format settings report) (hnow : s.now.IsReal) :
    ∃ before line entry text printed,
      (∀ l ∈ before ++ [line], '\n' ∉ l) ∧
      (h.logs.text? (today s)).getD [] = linesText before ∧
      (run s args h).1.logs.text? (today s) = some (linesText (before ++ [line])) ∧
      Json.decode line = some entry ∧
      (∀ asJson, Reading.ofArguments asJson =
          .request (.classify word fromInput asked (some .json) false) →
        (run s asJson h).2.output = String.ofList text ++ "\n") ∧
      Json.decode text = some printed ∧
      Repeats entry printed ∧
      ∀ path ≠ today s, (run s args h).1.logs.text? path = none ∨
        (run s args h).1.logs.text? path = h.logs.text? path := by
  obtain ⟨before, hbefore, hfile⟩ := (wholeLines_of_reached hreached).getD (today s)
  -- the run as it is, and as it would be if it were asked for JSON
  have hrequest : run s args h = perform s (.classify word fromInput asked format false) h := by
    simp only [run, hrun.args_eq]
  obtain ⟨_, hend, -, -⟩ := perform_of_logged hrun format
  obtain ⟨_, hjson, hprinted, -⟩ := perform_of_logged hrun (some .json)
  have hline := text?_logReport_today hnow (one_le_retentionDays_of_load hrun.load_eq)
    (chosenDialect asked settings) report h.logs
  rw [hfile] at hline
  refine ⟨before, (entryOf s.now (chosenDialect asked settings) report).json.line, _,
    report.json.pretty, _, ?_, hfile, ?_, decode_print .loose _, fun asJson hasJson => ?_,
    decode_print .lines _, repeats_entryOf s.now (chosenDialect asked settings) report,
    fun path hpath => ?_⟩
  · exact List.forall_mem_append.mpr
      ⟨hbefore, List.forall_mem_singleton.mpr (newline_not_mem_line _)⟩
  · rw [hrequest, hend, linesText_concat]
    exact hline
  · have hrequest' : run s asJson h =
        perform s (.classify word fromInput asked (some .json) false) h := by
      simp only [run, hasJson]
    rw [hrequest', hjson]
    exact hprinted
  · rw [hrequest, hend]
    exact text?_logReport_of_ne hpath

/-- The sample command line, asking for JSON. -/
def sampleJsonArguments : List (List Char) :=
  ["classify".toList, "--format".toList, "json".toList, sampleText]

/-- The first run in a home whose log is kept for ever: its cleanup fails. Its line is the only
one of the day, and says what is printed as JSON. -/
theorem line_of_logged_forever :
    ∃ line entry text printed,
      (run sampleSurroundings sampleArguments { config := some foreverFile }).1.logs.text?
        (today sampleSurroundings) = some (linesText [line]) ∧
      Json.decode line = some entry ∧
      (run sampleSurroundings sampleJsonArguments { config := some foreverFile }).2.output =
        String.ofList text ++ "\n" ∧
      Json.decode text = some printed ∧ Repeats entry printed := by
  obtain ⟨report, hreport, -⟩ := Classify.exists_examined Sql.Dialect.standard.reader sampleText
  have hlogged : Logged sampleSurroundings sampleArguments { config := some foreverFile }
      (some sampleText) false none none { retentionDays := 1000000 } report :=
    ⟨ofArguments_sampleArguments, load_foreverFile, rfl, sampleText, Sql.Dialect.standard.reader,
      .word (by decide), language_sampleSurroundings, hreport⟩
  have hreached : Reached { config := some foreverFile } := .edited (some foreverFile) .empty
  have hreal : sampleSurroundings.now.IsReal :=
    ⟨by decide, by decide, by decide, by decide, by decide⟩
  have hasJson : Reading.ofArguments sampleJsonArguments =
      .request (.classify (some sampleText) false none (some .json) false) := by
    decide
  obtain ⟨before, line, entry, text, printed, -, hbefore, hline, hentry, houtput, hprinted,
    hrepeats, -⟩ := line_of_logged hreached hlogged hreal
  -- there was no file, and so there were no lines
  obtain rfl : before = [] := linesText_eq_nil hbefore.symm
  exact ⟨line, entry, text, printed, hline, hentry, houtput _ hasJson, hprinted, hrepeats⟩

end StatementShape.CommandLine
