import StatementShape.Proofs.CommandLine.Classify
import StatementShape.Proofs.Result

/-!
# What a run leaves at home

A run reads, checks and converts all it is given before it writes anything. Two kinds of runs write:
one that saves a setting replaces the configuration, and one that classifies and is logged changes
the log. Every run that ends before that, and every run that only shows something, leaves all files
and folders as they are; so does a run that classifies without being logged, which cleans nothing up
either.

## Main definitions

* `Saved`, `Logged`: the runs that write
* `Idle`: the runs that do not
* `Ends`: the ways in which runs end, each with the files it leaves

## Main results

* `ends_run`: every run ends in one of the ways
* `home_of_run`: idle runs leave the home as it is, and all others write to one part of it
-/

namespace StatementShape.CommandLine

open Config (Failure Fault Setting Settings)
open Report (Format)

/-! ### Kinds of runs -/

/-- Runs that save a setting: its name and its text make one, and the file there is can be
read. -/
structure Saved (args : List (List Char)) (h : Home) (key value file : List Char) : Prop where
  args_eq : Reading.ofArguments args = .request (.set key value)
  save_eq : (Setting.parse key value).mapError Failure.fault >>= Config.save h.config = .ok file

/-- Runs that are logged: the settings can be loaded and do not turn the log off, and neither
does the command line; a text is given as the one source, its dialect is known, and it has a
report. -/
structure Logged (s : Surroundings) (args : List (List Char)) (h : Home)
    (word : Option (List Char)) (fromInput : Bool) (asked : Option (List Char))
    (format : Option Format) (settings : Settings) (report : Report) : Prop where
  args_eq : Reading.ofArguments args = .request (.classify word fromInput asked format false)
  load_eq : Config.load h.config = .ok settings
  log_eq : settings.log = true
  examined : ∃ sql reader, GivenAs s sql word fromInput ∧
    s.language (String.ofList ((chosenDialect asked settings).getD [])) = .ok reader ∧
    Classify.examine reader sql = .ok report

/-- Idle runs: they show the settings, help or the version; they end in a usage error, which
has the exit code two, or because the configuration cannot be used; they ask for an unknown dialect,
or for a setting with a name or a text that is rejected; or they classify without being logged,
because the command line or the settings say so. -/
inductive Idle (s : Surroundings) (args : List (List Char)) (h : Home) : Prop
  | shows (hargs : Reading.ofArguments args = .request .show_)
  | help (c : Command) (hargs : Reading.ofArguments args = .help c)
  | version (hargs : Reading.ofArguments args = .version)
  | usageError (hcode : (run s args h).2.exitCode = 2)
  | badConfig (e : Failure) (hout : (run s args h).2 = .ofFailure s.configPath e)
  | unknownDialect {word asked : Option (List Char)} {fromInput noLog : Bool}
      {format : Option Format} {settings : Settings} {message : String}
      (hargs : Reading.ofArguments args = .request (.classify word fromInput asked format noLog))
      (hload : Config.load h.config = .ok settings)
      (hdialect : s.language (String.ofList ((chosenDialect asked settings).getD [])) =
        .error message)
  | rejected {key value : List Char} {fault : Fault}
      (hargs : Reading.ofArguments args = .request (.set key value))
      (hparse : Setting.parse key value = .error fault)
  | noLog {word asked : Option (List Char)} {fromInput : Bool} {format : Option Format}
      (hargs : Reading.ofArguments args = .request (.classify word fromInput asked format true))
  | logOff {word asked : Option (List Char)} {fromInput noLog : Bool} {format : Option Format}
      {settings : Settings}
      (hargs : Reading.ofArguments args = .request (.classify word fromInput asked format noLog))
      (hload : Config.load h.config = .ok settings) (hlog : settings.log = false)

/-- The output of a run that shows a report. -/
def outputOf (format : Option Format) (settings : Settings) (report : Report) : String :=
  Report.render (format.getD settings.format) report ++ "\n"

/-- The ways in which runs end, each with the files it leaves and what it says: the run is idle,
a setting is saved, or a report is logged. -/
inductive Ends (s : Surroundings) (args : List (List Char)) (h : Home) : Home × Outcome → Prop
  | idle (run : Idle s args h) (outcome : Outcome) : Ends s args h (h, outcome)
  | saved {key value file : List Char} (run : Saved args h key value file) (output : String) :
      Ends s args h ({ h with config := some file }, { output })
  | logged {word asked : Option (List Char)} {fromInput : Bool} {format : Option Format}
      {settings : Settings} {report : Report}
      (run : Logged s args h word fromInput asked format settings report) {outcome : Outcome}
      (output : outcome.output = outputOf format settings report) (code : outcome.exitCode ≤ 1) :
      Ends s args h
        ({ h with
            logs := (logReport s settings (chosenDialect asked settings) report h.logs).1 }, outcome)

section Runs

variable {s : Surroundings} {args : List (List Char)} {h left : Home}
  {word asked : Option (List Char)} {fromInput noLog : Bool} {format : Option Format}
  {settings : Settings} {report : Report} {outcome : Outcome} {key value file sql : List Char}

/-! ### The ways in which runs end -/

theorem ends_of_usageError (heq : run s args h = (h, outcome)) (hcode : outcome.exitCode = 2) :
    Ends s args h (run s args h) := by
  have hidle : Idle s args h := .usageError (by rw [heq]; exact hcode)
  rw [heq]
  exact .idle hidle outcome

theorem ends_of_badConfig {e : Failure} (heq : run s args h = (h, .ofFailure s.configPath e)) :
    Ends s args h (run s args h) := by
  have hidle : Idle s args h := .badConfig e (by rw [heq])
  rw [heq]
  exact .idle hidle _

/-- A run that is asked to save a setting saves it, or is idle. -/
theorem ends_of_set (hargs : Reading.ofArguments args = .request (.set key value)) :
    Ends s args h (run s args h) := by
  have hrun : run s args h = saveSetting s key value h := by simp only [run, hargs, perform]
  unfold saveSetting at hrun
  cases hsave : (Setting.parse key value).mapError Failure.fault >>= Config.save h.config with
  | ok file =>
    rw [hsave] at hrun
    rw [hrun]
    exact .saved ⟨hargs, hsave⟩ _
  | error e =>
    rw [hsave] at hrun
    cases e with
    | fault f => exact ends_of_usageError hrun rfl
    | notPairs => exact ends_of_badConfig hrun
    | wrongLength => exact ends_of_badConfig hrun

/-- A run that is logged, carried out in any format: the home has its log changed, and the report
is shown, also by a run that breaks off behind the log. -/
theorem perform_of_logged (hrun : Logged s args h word fromInput asked format settings report)
    (format' : Option Format) :
    ∃ outcome, perform s (.classify word fromInput asked format' false) h =
        ({ h with
            logs := (logReport s settings (chosenDialect asked settings) report h.logs).1 },
          outcome) ∧
      outcome.output = outputOf format' settings report ∧ outcome.exitCode ≤ 1 := by
  obtain ⟨sql, reader, hsource, hdialect, hreport⟩ := hrun.examined
  simp only [perform, hrun.load_eq, source_eq_ok.mpr hsource, classifyText, hdialect, hreport,
    hrun.log_eq, Bool.not_false, Bool.and_true, if_true]
  generalize logReport s settings (chosenDialect asked settings) report h.logs = result
  obtain ⟨logs, b⟩ := result
  cases b with
  | some b => exact ⟨_, rfl, rfl, Nat.le_refl 1⟩
  | none =>
    refine ⟨_, rfl, rfl, ?_⟩
    dsimp only
    split <;> decide

/-- A run that classifies a text with settings that can be loaded is logged, or is idle. -/
theorem ends_of_source
    (hargs : Reading.ofArguments args = .request (.classify word fromInput asked format noLog))
    (hload : Config.load h.config = .ok settings) (hsource : GivenAs s sql word fromInput) :
    Ends s args h (run s args h) := by
  have hperform : run s args h = perform s (.classify word fromInput asked format noLog) h := by
    simp only [run, hargs]
  have hclassify : run s args h =
      classifyText s settings sql (chosenDialect asked settings) format noLog h := by
    simp only [hperform, perform, hload, source_eq_ok.mpr hsource]
  cases hdialect : s.language (String.ofList ((chosenDialect asked settings).getD [])) with
  | error message =>
    simp only [hclassify, classifyText, hdialect]
    exact .idle (.unknownDialect hargs hload hdialect) _
  | ok reader =>
    obtain ⟨report, hreport, -⟩ := Classify.exists_examined reader sql
    cases noLog with
    | true =>
      simp only [hclassify, classifyText, hdialect, hreport, Bool.not_true, Bool.and_false,
        Bool.false_eq_true, if_false]
      exact .idle (.noLog hargs) _
    | false =>
      cases hlog : settings.log with
      | false =>
        simp only [hclassify, classifyText, hdialect, hreport, hlog, Bool.false_and,
          Bool.false_eq_true, if_false]
        exact .idle (.logOff hargs hload hlog) _
      | true =>
        have hlogged : Logged s args h word fromInput asked format settings report :=
          ⟨hargs, hload, hlog, sql, reader, hsource, hdialect, hreport⟩
        obtain ⟨outcome, hend, hout, hcode⟩ := perform_of_logged hlogged format
        rw [hperform, hend]
        exact .logged hlogged hout hcode

/-- **Every run ends** in one of the ways. -/
theorem ends_run (s : Surroundings) (args : List (List Char)) (h : Home) :
    Ends s args h (run s args h) := by
  cases hargs : Reading.ofArguments args with
  | help c =>
    simp only [run, hargs]
    exact .idle (.help c hargs) _
  | version =>
    simp only [run, hargs]
    exact .idle (.version hargs) _
  | nothing c =>
    have hrun : run s args h = (h, { errors := c.help, exitCode := 2 }) := by
      simp only [run, hargs]
    exact ends_of_usageError hrun rfl
  | refused c e =>
    have hrun : run s args h = (h, .refused c e) := by simp only [run, hargs]
    exact ends_of_usageError hrun rfl
  | request r =>
    cases r with
    | set key value => exact ends_of_set hargs
    | show_ =>
      simp only [run, hargs, perform]
      split <;> exact .idle (.shows hargs) _
    | classify word fromInput asked format noLog =>
      cases hload : Config.load h.config with
      | error e =>
        have hrun : run s args h = (h, .ofFailure s.configPath e) := by
          simp only [run, hargs, perform, hload]
        exact ends_of_badConfig hrun
      | ok settings =>
        cases hsource : source s word fromInput with
        | error e =>
          have hrun : run s args h = (h, .refused .classify e) := by
            simp only [run, hargs, perform, hload, hsource]
          exact ends_of_usageError hrun rfl
        | ok sql => exact ends_of_source hargs hload (source_eq_ok.mp hsource)

/-! ### Runs that write are not idle -/

theorem exitCode_ofFailure (path : String) (e : Failure) :
    (Outcome.ofFailure path e).exitCode = 1 := by
  cases e <;> rfl

/-- A configuration that cannot be used is told without any output. -/
theorem output_ofFailure (path : String) (e : Failure) : (Outcome.ofFailure path e).output = "" := by
  cases e <;> rfl

theorem outputOf_ne_empty : outputOf format settings report ≠ "" := by
  intro h
  have hlength := congrArg String.length h
  simp [outputOf] at hlength

theorem not_idle_of_saved (hrun : Saved args h key value file) {output : String}
    (heq : run s args h = (left, { output })) : ¬ Idle s args h := by
  have hargs := hrun.args_eq
  intro hidle
  cases hidle with
  | usageError hcode =>
    rw [heq] at hcode
    cases hcode
  | badConfig e hout =>
    rw [heq] at hout
    have hcode := exitCode_ofFailure s.configPath e
    rw [← hout] at hcode
    cases hcode
  | rejected hargs' hparse =>
    cases hargs.symm.trans hargs'
    obtain ⟨setting, hsetting, -⟩ := bind_eq_ok.mp hrun.save_eq
    rw [hparse] at hsetting
    cases hsetting
  | shows hargs' | help _ hargs' | version hargs' | unknownDialect hargs' | noLog hargs'
  | logOff hargs' => cases hargs.symm.trans hargs'

theorem not_idle_of_logged (hrun : Logged s args h word fromInput asked format settings report)
    (heq : run s args h = (left, outcome))
    (hout : outcome.output = outputOf format settings report) (hcode : outcome.exitCode ≤ 1) :
    ¬ Idle s args h := by
  have hargs := hrun.args_eq
  intro hidle
  cases hidle with
  | usageError hcode' =>
    rw [heq] at hcode'
    exact absurd hcode (by rw [hcode']; decide)
  | badConfig e hout' =>
    rw [heq] at hout'
    obtain rfl : outcome = _ := hout'
    exact outputOf_ne_empty (hout.symm.trans (output_ofFailure _ e))
  | unknownDialect hargs' hload hdialect =>
    cases hargs.symm.trans hargs'
    cases hrun.load_eq.symm.trans hload
    obtain ⟨sql, reader, -, hknown, -⟩ := hrun.examined
    cases hknown.symm.trans hdialect
  | logOff hargs' hload hlog =>
    cases hrun.load_eq.symm.trans hload
    cases hrun.log_eq.symm.trans hlog
  | shows hargs' | help _ hargs' | version hargs' | rejected hargs' | noLog hargs' =>
    cases hargs.symm.trans hargs'

/-- **Idle runs leave the home as it is**: every file and folder has the path and the content it
had. Any other run has saved a setting, and has changed nothing but the configuration, or is logged,
and has changed nothing but the log. -/
theorem home_of_run (s : Surroundings) (args : List (List Char)) (h : Home) :
    (Idle s args h → (run s args h).1 = h) ∧
    (¬ Idle s args h →
      (∃ key value file, Saved args h key value file ∧
        (run s args h).1 = { h with config := some file }) ∨
      ∃ word fromInput asked format settings report,
        Logged s args h word fromInput asked format settings report ∧
        (run s args h).1 = { h with
          logs := (logReport s settings (chosenDialect asked settings) report h.logs).1 }) := by
  have hends := ends_run s args h
  generalize heq : run s args h = result at hends
  cases hends with
  | idle hidle outcome => exact ⟨fun _ => rfl, fun hbusy => absurd hidle hbusy⟩
  | saved hrun output =>
    refine ⟨fun hidle => absurd hidle (not_idle_of_saved hrun heq), fun _ => ?_⟩
    exact .inl ⟨_, _, _, hrun, rfl⟩
  | logged hrun output code =>
    refine ⟨fun hidle => absurd hidle (not_idle_of_logged hrun heq output code), fun _ => ?_⟩
    exact .inr ⟨_, _, _, _, _, _, hrun, rfl⟩

end Runs

/-- A home with a log from long ago. -/
def sampleHome : Home where
  config := some "[defaults]\nlog = false\n".toList
  logs :=
    { folders := [[], ["work".toList]]
      files := [(["work".toList, "2020-01-01.jsonl".toList], "\n".toList)] }

theorem load_sampleHome : Config.load sampleHome.config = .ok { log := false } := by
  have hwritten : sampleHome.config = some (Config.fileText [(Setting.log false).entry]) := by
    decide
  rw [hwritten]
  exact Config.load_fileText_entry ⟨trivial, rfl, nofun⟩

/-- A format that there is not cannot be set, and with the log turned off nothing is logged or
cleaned up. -/
theorem home_of_run_unwritten :
    (run sampleSurroundings ["config".toList, "set".toList, "format".toList, "yaml".toList]
        sampleHome).1 = sampleHome ∧
      (run sampleSurroundings ["classify".toList, "--no-log".toList, sampleText] {}).1 = {} ∧
      (run sampleSurroundings sampleArguments sampleHome).1 = sampleHome := by
  have hset : Reading.ofArguments
      ["config".toList, "set".toList, "format".toList, "yaml".toList] =
        .request (.set "format".toList "yaml".toList) := by
    decide
  have hnoLog : Reading.ofArguments ["classify".toList, "--no-log".toList, sampleText] =
      .request (.classify (some sampleText) false none none true) := by
    decide
  have hyaml : Setting.parse "format".toList "yaml".toList = .error .unknownFormat := rfl
  refine ⟨(home_of_run _ _ _).1 (.rejected hset hyaml), (home_of_run _ _ _).1 (.noLog hnoLog), ?_⟩
  exact (home_of_run _ _ _).1 (.logOff ofArguments_sampleArguments load_sampleHome rfl)

end StatementShape.CommandLine
