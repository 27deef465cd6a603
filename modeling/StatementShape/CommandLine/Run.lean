import StatementShape.Classify.Examine
import StatementShape.CommandLine.Request
import StatementShape.Config.File
import StatementShape.Log.Daily

/-!
# Running a command line

A run starts from the files at home, and ends with those files, two texts and an exit code. Runs
that classify are logged, and the log is cleaned up, unless that is turned off.

## Main definitions

* `Home`: the files at home
* `Surroundings`: where and when the program runs, and what it can read
* `Outcome`: what a run says, and how it ends
* `run`: a command line, carried out
-/

namespace StatementShape.CommandLine

open Calendar (Instant)
open Classify (MissingNode)
open Config (Failure Settings Setting)

/-- The files at home: the configuration, if there is one, and the log. -/
structure Home where
  config : Option (List Char) := none
  logs : Log.Files := Log.Files.empty
  deriving DecidableEq, Repr

/-- The surroundings of a run: the path of the configuration file, the working directory, the time,
the text on standard input, and the languages of statements, which are found by the names of
dialects. Where there is no such language, the answer is a message. -/
structure Surroundings where
  configPath : String
  directory : List Char
  now : Instant
  input : List Char := []
  language : String → Except String Sql.Reader := Sql.readerOf

/-- Causes for which a run breaks off. -/
inductive Break where
  /-- The defaults are no collection of pairs. -/
  | notPairs
  /-- The defaults are a collection, but not of pairs, or a whole number is read or written that has
  more digits than a numeral may have. -/
  | wrongLength
  /-- The calendar does not have the day up to which the log is cleaned. -/
  | cutoffOutOfRange
  /-- A node that a classification speaks of is missing. -/
  | missingNode
  deriving DecidableEq, Repr

/-- Outcomes: the texts on standard output and standard error, the exit code, and the cause if
the run broke off. -/
structure Outcome where
  output : String := ""
  errors : String := ""
  exitCode : Nat := 0
  break_ : Option Break := none
  deriving DecidableEq, Repr

namespace Outcome

/-- A command line that is refused. -/
def refused (c : Command) (e : UsageError) : Outcome := { errors := e.text c, exitCode := 2 }

/-- A run that breaks off, with what it has said. -/
def broken (b : Break) (output : String) : Outcome := { output, exitCode := 1, break_ := some b }

/-- A configuration that cannot be used. -/
def ofFailure (path : String) : Failure → Outcome
  | .fault f => { errors := "Error: " ++ f.message path ++ "\n", exitCode := 1 }
  | .notPairs => broken .notPairs ""
  | .wrongLength => broken .wrongLength ""

end Outcome

/-! ### Classifying -/

/-- The SQL to classify: the word, or else the text on standard input without the blanks around
it. It may not be empty. -/
def source (s : Surroundings) (sql : Option (List Char)) (fromInput : Bool) :
    Except UsageError (List Char) :=
  let word := sql.getD []
  if fromInput then
    if word.isEmpty then
      let text := Text.strip (Toml.plainLines s.input)
      if text.isEmpty then .error .emptyInput else .ok text
    else .error .twoSources
  else if word.isEmpty then .error .noSource else .ok word

/-- The dialect that is asked for, or else the one in the settings. An empty one is none. -/
def chosenDialect (asked : Option (List Char)) (settings : Settings) : Option (List Char) :=
  match asked with
  | some (c :: cs) => some (c :: cs)
  | _ => settings.dialect

/-- The entry for a report. -/
def entryOf (now : Instant) (dialect : Option (List Char)) (r : Report) : Log.Entry where
  at_ := now
  sql := r.sql
  dialect := dialect
  label := r.classification.map (·.label.toList)
  hasResultSet := r.classification.map (·.hasResultSet)
  isSelect := r.classification.map (·.isSelect)
  blocked := r.blocked
  codes := r.codes.map (·.toList)

/-- Logging a report, and cleaning up. -/
def logReport (s : Surroundings) (settings : Settings) (dialect : Option (List Char)) (r : Report)
    (logs : Log.Files) : Log.Files × Option Break :=
  let logs := Log.record s.directory (entryOf s.now dialect r) logs
  match Log.cleanup s.directory s.now settings.retentionDays logs with
  | some (logs, _) => (logs, none)
  | none => (logs, some .cutoffOutOfRange)

/-- Classifying an SQL text with the settings that hold. -/
def classifyText (s : Surroundings) (settings : Settings) (sql : List Char)
    (dialect : Option (List Char)) (format : Option Report.Format) (noLog : Bool) (h : Home) :
    Home × Outcome :=
  match s.language (String.ofList (dialect.getD [])) with
  | .error message => (h, .refused .classify (.badDialect message))
  | .ok reader =>
    match Classify.examine reader sql with
    | .error _ => (h, .broken .missingNode "")
    | .ok report =>
      let output := Report.render (format.getD settings.format) report ++ "\n"
      let exitCode := if report.blocked then 1 else 0
      if settings.log && !noLog then
        match logReport s settings dialect report h.logs with
        | (logs, none) => ({ h with logs }, { output, exitCode })
        | (logs, some b) => ({ h with logs }, .broken b output)
      else (h, { output, exitCode })

/-! ### Requests -/

/-- The settings but for the last, as they are shown, line by line. -/
def settingsLines (s : Settings) : List String :=
  let dialect := match s.dialect with
    | some (c :: cs) => String.ofList (c :: cs)
    | _ => "(sqlglot default)"
  ["dialect = " ++ dialect, "format = " ++ s.format.name, "log = " ++ Report.boolText s.log]

/-- The settings as they are shown. -/
def settingsText (s : Settings) : String :=
  Command.joinLines (settingsLines s ++ ["retention_days = " ++ toString s.retentionDays])

/-- Showing the settings, line by line: a number of days without a numeral breaks the run off. -/
def showSettings (s : Settings) : Outcome :=
  if Number.hasNumeral s.retentionDays then { output := settingsText s }
  else .broken .wrongLength (Command.joinLines (settingsLines s))

/-- Saving a setting that is given by its name and a text. -/
def saveSetting (s : Surroundings) (key value : List Char) (h : Home) : Home × Outcome :=
  match (Setting.parse key value).mapError Failure.fault >>= Config.save h.config with
  | .ok file =>
    ({ h with config := some file },
      { output := "Saved " ++ String.ofList key ++ " to " ++ s.configPath ++ "\n" })
  | .error (.fault f) => (h, .refused .configSet (.badSetting (f.message s.configPath)))
  | .error e => (h, .ofFailure s.configPath e)

/-- A request, carried out. -/
def perform (s : Surroundings) (r : Request) (h : Home) : Home × Outcome :=
  match r with
  | .set key value => saveSetting s key value h
  | .show_ =>
    match Config.load h.config with
    | .error e => (h, .ofFailure s.configPath e)
    | .ok settings => (h, showSettings settings)
  | .classify sql fromInput dialect format noLog =>
    match Config.load h.config with
    | .error e => (h, .ofFailure s.configPath e)
    | .ok settings =>
      match source s sql fromInput with
      | .error e => (h, .refused .classify e)
      | .ok sql => classifyText s settings sql (chosenDialect dialect settings) format noLog h

/-- A command line, carried out. -/
def run (s : Surroundings) (args : List (List Char)) (h : Home) : Home × Outcome :=
  match Reading.ofArguments args with
  | .request r => perform s r h
  | .help c => (h, { output := c.help })
  | .version => (h, { output := Command.versionText })
  | .nothing c => (h, { errors := c.help, exitCode := 2 })
  | .refused c e => (h, .refused c e)

end StatementShape.CommandLine
