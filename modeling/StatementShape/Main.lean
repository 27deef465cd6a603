import StatementShape.CommandLine.Run
import Std.Time.DateTime.Timestamp

/-!
# The program

Reads the files at home and the clock, carries out the command line, and writes back what it
changed.

## Main definitions

* `Program.load`, `Program.store`: the files at home, read and written back
* `main`: the program
-/

namespace StatementShape.Program

open CommandLine (Home Outcome Reading Request Surroundings)
open Log (Files Path)

/-- The text of a file, if there is one. -/
def textOf? (path : String) : IO (Option String) := do
  try return some (← IO.FS.readFile path) catch _ => return none

/-- The folder of the program's files, below the home directory. -/
def folder : IO String := return ((← IO.getEnv "HOME").getD "") ++ "/.sqlshape"

/-- The path of the configuration file, in that folder. -/
def configPath (folder : String) : String := folder ++ "/config.toml"

/-- The place of a path of the log. -/
def placeOf (folder : String) (path : Path) : String :=
  String.intercalate "/" ((folder ++ "/logs") :: path.map String.ofList)

/-- The files of a project's log. Files of other kinds count as empty. -/
def loadLogs (folder : String) (path : Path) : IO Files := do
  let place := (← IO.currentDir) / placeOf folder path
  if !(← place.isDir) then return Files.empty
  let mut logs := Files.empty.makeFolders (Files.above path ++ [path])
  for e in ← place.readDir do
    let inside := path ++ [e.fileName.toList]
    if ← e.path.isDir then logs := logs.makeFolders [inside]
    else logs := logs.write inside ((← textOf? e.path.toString).getD "").toList
  return logs

/-- The files at home. -/
def load (folder : String) (directory : List Char) : IO Home := do
  let config ← textOf? (configPath folder)
  return { config := config.map String.toList, logs := ← loadLogs folder (Log.folderOf directory) }

/-- Writing the configuration, which nobody else may read. -/
def storeConfig (folder : String) (text : List Char) : IO Unit := do
  IO.FS.createDirAll folder
  IO.FS.writeFile (configPath folder) (String.ofList text)
  IO.setAccessRights (configPath folder) { user := { read := true, write := true } }

/-- Writing a file of the log: what stands behind its text is appended. -/
def storeText (folder : String) (before : Files) (path : Path) (text : List Char) : IO Unit := do
  let old := (before.text? path).getD []
  if old ≠ text then
    IO.FS.createDirAll (placeOf folder path.dropLast)
    IO.FS.withFile (placeOf folder path) .append fun h =>
      h.putStr (String.ofList (text.drop old.length))

/-- Writing the log back: files that are new or longer, and those that are gone. -/
def storeLogs (folder : String) (before after : Files) : IO Unit := do
  for (path, text) in after.files do storeText folder before path text
  for (path, _) in before.files do
    if (after.text? path).isNone then IO.FS.removeFile (placeOf folder path)
  for path in before.folders do
    if !after.hasFolder path then IO.FS.removeDir (placeOf folder path)

/-- Writing the files at home back. -/
def store (folder : String) (before after : Home) : IO Unit := do
  match after.config with
  | some text => if before.config ≠ some text then storeConfig folder text
  | none => pure ()
  storeLogs folder before.logs after.logs

/-- The text on standard input, where the command line asks for it. -/
def inputFor (args : List (List Char)) : IO (List Char) := do
  match Reading.ofArguments args with
  | .request (.classify _ true _ _ _) => return (← (← IO.getStdin).readToEnd).toList
  | _ => return []

/-- The time. -/
def now : IO Calendar.Instant := do
  let count := (← Std.Time.Timestamp.now).toNanosecondsSinceUnixEpoch.val
  return Calendar.Instant.ofClock (count.toNat / 1000)

/-- A command line, carried out; the answer is the exit code. -/
def perform (arguments : List String) : IO UInt32 := do
  let args := arguments.map String.toList
  let folder ← folder
  let directory := (← IO.currentDir).toString.toList
  let before ← load folder directory
  let s : Surroundings :=
    { configPath := configPath folder, directory, now := ← now, input := ← inputFor args }
  let (after, outcome) := CommandLine.run s args before
  store folder before after
  IO.print outcome.output
  IO.eprint outcome.errors
  return outcome.exitCode.toUInt32

end StatementShape.Program

/-- The program. -/
def main (arguments : List String) : IO UInt32 := StatementShape.Program.perform arguments
