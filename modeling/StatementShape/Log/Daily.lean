import StatementShape.Log.Entry
import StatementShape.Log.Files
import StatementShape.Text.Digit

/-!
# Daily files of a project

Each project, known by its working directory, has a folder with one file for each day on which
something was logged. Files of days long ago are removed, and the folder with the last of them.

## Main definitions

* `slug`, `folderOf`: the name and the folder of a project
* `fileName`, `dateOfName?`: the name of a day's file, and the day of a file's name
* `record`: logging an entry
* `cleanup`: removing the files of days before a cutoff
-/

namespace StatementShape.Log

open Calendar (Date Instant Moment)
open Text (decimalValue? isDecimal)

/-! ### Projects -/

/-- The name of a project: its working directory with dashes for slashes, without those in
front. -/
def slug (directory : List Char) : List Char :=
  (directory.map fun c => if c = '/' then '-' else c).dropWhile (· = '-')

/-- The folder of a project. A project without a name, or with that of the folder itself, has the
root for its folder. -/
def folderOf (directory : List Char) : Path :=
  let name := slug directory
  if name = [] ∨ name = ['.'] then [] else [name]

/-! ### Days -/

/-- The ending of the names of daily files. -/
def ending : List Char := ".jsonl".toList

/-- The name of a day's file. Its year has no zeros in front. -/
def fileName (d : Date) : List Char :=
  (toString d.year).toList ++ '-' :: (Number.padLeft 2 d.month).toList
    ++ '-' :: (Number.padLeft 2 d.day).toList ++ ending

/-- A year of four decimal digits. -/
def yearOf? (cs : List Char) : Option Nat :=
  if cs.length = 4 ∧ cs.all isDecimal then
    some (cs.foldl (fun n c => 10 * n + (decimalValue? c).getD 0) 0)
  else none

/-- A digit that is not zero. -/
def positiveDigit? (c : Char) : Option Nat :=
  if '1' ≤ c ∧ c ≤ '9' then some (Number.digitValue c) else none

/-- A month of one digit or two. -/
def monthOf? : List Char → Option Nat
  | [c] => positiveDigit? c
  | ['0', c] => positiveDigit? c
  | ['1', c] => if c = '0' ∨ c = '1' ∨ c = '2' then some (10 + Number.digitValue c) else none
  | _ => none

/-- A day of one digit or two. A blank may stand for the first, and the second may be of any
script behind a one or a two. -/
def dayOf? : List Char → Option Nat
  | [c] => positiveDigit? c
  | [' ', c] => positiveDigit? c
  | ['0', c] => positiveDigit? c
  | ['1', c] => (decimalValue? c).map (10 + ·)
  | ['2', c] => (decimalValue? c).map (20 + ·)
  | ['3', c] => if c = '0' ∨ c = '1' then some (30 + Number.digitValue c) else none
  | _ => none

/-- The parts of a text between dashes. -/
def betweenDashes (cs : List Char) : List (List Char) := cs.splitOn '-'

/-- A date that a text spells, if it is a real one. -/
def dateOf? (cs : List Char) : Option Date := do
  match betweenDashes cs with
  | [y, m, d] =>
    let date : Date := { year := ← yearOf? y, month := ← monthOf? m, day := ← dayOf? d }
    if date.isReal then some date else none
  | _ => none

/-- The day of a file's name, if it is one of a daily file. -/
def dateOfName? (name : List Char) : Option Date :=
  if ending.isSuffixOf name then dateOf? (name.take (name.length - ending.length)) else none

/-! ### Logging -/

/-- Logging an entry in the file of its day. -/
def record (directory : List Char) (e : Entry) (f : Files) : Files :=
  f.append (folderOf directory ++ [fileName e.at_.date]) e.line

/-- Whether a file of a project belongs to a day before a moment. -/
def isOutdated (folder : Path) (cutoff : Moment) (path : Path) : Bool :=
  Files.isDirectlyIn folder path
    && ((path.getLast?.bind dateOfName?).any fun d => d.isBefore cutoff)

/-- Removing the files of a project from days before the cutoff, and its folder if nothing is
left in it. The answer is the files, and how many were removed; none if the calendar does not have
the cutoff. -/
def cleanup (directory : List Char) (now : Instant) (days : Int) (f : Files) :
    Option (Files × Nat) :=
  (now.cutoff? days).map fun cutoff =>
    let folder := folderOf directory
    if f.hasFolder folder then
      let gone := isOutdated folder cutoff
      ((f.removeAll gone).removeFolder folder, f.files.countP fun e => gone e.1)
    else (f, 0)

end StatementShape.Log
