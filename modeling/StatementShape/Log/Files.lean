/-!
# Files of the log

The files below the root of the log: folders, and files with their texts. A path is a list of names,
from the root down; the root itself is the empty path. What a file system refuses is not refused
here: writing does not fail where a file stands in the place of a folder, or a folder in its own.

## Main definitions

* `Files`: the folders and files
* `Files.text?`: the text of a file
* `Files.write`, `Files.append`: writing a file, with the folders it lies in
* `Files.removeAll`, `Files.removeFolder`: removing files, and a folder that is empty

## Main results

* `text?_write_self`, `text?_write_of_ne`: a file that is written has its new text, and no other
  changes
* `text?_removeAll`: files that are not removed keep their text
-/

namespace StatementShape.Log

/-- Paths below the root. -/
abbrev Path := List (List Char)

/-- Folders and files. -/
structure Files where
  folders : List Path := []
  files : List (Path × List Char) := []
  deriving DecidableEq, Repr

namespace Files

/-- No folders and no files, not even the root. -/
def empty : Files := {}

/-- The text of a file, if there is one. -/
def text? (f : Files) (path : Path) : Option (List Char) := f.files.lookup path

/-- Whether there is a folder. -/
def hasFolder (f : Files) (path : Path) : Bool := f.folders.contains path

/-- The folders above a path, the root first. -/
def above (path : Path) : List Path := (List.range path.length).map path.take

/-- Making folders that are missing. -/
def makeFolders (paths : List Path) (f : Files) : Files :=
  { f with folders := f.folders ++ paths.filter fun p => !f.folders.contains p }

/-- An entry in its place, or behind the others if it is new. -/
def put (path : Path) (text : List Char) : List (Path × List Char) → List (Path × List Char)
  | [] => [(path, text)]
  | (p, t) :: rest => if p = path then (p, text) :: rest else (p, t) :: put path text rest

/-- Writing a file, in folders that are made if need be. -/
def write (path : Path) (text : List Char) (f : Files) : Files :=
  let f := f.makeFolders (above path)
  { f with files := put path text f.files }

/-- Writing behind the text of a file. -/
def append (path : Path) (text : List Char) (f : Files) : Files :=
  f.write path ((f.text? path).getD [] ++ text)

/-- Removing the files of some paths. -/
def removeAll (gone : Path → Bool) (f : Files) : Files :=
  { f with files := f.files.filter fun e => !gone e.1 }

/-- Whether a path lies directly in a folder. -/
def isDirectlyIn (folder path : Path) : Bool := !path.isEmpty && path.dropLast == folder

/-- Whether a folder holds nothing, neither files nor folders. -/
def isEmptyFolder (f : Files) (folder : Path) : Bool :=
  !(f.folders.any (isDirectlyIn folder) || f.files.any fun e => isDirectlyIn folder e.1)

/-- Removing a folder if it holds nothing. -/
def removeFolder (folder : Path) (f : Files) : Files :=
  if f.isEmptyFolder folder then { f with folders := f.folders.filter (· != folder) } else f

/-! ### Laws -/

theorem lookup_put_self (path : Path) (text : List Char) (files : List (Path × List Char)) :
    (put path text files).lookup path = some text := by
  induction files with
  | nil => simp [put]
  | cons e rest ih =>
    obtain ⟨p, t⟩ := e
    by_cases h : p = path
    · simp [put, h]
    · have hne : (path == p) = false := by simpa using fun h' => h h'.symm
      simp [put, h, List.lookup_cons, hne, ih]

theorem lookup_put_of_ne {path other : Path} (h : other ≠ path) (text : List Char)
    (files : List (Path × List Char)) : (put path text files).lookup other = files.lookup other := by
  induction files with
  | nil =>
    have hne : (other == path) = false := by simpa using h
    simp [put, List.lookup_cons, hne]
  | cons e rest ih =>
    obtain ⟨p, t⟩ := e
    by_cases hp : p = path
    · have hne : (other == path) = false := by simpa using h
      subst hp
      simp [put, List.lookup_cons, hne]
    · simp only [put, hp, if_false, List.lookup_cons]
      split
      · rfl
      · exact ih

/-- **A file that is written** has its new text. -/
@[simp] theorem text?_write_self (f : Files) (path : Path) (text : List Char) :
    (f.write path text).text? path = some text := lookup_put_self path text f.files

/-- **Other files** keep their texts when one is written. -/
theorem text?_write_of_ne {path other : Path} (h : other ≠ path) (f : Files) (text : List Char) :
    (f.write path text).text? other = f.text? other := lookup_put_of_ne h text f.files

/-- Text that is appended stands behind the text there was. -/
theorem text?_append_self (f : Files) (path : Path) (text : List Char) :
    (f.append path text).text? path = some ((f.text? path).getD [] ++ text) :=
  text?_write_self f path _

/-- **Files that are not removed** keep their text. -/
theorem text?_removeAll {gone : Path → Bool} {path : Path} (h : gone path = false) (f : Files) :
    (f.removeAll gone).text? path = f.text? path := by
  unfold removeAll text?
  induction f.files with
  | nil => rfl
  | cons e rest ih =>
    obtain ⟨p, t⟩ := e
    by_cases hp : path = p
    · subst hp
      simp [h]
    · have hne : (path == p) = false := by simpa using hp
      by_cases hg : gone p = true
      · simp [hg, List.lookup_cons, hne, ih]
      · simp [hg, List.lookup_cons, hne, ih]

end Files

end StatementShape.Log
