import StatementShape.Config.Setting
import StatementShape.Toml.Document

/-!
# The configuration file

The file holds the settings in its table of defaults. Other tables and other names are allowed.
Saving a setting writes the table of defaults anew, with the new value in the place of the old one.

Whole numbers of any size can be in a file, in hexadecimal digits. Where one without a numeral would
have to be written in decimal digits, in the wording of a fault or in a new file, that fails.

## Main definitions

* `Failure`: why a file cannot be used
* `defaults`: the entries of the table of defaults
* `load`: the settings of a file
* `save`: the file with a setting saved
-/

namespace StatementShape.Config

/-- Failures to use a file: a fault of its contents, or defaults or numbers that cannot be handled
at all. -/
inductive Failure where
  | fault (f : Fault)
  /-- The defaults are no collection of pairs. -/
  | notPairs
  /-- Something has a wrong length: the defaults are a collection, but not of pairs, or a whole
  number is read or written that has more digits than a numeral may have. -/
  | wrongLength
  deriving Repr

/-- The failure for a fault. If it cannot be worded, then because of a number without a numeral. -/
def Failure.ofFault (f : Fault) : Failure := if f.hasNumerals then .fault f else .wrongLength

theorem Failure.ofFault_eq_fault {f : Fault} (h : f.hasNumerals = true) : ofFault f = .fault f :=
  if_pos h

theorem Failure.ofFault_eq_wrongLength {f : Fault} (h : f.hasNumerals = false) :
    ofFault f = .wrongLength :=
  if_neg (Bool.eq_false_iff.mp h)

/-! ### The table of defaults -/

/-- The two parts of a value that is a pair: a list of two, a string of two characters, or the
names of a table with two entries. -/
def pairOf (v : Value) : Except Failure (Value × Value) :=
  let two : List Value → Except Failure (Value × Value)
    | [a, b] => .ok (a, b)
    | _ => .error .wrongLength
  match v with
  | .array items => two items
  | .string s => two (s.map fun c => .string [c])
  | .table entries => two (entries.map fun e => .string e.1)
  | _ => .error .notPairs

/-- The name that a value is. Numbers and truth values of equal size are one name, and lists and
tables are none. -/
def nameOf (v : Value) : Except Failure Value :=
  match v with
  | .bool b => .ok (.integer (if b then 1 else 0))
  | .float x =>
    match x.asInteger? with
    | some n => .ok (.integer n)
    | none => .ok (.float x)
  | .array _ | .table _ => .error .notPairs
  | v => .ok v

/-- Whether two names are one. A number that is undefined is no other, and instants are compared in
universal time, if they are given with it. -/
def sameName : Value → Value → Bool
  | .integer m, .integer n => m == n
  | .float x, .float y => x == y && x != .undefined
  | .string s, .string t => s == t
  | .date d, .date e => d == e
  | .time t, .time u => t == u
  | .dateTime i none, .dateTime j none => i == j
  | .dateTime i (some a), .dateTime j (some b) => i.universal a == j.universal b
  | _, _ => false

/-- Pairs with distinct names: a later pair replaces the value of an earlier one, whose name it
keeps. -/
def putPair (pairs : List (Value × Value)) (name v : Value) :
    Except Failure (List (Value × Value)) := do
  let wanted ← nameOf name
  let same := fun p : Value × Value => (nameOf p.1).toOption.any (sameName wanted)
  if pairs.any same then
    return pairs.map fun p => if same p then (p.1, v) else p
  else return pairs ++ [(name, v)]

/-- The entries that a value stands for: those of a table, or a collection of pairs. -/
def entriesOf (v : Value) : Except Failure Entries :=
  match v with
  | .table entries => .ok entries
  | .array items => do
    let pairs ← items.foldlM (fun pairs item => do
      let (name, v) ← pairOf item
      putPair pairs name v) []
    return pairs.map fun p => (p.1.plain, p.2)
  | .string [] => .ok []
  | .string _ => .error .wrongLength
  | _ => .error .notPairs

/-- The name of the table of defaults. -/
def tableName : String := "defaults"

/-- The value of the defaults in a file; no entries if there is no file, or no such table in it. -/
def defaultsValue (file : Option (List Char)) : Except Failure Value :=
  match file with
  | none => .ok (.table [])
  | some text =>
    match Toml.read text with
    | .error .malformed => .error (.fault .unreadable)
    | .error .longNumeral => .error .wrongLength
    | .ok tables => .ok ((tables.lookup tableName.toList).getD (.table []))

/-- The defaults in a file. -/
def defaults (file : Option (List Char)) : Except Failure Entries :=
  defaultsValue file >>= entriesOf

/-! ### Loading -/

/-- Settings with an entry applied, if it has the name of one. -/
def applyEntry (s : Settings) (e : List Char × Value) : Except Fault Settings :=
  match Key.ofName? e.1 with
  | none => .ok s
  | some key => (Setting.ofValue key e.2).map s.apply

/-- Settings with entries applied, up to the first fault. -/
def applyAll (s : Settings) (entries : Entries) : Except Fault Settings :=
  entries.foldlM applyEntry s

/-- The settings of a file. -/
def load (file : Option (List Char)) : Except Failure Settings :=
  match defaults file with
  | .error e => .error e
  | .ok entries => (applyAll {} entries).mapError Failure.ofFault

/-! ### Saving -/

/-- A text between double quotes, with quotes and backslashes escaped. -/
def escapeQuotes (s : List Char) : List Char :=
  s.flatMap fun c => if c = '\\' ∨ c = '"' then ['\\', c] else [c]

/-- A value as it is written: truth values and whole numbers as such, all else as a string. -/
def literal : Value → List Char
  | .bool b => (Report.boolText b).toList
  | .integer n => (toString n).toList
  | v => '"' :: (escapeQuotes v.plain ++ ['"'])

/-- A line for an entry. -/
def entryLine (e : List Char × Value) : List Char := e.1 ++ " = ".toList ++ literal e.2 ++ ['\n']

/-- The file of some defaults. -/
def fileText (entries : Entries) : List Char :=
  '[' :: tableName.toList ++ [']', '\n'] ++ entries.flatMap entryLine

/-- Whether the names of the entries that a value stands for can be written. -/
def namesHaveNumerals : Value → Bool
  | .array items => items.all fun item => (pairOf item).toOption.all (·.1.hasNumerals)
  | _ => true

/-- The file of some entries, in place of defaults with the same names. It is written only as a
whole. -/
def newFile (old : Value) (entries : Entries) : Except Failure (List Char) :=
  if namesHaveNumerals old && entries.all (·.2.hasNumerals) then .ok (fileText entries)
  else .error .wrongLength

/-- The file with a setting saved. -/
def save (file : Option (List Char)) (s : Setting) : Except Failure (List Char) := do
  let old ← defaultsValue file
  let entries ← entriesOf old
  newFile old (entries.put s.key.name.toList s.value)

/-- The file with a value saved under a name. The file is read before the value is checked. -/
def saveValue (file : Option (List Char)) (name : List Char) (v : Value) :
    Except Failure (List Char) :=
  match Key.ofName? name with
  | none => .error (.fault (.unknownKey name))
  | some key => do
    let old ← defaultsValue file
    let entries ← entriesOf old
    let s ← (Setting.ofValue key v).mapError Failure.ofFault
    newFile old (entries.put s.key.name.toList s.value)

/-- Saving a setting is saving its value under its name. -/
theorem saveValue_value (file : Option (List Char)) {s : Setting} (h : s.InRange) :
    saveValue file s.key.name.toList s.value = save file s := by
  simp only [saveValue, Key.ofName?_name, save, Setting.ofValue_value h]
  rfl

end StatementShape.Config
