import StatementShape.Config.Display
import StatementShape.Report.Render
import StatementShape.Text.Blank
import StatementShape.Text.Case
import StatementShape.Text.Digit

/-!
# Settings

There are four settings: the dialect of the SQL, the format of reports, whether runs are logged, and
for how many days the log is kept. A setting is given as a value of a configuration file or as a
text on the command line, and is checked either way.

## Main definitions

* `Key`: the names of the settings
* `Setting`: a setting with its value
* `Fault`: why a value is refused, with `Fault.message`, and whether it can be worded
* `Setting.ofValue`, `Setting.ofText`: a setting from a value and from a text
* `Settings`: the values of all settings

## Main results

* `Setting.ofValue_value`: the value of a setting that is in range gives the setting back
-/

namespace StatementShape.Config

open Number (digitsValue mostDigits)
open Report (Format)

/-- Keys of settings. -/
inductive Key where
  | dialect | format | log | retentionDays
  deriving DecidableEq, Repr

namespace Key

/-- The name of a key. -/
def name : Key → String
  | dialect => "dialect"
  | format => "format"
  | log => "log"
  | retentionDays => "retention_days"

/-- All keys. -/
def all : List Key := [dialect, format, log, retentionDays]

/-- The key of a name, if there is one. -/
def ofName? (name : List Char) : Option Key := all.find? (·.name.toList == name)

/-- The type of a key's values. -/
def typeName : Key → String
  | dialect | format => "str"
  | log => "bool"
  | retentionDays => "int"

/-- A name finds its own key. -/
theorem ofName?_name (k : Key) : ofName? k.name.toList = some k := by cases k <;> decide

/-- Only its name finds a key. -/
theorem name_of_ofName? {s : List Char} {k : Key} (h : ofName? s = some k) :
    k.name.toList = s := by
  have := List.find?_some h
  simpa using this

end Key

/-- Settings with their values. -/
inductive Setting where
  | dialect (name : List Char)
  | format (f : Format)
  | log (on : Bool)
  | retentionDays (days : Int)
  deriving DecidableEq, Repr

/-- Faults of a configuration. -/
inductive Fault where
  /-- The file is no document. -/
  | unreadable
  /-- There is no such setting. -/
  | unknownKey (name : List Char)
  /-- A value has another type than its key. -/
  | wrongType (key : Key) (given : Value)
  /-- There is no such format. -/
  | unknownFormat
  /-- The log would not be kept for a day. -/
  | tooFewDays
  /-- A text is no truth value. -/
  | notBoolean (key : Key) (given : List Char)
  /-- A text is no whole number. -/
  | notInteger (key : Key) (given : List Char)
  deriving Repr

/-- The wording of a fault in the file at a path. -/
def Fault.message (path : String) : Fault → String
  | unreadable => path ++ ": <toml>"
  | unknownKey name =>
    "Unknown setting '" ++ String.ofList name ++ "'. Valid: "
      ++ String.intercalate ", " (Key.all.map (·.name))
  | wrongType key given =>
    "'" ++ key.name ++ "' must be " ++ key.typeName ++ ", got " ++ String.ofList given.display
  | unknownFormat =>
    "'" ++ Key.format.name ++ "' must be one of "
      ++ String.intercalate ", " ([Format.text, .json].map (·.name))
  | tooFewDays => "'" ++ Key.retentionDays.name ++ "' must be at least 1"
  | notBoolean key given =>
    "'" ++ key.name ++ "' must be true or false, got '" ++ String.ofList given ++ "'"
  | notInteger key given =>
    "'" ++ key.name ++ "' must be an integer, got '" ++ String.ofList given ++ "'"

/-- Whether a fault can be worded: a value that is shown in the wording has no number without a
numeral in it. -/
def Fault.hasNumerals : Fault → Bool
  | wrongType _ given => given.hasNumerals
  | _ => true

namespace Setting

/-- The key of a setting. -/
def key : Setting → Key
  | dialect _ => .dialect
  | format _ => .format
  | log _ => .log
  | retentionDays _ => .retentionDays

/-- The value of a setting. -/
def value : Setting → Value
  | dialect name => .string name
  | format f => .string f.name.toList
  | log on => .bool on
  | retentionDays days => .integer days

/-! ### From values -/

/-- A format by its name. -/
def ofFormatName (name : List Char) : Except Fault Setting :=
  match Format.ofName? (String.ofList name) with
  | some f => .ok (format f)
  | none => .error .unknownFormat

/-- A number of days, at least one. -/
def ofDays (days : Int) : Except Fault Setting :=
  if days < 1 then .error .tooFewDays else .ok (retentionDays days)

/-- A setting from a value, which must have the type of the key and be in range. -/
def ofValue (key : Key) (v : Value) : Except Fault Setting :=
  match key, v with
  | .dialect, .string name => .ok (dialect name)
  | .format, .string name => ofFormatName name
  | .log, .bool on => .ok (log on)
  | .retentionDays, .integer days => ofDays days
  | key, v => .error (.wrongType key v)

/-! ### From texts -/

/-- Blanks around a number: all but the information separators. -/
def isNumberSpace (c : Char) : Bool :=
  Text.isBlank c && !(0x1C ≤ c.toNat && c.toNat ≤ 0x1F)

/-- The values of digits with single underscores between them; none if there is no digit, or
anything else. -/
def digitValues : List Char → Option (List Nat)
  | [] => none
  | [c] => (Text.decimalValue? c).map ([·])
  | c :: '_' :: rest => do
    let d ← Text.decimalValue? c
    return d :: (← digitValues rest)
  | c :: rest => do
    let d ← Text.decimalValue? c
    return d :: (← digitValues rest)

/-- A whole number that a text spells, in decimal digits of any script, with a sign or without
one, and with blanks around it. -/
def integerOf? (text : List Char) : Option Int :=
  let inside := Text.dropEndWhile isNumberSpace (text.dropWhile isNumberSpace)
  let (negative, digits) := match inside with
    | '-' :: rest => (true, rest)
    | '+' :: rest => (false, rest)
    | rest => (false, rest)
  match digitValues digits with
  | some ds =>
    if ds.length ≤ mostDigits then
      let n : Nat := ds.foldl (fun n d => 10 * n + d) 0
      some (if negative then -(n : Int) else n)
    else none
  | none => none

/-- A truth value that a text spells, in any letter case. -/
def booleanOf? (text : List Char) : Option Bool :=
  let word := Text.lower (String.ofList text)
  if word == "true" then some true else if word == "false" then some false else none

/-- A setting from a text. -/
def ofText (key : Key) (text : List Char) : Except Fault Setting :=
  match key with
  | .dialect => .ok (dialect text)
  | .format => ofFormatName text
  | .log =>
    match booleanOf? text with
    | some on => .ok (log on)
    | none => .error (.notBoolean .log text)
  | .retentionDays =>
    match integerOf? text with
    | some days => ofDays days
    | none => .error (.notInteger .retentionDays text)

/-- A setting from a name and a text. -/
def parse (name text : List Char) : Except Fault Setting :=
  match Key.ofName? name with
  | some key => ofText key text
  | none => .error (.unknownKey name)

/-- Whether a setting is in range: the log is kept for a day at least. -/
def InRange : Setting → Prop
  | retentionDays days => 1 ≤ days
  | _ => True

/-- **The value of a setting** in range gives the setting back. -/
theorem ofValue_value {s : Setting} (h : s.InRange) : ofValue s.key s.value = .ok s := by
  cases s with
  | dialect => rfl
  | format f => cases f <;> rfl
  | log => rfl
  | retentionDays days =>
    have : ¬ days < 1 := Int.not_lt.2 h
    simp [ofValue, value, key, ofDays, this]

/-- A setting from a value is in range and has the key. -/
theorem inRange_of_ofValue {k : Key} {v : Value} {s : Setting} (h : ofValue k v = .ok s) :
    s.InRange ∧ s.key = k := by
  unfold ofValue at h
  split at h
  · cases h; exact ⟨trivial, rfl⟩
  · unfold ofFormatName at h
    split at h
    · cases h; exact ⟨trivial, rfl⟩
    · cases h
  · cases h; exact ⟨trivial, rfl⟩
  · unfold ofDays at h
    split at h
    · cases h
    · next hd => cases h; exact ⟨Int.not_lt.1 hd, rfl⟩
  · cases h

end Setting

/-- The values of all settings. Unless it is set, no dialect is chosen, reports are texts, and
runs are logged and kept for thirty days. -/
structure Settings where
  dialect : Option (List Char) := none
  format : Format := .text
  log : Bool := true
  retentionDays : Int := 30
  deriving DecidableEq, Repr

/-- Settings with one of them changed. -/
def Settings.apply (s : Settings) : Setting → Settings
  | .dialect name => { s with dialect := some name }
  | .format f => { s with format := f }
  | .log on => { s with log := on }
  | .retentionDays days => { s with retentionDays := days }

end StatementShape.Config
