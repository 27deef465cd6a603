import StatementShape.Calendar.Instant
import StatementShape.Json.Print

/-!
# Entries of the log

A run is logged as one line of JSON: when it was, the SQL and its dialect, and the outcome.

## Main definitions

* `Entry`: the entries
* `Entry.json`, `Entry.line`: an entry as a value, and as a line
-/

namespace StatementShape.Log

open Calendar (Instant)

/-- Entries. Without a classification its three fields are missing. -/
structure Entry where
  at_ : Instant
  sql : List Char
  dialect : Option (List Char) := none
  label : Option (List Char) := none
  hasResultSet : Option Bool := none
  isSelect : Option Bool := none
  blocked : Bool := false
  codes : List (List Char) := []
  deriving DecidableEq, Repr

/-- A value that may be missing. -/
def optional {α : Type} (f : α → Json) : Option α → Json
  | some a => f a
  | none => .null

namespace Entry

/-- An entry as a value. -/
def json (e : Entry) : Json :=
  .record [("ts", .text e.at_.stamp), ("dialect", optional .string e.dialect),
    ("sql", .string e.sql), ("classification", optional .string e.label),
    ("has_result_set", optional .bool e.hasResultSet),
    ("is_select", optional .bool e.isSelect), ("blocked", .bool e.blocked),
    ("diagnostics", .array (e.codes.map .string))]

/-- An entry as a line. -/
def line (e : Entry) : List Char := e.json.line ++ ['\n']

end Entry

end StatementShape.Log
