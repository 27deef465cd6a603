import StatementShape.Json.Print
import StatementShape.Report.Report

/-!
# Rendering reports

A report is shown as lines of text for people, or as JSON for tools. Its numbers are codes of four
digits and places in a text, so they all have numerals.

## Main definitions

* `Report.Format`: the two formats
* `Report.lines`, `Report.text`: the lines of text
* `Report.json`: the JSON value
* `Report.render`: the report in a format
-/

namespace StatementShape.Report

open Classify (Classification)
open Text (Span)

/-- Formats of a report. -/
inductive Format where
  | text | json
  deriving DecidableEq, Repr

/-- The name of a format. -/
def Format.name : Format → String
  | .text => "text"
  | .json => "json"

/-- The format of a name, if there is one. -/
def Format.ofName? (name : String) : Option Format :=
  [Format.text, Format.json].find? (·.name == name)

/-- The word for a truth value. -/
def boolText (b : Bool) : String := if b then "true" else "false"

/-- The stretch of a text that a span names. -/
def excerpt (sql : List Char) (s : Span) : String := String.ofList (s.slice sql)

/-- The line of a mark: its span, the marked text and the label. -/
def markLine (sql : List Char) (m : Mark) : String :=
  "  --> " ++ toString m.span.start ++ ".." ++ toString m.span.stop ++ " \x60" ++
    excerpt sql m.span ++ "\x60: " ++ m.label

/-- The lines of a diagnostic: its message, its marks and its notes. -/
def diagnosticLines (sql : List Char) (d : Diagnostic) : List String :=
  (d.level.word ++ "[" ++ codeText d.code ++ "]: " ++ d.message) ::
    (d.marks.map (markLine sql) ++ d.notes.map fun note => "  = note: " ++ note)

/-- The lines of a classification. -/
def classificationLines (c : Classification) : List String :=
  ["classification: " ++ c.label, "has_result_set: " ++ boolText c.hasResultSet,
    "is_select: " ++ boolText c.isSelect]

/-- The lines of a report: its diagnostics, and behind an empty line its classification. -/
def lines (r : Report) : List String :=
  let found := r.diagnostics.flatMap (diagnosticLines r.sql)
  match r.classification with
  | none => found
  | some c => if found.isEmpty then classificationLines c else found ++ "" :: classificationLines c

/-- The text of a report. -/
def text (r : Report) : String := String.intercalate "\n" r.lines

/-- A diagnostic for tools, without its marks. -/
def diagnosticJson (d : Diagnostic) : Json :=
  .record [("level", .text d.level.word), ("code", .text (codeText d.code)),
    ("message", .text d.message), ("notes", .array (d.notes.map .text))]

/-- The members for a classification. -/
def classificationMembers (c : Classification) : List (String × Json) :=
  [("classification", .text c.label), ("has_result_set", .bool c.hasResultSet),
    ("is_select", .bool c.isSelect),
    ("productions", .array ((Classification.names c.productions).map .text))]

/-- A report for tools. What belongs to a classification is left out where there is none. -/
def json (r : Report) : Json :=
  .record ([("sql", .string r.sql), ("blocked", .bool r.blocked),
    ("diagnostics", .array (r.diagnostics.map diagnosticJson))]
    ++ (r.classification.map classificationMembers).getD [])

/-- A report in a format. -/
def render (format : Format) (r : Report) : String :=
  match format with
  | .text => r.text
  | .json => String.ofList r.json.pretty

end StatementShape.Report
