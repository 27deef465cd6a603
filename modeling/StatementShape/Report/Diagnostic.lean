import StatementShape.Number.Decimal
import StatementShape.Text.Span

/-!
# Diagnostics

A diagnostic tells the reader of a report one thing: at a level, under a code that can be searched
for, with the stretches of the SQL it is about and with further notes. Diagnostics are built up from
a message.

## Main definitions

* `Level`, `Role`, `Mark`: how grave it is, and what is marked in the SQL
* `Diagnostic`: the diagnostics
* `codeText`: the text of a code
* `Diagnostic.marking`, `Diagnostic.noting`: adding marks and notes
-/

namespace StatementShape.Report

open Text (Span)

/-- Levels of diagnostics. Errors block the outcome. -/
inductive Level where
  | info | error
  deriving DecidableEq, Repr

/-- The word for a level. -/
def Level.word : Level → String
  | .info => "info"
  | .error => "error"

/-- The role of a mark: what a diagnostic is about, or what else it concerns. -/
inductive Role where
  | primary | secondary
  deriving DecidableEq, Repr

/-- The word for a role. -/
def Role.word : Role → String
  | .primary => "primary"
  | .secondary => "secondary"

/-- A mark in the SQL, with its label. -/
structure Mark where
  span : Span
  role : Role
  label : String
  deriving DecidableEq, Repr

/-- Diagnostics. -/
structure Diagnostic where
  level : Level
  code : Int
  message : String
  marks : List Mark := []
  notes : List String := []
  deriving DecidableEq, Repr

/-- The text of a code: a letter and the number, with zeros in front up to four characters, of
which a sign is one. -/
def codeText (code : Int) : String :=
  if code < 0 then "Q-" ++ Number.padLeft 3 code.natAbs else "Q" ++ Number.padLeft 4 code.natAbs

namespace Diagnostic

/-- An error. -/
def error (code : Int) (message : String) : Diagnostic := { level := .error, code, message }

/-- A remark. -/
def info (code : Int) (message : String) : Diagnostic := { level := .info, code, message }

/-- Marking a stretch of the SQL, behind the marks there are. -/
def marking (d : Diagnostic) (role : Role) (span : Span) (label : String) : Diagnostic :=
  { d with marks := d.marks ++ [{ span, role, label }] }

/-- Noting something more, behind the notes there are. -/
def noting (d : Diagnostic) (note : String) : Diagnostic := { d with notes := d.notes ++ [note] }

/-- Whether a diagnostic blocks the outcome. -/
def isBlocking (d : Diagnostic) : Bool := d.level = .error

end Diagnostic

/-! ### Codes -/

/-- A script that cannot be read. -/
def syntaxErrorCode : Int := 1

/-- A script of several statements. -/
def multipleStatementsCode : Int := 101

/-- A statement without any query production. -/
def unclassifiedCode : Int := 201

/-- An explanation of a selection. -/
def explainedSelectCode : Int := 202

/-- Insertions from one source. -/
def multiInsertCode : Int := 203

/-- A source with nothing behind it. -/
def bareFromCode : Int := 204

end StatementShape.Report
