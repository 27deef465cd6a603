import StatementShape.Classify.Check
import StatementShape.Statement.Script

/-!
# Examining SQL

The whole way from an SQL text to its report: the text is laid out as a tree, blocked if that fails
or if it holds several statements, and classified with remarks otherwise.

## Main definitions

* `classify`: the classification of a script
* `remarks`: the remarks on a tree and its classification
* `examine`: the report on an SQL text
-/

namespace StatementShape.Classify

open Report (Diagnostic)
open Sql (Reader)
open Statement (SyntaxError Tree)

/-- The classification of a script, of any number of statements. -/
def classify (r : Reader) (sql : List Char) : Except SyntaxError Classification :=
  (Statement.script r sql).map Classification.ofTree

/-- The remarks on a tree and its classification. -/
def remarks (t : Tree) (c : Classification) : Except MissingNode (List Diagnostic) :=
  (explainedSelect t c).map fun explained =>
    (unclassified t c).toList ++ explained.toList ++ (multiInsert t).toList ++ (bareFrom t).toList

/-- The report on a text that is blocked by one diagnostic. -/
def blockedBy (sql : List Char) (d : Diagnostic) : Report :=
  { sql, diagnostics := [d], blocked := true }

/-- The diagnostic for a text that cannot be read. -/
def syntaxDiagnostic (e : SyntaxError) : Diagnostic :=
  Diagnostic.error Report.syntaxErrorCode ("SQL syntax error: " ++ e.message)

/-- The report on an SQL text, without the blanks around it. -/
def examine (r : Reader) (text : List Char) : Except MissingNode Report :=
  let sql := Text.strip text
  match Statement.script r sql with
  | .error e => .ok (blockedBy sql (syntaxDiagnostic e))
  | .ok tree =>
    match multipleStatements tree with
    | some d => .ok (blockedBy sql d)
    | none =>
      let c := Classification.ofTree tree
      (remarks tree c).map fun diagnostics =>
        { sql, diagnostics, blocked := diagnostics.any (·.isBlocking), classification := some c }

end StatementShape.Classify
