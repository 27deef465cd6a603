import StatementShape.Classify.Classification
import StatementShape.Report.Diagnostic

/-!
# Reports

The outcome for one SQL text: its diagnostics, whether they block it, and its classification if it
has one.

## Main definitions

* `Report`: the reports
* `Report.codes`: the codes of the diagnostics
-/

namespace StatementShape

open Report (Diagnostic codeText)

/-- Reports. -/
structure Report where
  sql : List Char
  diagnostics : List Diagnostic
  blocked : Bool
  classification : Option Classify.Classification := none

/-- The codes of the diagnostics, in order. -/
def Report.codes (r : Report) : List String := r.diagnostics.map fun d => codeText d.code

end StatementShape
