import StatementShape.Report.Report
import StatementShape.Text.Case

/-!
# Checks

Checks on a tree and its classification. One of them blocks scripts of several statements; the
others say why a statement was classified as it was.

## Main definitions

* `severalStatements`, `notQuery`, `explainedSelection`, `sourceInsertions`, `sourceAlone`: what the
  checks say
* `multipleStatements`: more than one statement
* `unclassified`, `explainedSelect`, `multiInsert`, `bareFrom`: remarks on a classification
-/

namespace StatementShape.Classify

open Report (Diagnostic)
open Statement (Production Tree)

/-- A node that a classification speaks of is missing from the tree. -/
structure MissingNode where
  production : Production
  deriving DecidableEq, Repr

/-! ### What the checks say -/

/-- Several statements, of which the second is marked. -/
def severalStatements (count : Nat) (second : Tree) : Diagnostic :=
  (((Diagnostic.error Report.multipleStatementsCode
    ("multiple statements detected (" ++ toString count ++ ")")).marking
      .primary second.span "second statement starts here").noting
      "classification covers a single statement").noting
      "split the script and classify each statement separately"

/-- No query, with the kind of expression that a utility statement was read as. -/
def notQuery (utility : Option Tree) : Diagnostic :=
  let remark := Diagnostic.info Report.unclassifiedCode
    "not a query statement; reported as non-result-bearing"
  match utility.bind Tree.expression with
  | some e => remark.noting ("parsed as " ++ Text.upper e.key.toList)
  | none => remark

/-- An explained selection, marked where it is explained. -/
def explainedSelection (explanation : Tree) : Diagnostic :=
  ((Diagnostic.info Report.explainedSelectCode
    "EXPLAIN SELECT is not routed as a SELECT").marking
      .primary explanation.span "explain wrapper").noting
      "the plan is still returned as a result set"

/-- Insertions from one source, counted and marked. -/
def sourceInsertions (branches : List Tree) : Diagnostic :=
  let noun := if branches.length = 1 then "branch" else "branches"
  let remark := Diagnostic.info Report.multiInsertCode
    ("FROM statement writes to " ++ toString branches.length ++ " insert " ++ noun)
  let marked := branches.foldl
    (fun d branch => d.marking .secondary branch.span "insert branch") remark
  marked.noting "no result set is produced"

/-- A source alone, marked. -/
def sourceAlone (statement : Tree) : Diagnostic :=
  ((Diagnostic.info Report.bareFromCode "FROM statement without SELECT or INSERT").marking
    .primary statement.span "bare FROM").noting
    "treated as SELECT * and reported as result-bearing"

/-! ### The checks -/

/-- Scripts of several statements are blocked: decisions are on one. -/
def multipleStatements (t : Tree) : Option Diagnostic :=
  match t.children with
  | _ :: second :: _ => some (severalStatements t.children.length second)
  | _ => none

/-- A statement without query productions is reported as yielding no rows. -/
def unclassified (t : Tree) (c : Classification) : Option Diagnostic :=
  if c.productions .queryStatement then none
  else some (notQuery (t.nodesOf .utilityStatement).head?)

/-- An explanation of a selection yields rows without being routed as a selection. -/
def explainedSelect (t : Tree) (c : Classification) : Except MissingNode (Option Diagnostic) :=
  if c.productions .explainStatement && c.productions .selectQueryStatement then
    match (t.nodesOf .explainStatement).head? with
    | some explanation => .ok (some (explainedSelection explanation))
    | none => .error ⟨.explainStatement⟩
  else .ok none

/-- Insertions from one source yield no rows. -/
def multiInsert (t : Tree) : Option Diagnostic :=
  let branches := t.nodesOf .multiInsertBranch
  if branches.isEmpty then none else some (sourceInsertions branches)

/-- Whether a statement has its source and nothing else. -/
def isBareFrom (t : Tree) : Bool :=
  !t.children.isEmpty && t.children.all fun part => part.production = .fromClause

/-- A source with nothing behind it is taken as a selection of all its columns. -/
def bareFrom (t : Tree) : Option Diagnostic :=
  ((t.nodesOf .fromStatement).find? isBareFrom).map sourceAlone

end StatementShape.Classify
