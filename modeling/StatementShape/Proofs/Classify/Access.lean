import StatementShape.Proofs.Classify.Shape
import StatementShape.Proofs.Sql.Scan
import StatementShape.Proofs.Statement.Access

/-!
# Examining with care

The whole way from an SQL text to its report, taken with the same care as the layout of a script:
the checks look up the second statement of a script and the first explanation in it, and end the run
with a mishap if there is none. A script of one statement or less has no second statement looked up,
and an explanation that the walk through a tree has seen is found in the tree.

## Main definitions

* `Careful.examine`: the report on an SQL text, with care

## Main results

* `Careful.examine_ok`: every text has its report, and its script a tree or an error
-/

namespace StatementShape.Classify

open Report (Diagnostic)
open Sql (Reader)
open Statement (Tree Mishap itemAt refusing itemAt_eq ok_bind)

namespace Careful

/-! ### Examining with care -/

/-- Scripts of several statements are blocked, and their second statement looked up. -/
def multipleStatements (t : Tree) : Except Mishap (Option Diagnostic) :=
  if t.children.length ≤ 1 then .ok none
  else (itemAt t.children 1).map fun second => some (severalStatements t.children.length second)

/-- An explanation of a selection is reported, and the first explanation looked up. -/
def explainedSelect (t : Tree) (c : Classification) : Except Mishap (Option Diagnostic) :=
  if !c.productions .explainStatement || !c.productions .selectQueryStatement then .ok none
  else (itemAt (t.nodesOf .explainStatement) 0).map fun first => some (explainedSelection first)

/-- The remarks on a tree and its classification. -/
def remarks (t : Tree) (c : Classification) : Except Mishap (List Diagnostic) :=
  (explainedSelect t c).map fun explained =>
    (unclassified t c).toList ++ explained.toList ++ (multiInsert t).toList ++ (bareFrom t).toList

/-- The report on a text that is laid out as a tree. -/
def examineTree (sql : List Char) (tree : Tree) : Except Mishap Report := do
  match ← multipleStatements tree with
  | some d => return blockedBy sql d
  | none =>
    let c := Classification.ofTree tree
    let diagnostics ← remarks tree c
    return { sql, diagnostics, blocked := diagnostics.any (·.isBlocking), classification := some c }

/-- The report on an SQL text. The error for which a text is refused is reported, a mishap is
not. -/
def examine (r : Reader) (text : List Char) : Except Mishap Report :=
  let sql := Text.strip text
  match Statement.Careful.script r sql with
  | .error (.refused e) => .ok (blockedBy sql (syntaxDiagnostic e))
  | .error mishap => .error mishap
  | .ok tree => examineTree sql tree

/-! ### No mishap comes about -/

section Checks

variable {t : Tree}

/-- The second statement is looked up only where there is one. -/
theorem multipleStatements_eq (t : Tree) :
    multipleStatements t = .ok (Classify.multipleStatements t) := by
  obtain ⟨p, s, x, e, cs⟩ := t
  match cs with
  | [] => rfl
  | [c] => rfl
  | c :: second :: more =>
    rw [multipleStatements, if_neg (by simp), itemAt_eq (x := second) rfl]
    rfl

/-- An explanation that was seen is found. -/
theorem explainedSelect_eq (t : Tree) :
    ∃ d, explainedSelect t (Classification.ofTree t) = .ok d ∧
      Classify.explainedSelect t (Classification.ofTree t) = .ok d := by
  unfold explainedSelect Classify.explainedSelect
  cases hseen : (Classification.ofTree t).productions .explainStatement with
  | false => exact ⟨none, rfl, rfl⟩
  | true =>
    cases (Classification.ofTree t).productions .selectQueryStatement with
    | false => exact ⟨none, rfl, rfl⟩
    | true =>
      obtain ⟨-, hne⟩ := ofVisits_eq_true_iff.mp hseen
      obtain ⟨first, more, hnodes⟩ := List.exists_cons_of_ne_nil hne
      exact ⟨some (explainedSelection first), by rw [hnodes]; rfl, by rw [hnodes]; rfl⟩

/-- The remarks on a tree need no explanation that is not there. -/
theorem remarks_eq (t : Tree) :
    ∃ ds, remarks t (Classification.ofTree t) = .ok ds ∧
      Classify.remarks t (Classification.ofTree t) = .ok ds := by
  obtain ⟨d, hcareful, hplain⟩ := explainedSelect_eq t
  rw [remarks, Classify.remarks, hcareful, hplain]
  exact ⟨_, rfl, rfl⟩

/-- A text that is laid out has its report. -/
theorem examineTree_eq {r : Reader} {text : List Char}
    (h : Statement.script r (Text.strip text) = .ok t) :
    ∃ report, examineTree (Text.strip text) t = .ok report ∧
      Classify.examine r text = .ok report := by
  unfold examineTree Classify.examine
  rw [multipleStatements_eq, ok_bind]
  simp only [h]
  cases Classify.multipleStatements t with
  | some d => exact ⟨_, rfl, rfl⟩
  | none =>
    obtain ⟨ds, hcareful, hplain⟩ := remarks_eq t
    simp only [hcareful, hplain, ok_bind]
    exact ⟨_, rfl, rfl⟩

end Checks

/-- **Every text has its report**, and its script a tree or an error for which it is refused, if
only the tokens of each text stop inside it: no place outside of a list is looked up, and every loop
comes to its end in the turns that it is allowed. -/
theorem examine_ok {r : Reader} (hr : r.StopsInside) (text : List Char) :
    ((∃ tree, Statement.Careful.script r text = .ok tree) ∨
        ∃ e, Statement.Careful.script r text = .error (.refused e)) ∧
      Statement.Careful.script r text = refusing (Statement.script r text) ∧
      ∃ report, examine r text = .ok report ∧ Classify.examine r text = .ok report := by
  have hscript := Statement.Careful.script_eq hr
  refine ⟨?_, hscript text, ?_⟩
  · rw [hscript text]
    cases Statement.script r text with
    | ok tree => exact .inl ⟨tree, rfl⟩
    | error e => exact .inr ⟨e, rfl⟩
  · unfold examine
    simp only [hscript]
    cases h : Statement.script r (Text.strip text) with
    | error e => exact ⟨blockedBy _ (syntaxDiagnostic e), rfl, by simp [Classify.examine, h]⟩
    | ok tree => exact examineTree_eq h

/-- An explanation of an explanation has its report in the standard dialect. -/
theorem examine_ok_explained :
    (Sql.Dialect.standard.reader).StopsInside ∧
      ∃ report, examine Sql.Dialect.standard.reader
        " EXPLAIN ANALYZE EXPLAIN WITH c AS (SELECT 1) FROM c;".toList = .ok report :=
  have hr := (Sql.keepsOrder_reader Sql.Dialect.standard).stopsInside
  have ⟨report, h, _⟩ := (examine_ok hr
    " EXPLAIN ANALYZE EXPLAIN WITH c AS (SELECT 1) FROM c;".toList).2.2
  ⟨hr, report, h⟩

end Careful

end StatementShape.Classify
