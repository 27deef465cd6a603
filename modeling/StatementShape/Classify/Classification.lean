import StatementShape.Classify.Seen

/-!
# Classifications

The outcome of classifying a script: the two decisions and the productions they rest on, with a
short label for the shape of the statement.

## Main definitions

* `Classification`: the outcome
* `Classification.label`: the shape in one word
* `Classification.ofTree`: the classification of a tree
-/

namespace StatementShape.Classify

open Statement (Production Tree)

/-- Classifications. -/
structure Classification where
  hasResultSet : Bool
  isSelect : Bool
  productions : Seen

namespace Classification

/-- The shape in one word: an explanation before anything else, then a selection, an insertion,
insertions from one source, a query from a source, and anything else. -/
def label (c : Classification) : String :=
  if c.productions .explainStatement then "explain"
  else if c.productions .selectQueryStatement then "select"
  else if c.productions .insertStatement then "insert"
  else if c.productions .multiInsertBranch then "multi_insert"
  else if c.productions .fromStatement then "from_query"
  else "utility"

/-- Productions in the order of their names. -/
def alphabetical : List Production :=
  [.explainStatement, .fromClause, .fromRest, .fromStatement, .insertStatement, .multiInsertBranch,
    .queryStatement, .script, .selectQueryStatement, .utilityStatement, .withClause]

/-- The order is that of the names, and no name stands twice. -/
theorem alphabetical_sorted : (alphabetical.map (·.name)).Pairwise (· < ·) := by decide +kernel

theorem mem_alphabetical (p : Production) : p ∈ alphabetical := by cases p <;> decide

/-- The names of the productions, in ascending order. -/
def names (s : Seen) : List String := (alphabetical.filter s).map (·.name)

/-- The classification of a record. -/
def ofSeen (s : Seen) : Classification where
  hasResultSet := s.hasResultSet
  isSelect := s.isSelect
  productions := s

/-- The classification of a tree, from one walk through it. -/
def ofTree (t : Tree) : Classification := ofSeen (Seen.ofVisits t.visits)

end Classification

end StatementShape.Classify
