/-!
# Productions

The parts that a script of statements is made of. A script holds statements; a statement is a query
statement, an explanation of a statement, or a utility statement that touches no query at all. A
query statement is a selection, an insertion, or a statement that begins with its source.

## Main definitions

* `Production`: the parts
* `Production.name`: the name a part is reported under
-/

namespace StatementShape.Statement

/-- Productions of the grammar of statements. -/
inductive Production where
  | script | queryStatement | withClause | selectQueryStatement | fromStatement | insertStatement
  | explainStatement | fromClause | fromRest | multiInsertBranch | utilityStatement
  deriving DecidableEq, Repr

namespace Production

/-- The name of a production. -/
def name : Production → String
  | script => "script"
  | queryStatement => "query_statement"
  | withClause => "with_clause"
  | selectQueryStatement => "select_query_statement"
  | fromStatement => "from_statement"
  | insertStatement => "insert_statement"
  | explainStatement => "explain_statement"
  | fromClause => "from_clause"
  | fromRest => "from_rest"
  | multiInsertBranch => "multi_insert_branch"
  | utilityStatement => "utility_statement"

/-- All productions, in the order in which they are declared. -/
def all : List Production :=
  [script, queryStatement, withClause, selectQueryStatement, fromStatement, insertStatement,
    explainStatement, fromClause, fromRest, multiInsertBranch, utilityStatement]

/-- The production of a name, if there is one. -/
def ofName? (name : String) : Option Production := all.find? (·.name == name)

/-- A name finds its own production. -/
theorem ofName?_name (p : Production) : ofName? p.name = some p := by cases p <;> decide +kernel

/-- Names are distinct. -/
theorem name_injective {p q : Production} (h : p.name = q.name) : p = q := by
  have hq := ofName?_name q
  rw [← h, ofName?_name p] at hq
  exact Option.some.inj hq

end Production

end StatementShape.Statement
