import StatementShape.Sql.Dialect
import StatementShape.Sql.Parser

/-!
# The rules of the grammar that refer back

Expressions hold queries, queries hold expressions, and statements hold both. The rules through
which the grammar returns to itself are collected in one record; the rules of a stage are defined
from those of the stage before, and nesting is bounded by the number of stages.

## Main definitions

* `QueryForm`, `TypeForm`, `TableForm`: the circumstances in which queries, types and tables are
  read
* `Rules`: the record
* `Rules.refuse`: the stage before the first
-/

namespace StatementShape.Sql

/-- How a query is read: whether parentheses around it are its own, whether they may hold a
table, whether it may be named behind them, and whether set operators may follow. -/
structure QueryForm where
  nested : Bool := false
  table : Bool := false
  nameable : Bool := true
  setOperations : Bool := true

/-- How a type is read: whether it must not be a call, whether it stands in a column definition,
and whether a bare name may be a type. -/
structure TypeForm where
  notCall : Bool := false
  inSchema : Bool := false
  names : Bool := true

/-- How a table is read: whether columns may follow it in parentheses, whether joins may, whether
its name is that of a schema, whether partitions may follow, and which words can name it. -/
structure TableForm where
  schema : Bool := false
  joins : Bool := false
  ofSchema : Bool := false
  partitions : Bool := false
  aliasKinds : TokenKind → Bool := TokenKind.isTableAlias

/-- The rules of one stage. -/
structure Rules where
  dialect : Dialect
  /-- A statement. -/
  statement : Parser (Option Expression)
  /-- A query. -/
  query : QueryForm → Parser (Option Expression)
  /-- Set operators behind a query. -/
  setOperations : Option Expression → Parser (Option Expression)
  /-- Clauses behind a query. -/
  modifiers : Option Expression → Parser (Option Expression)
  /-- A query that was read in parentheses, with what may follow inside them. -/
  subquery : Option Expression → Parser (Option Expression)
  /-- An expression that may be named. -/
  expression : Parser (Option Expression)
  /-- An expression without a name, by the operators it may hold. -/
  assignment : Parser (Option Expression)
  disjunction : Parser (Option Expression)
  equality : Parser (Option Expression)
  bitwise : Parser (Option Expression)
  term : Parser (Option Expression)
  factor : Parser (Option Expression)
  unary : Parser (Option Expression)
  operand : Parser (Option Expression)
  /-- A type. -/
  dataType : TypeForm → Parser (Option Expression)
  /-- A table in a source. -/
  table : TableForm → Parser (Option Expression)
  /-- Columns in parentheses behind a table. -/
  schema : Option Expression → Parser (Option Expression)
  /-- The type and constraints behind a column name. -/
  columnDef : Option Expression → Parser (Option Expression)

/-- The choices of the dialect. -/
def Rules.conventions (g : Rules) : Conventions := g.dialect.conventions

/-- The stage before the first refuses everything. -/
def Rules.refuse (d : Dialect) : Rules where
  dialect := d
  statement := failure
  query := fun _ => failure
  setOperations := fun _ => failure
  modifiers := fun _ => failure
  subquery := fun _ => failure
  expression := failure
  assignment := failure
  disjunction := failure
  equality := failure
  bitwise := failure
  term := failure
  factor := failure
  unary := failure
  operand := failure
  dataType := fun _ => failure
  table := fun _ => failure
  schema := fun _ => failure
  columnDef := fun _ => failure

end StatementShape.Sql
