import StatementShape.Sql.Grammar.Name

/-!
# Order, limits and aliases

`ORDER BY`, `LIMIT`, `FETCH` and `OFFSET` stand behind queries and inside calls alike. A limit also
decides what an alias is: `LIMIT` and `OFFSET` name what is in front of them only where they cannot
be clauses.

## Main definitions

* `Rules.order`, `Rules.limit`, `Rules.offset`: clauses that take what is in front of them
* `Rules.boundAhead`: whether a limit or an offset can be read here
* `Rules.aliased`: an expression with its alias
-/

namespace StatementShape.Sql

open Sql.Parser

namespace Rules

variable (g : Rules)

/-- An item of an order, with its direction and the place of nulls. -/
def orderItem : Parser (Option Expression) := do
  match ← g.disjunction with
  | none => return none
  | some e =>
    let _ ← accept .asc
    let _ ← accept .desc
    let _ ← acceptWords ["NULLS", "FIRST"]
    let _ ← acceptWords ["NULLS", "LAST"]
    some? .ordered [e]

/-- An order behind something, or that alone. -/
def order (before : Option Expression) : Parser (Option Expression) := do
  if ← accept .orderBy then
    some? .order (before.toList ++ (← needSome (← commaList g.orderItem)))
  else return before

/-- What a limit may say behind its number. -/
def limitOptions : Parser Unit := do
  let _ ← acceptAny fun k => k = .percent || k = .mod
  let _ ← acceptAny fun k => k = .row || k = .rows
  let _ ← acceptWords ["ONLY"]
  let _ ← acceptWords ["WITH", "TIES"]

/-- The expressions by which a limit counts. -/
def limitBy : Parser (List Expression) := do
  if ← acceptWords ["BY"] then commaList g.bitwise else return []

/-- The number of a limit, in front of a percent sign that is no operator. -/
def limitCount : Parser (Option Expression) := do
  let here ← get
  match ← attempt g.term with
  | some e => if e.kind = .mod then set here; g.factor else return some e
  | none => g.factor

/-- A limit behind something, or that alone. -/
def limit (before : Option Expression) : Parser (Option Expression) := do
  if ← accept .limit then
    let first ← g.limitCount
    limitOptions
    let count ← if ← accept .comma then g.term else pure first
    let by_ ← g.limitBy
    some? .limit (before.toList ++ [← need count] ++ by_)
  else if ← accept .fetch then
    let _ ← acceptAny fun k => k = .first || k = .next
    let count ← match ← peekKind with
      | some .row | some .rows => pure none
      | _ => g.operand
    limitOptions
    some? .fetch count.toList
  else return before

/-- An offset behind something, or that alone. -/
def offset (before : Option Expression) : Parser (Option Expression) := do
  if ← accept .offset then
    let count ← g.term
    let _ ← acceptAny fun k => k = .row || k = .rows
    let by_ ← g.limitBy
    some? .offset (before.toList ++ [← need count] ++ by_)
  else return before

/-- Whether a limit or an offset can be read here. -/
def boundAhead : Parser Bool := do
  if ← seesAny fun k => k = .limit || k = .offset then
    if ← ahead (g.limit none) then return true
    ahead (g.offset none)
  else return false

/-- An alias behind an expression, or that alone. Several names stand in parentheses. Behind
`AS` any word is a name; an `explicit` alias must have it. -/
def aliased (explicit : Bool) (e : Option Expression) : Parser (Option Expression) := do
  if ← g.boundAhead then return e
  let said ← accept .as_
  if explicit && !said then return e
  if ← accept .lParen then
    let names ← commaList (g.name said)
    expect .rParen
    some? .aliases ((← need e) :: (← needSome names))
  else
    let asString := whenever g.conventions.stringAliases stringName
    match ← orElse? (g.name said) asString with
    | some name => some? .aliased [← need e, name]
    | none => return e

/-- The expression of a condition such as `WHERE`. -/
def condition (kind : ExpressionKind) : Parser (Option Expression) := do
  some? kind [← need (← g.assignment)]

/-- A `WHERE` clause. -/
def whereClause : Parser (Option Expression) := do
  if ← accept .where_ then g.condition .where_ else return none

end Rules

end StatementShape.Sql
