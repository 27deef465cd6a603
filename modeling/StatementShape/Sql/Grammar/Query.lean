import StatementShape.Sql.Grammar.Source

/-!
# Queries

A query is a selection, rows of values, or a query in parentheses, with common table expressions in
front of it, clauses behind it, and set operators between queries. A selection may begin with its
source.

## Main definitions

* `Rules.commonTables`: `WITH` and its common table expressions
* `Rules.clauses`: the clauses behind a query, each at most once
* `Rules.setOperators`: set operators from left to right, where `INTERSECT` binds tighter
* `Rules.readQuery`: queries
-/

namespace StatementShape.Sql

open Sql.Parser

namespace Rules

variable (g : Rules)

/-! ### Common table expressions -/

/-- A common table expression: its name, `AS`, and a statement in parentheses. Without `AS`
nothing is read. -/
def commonTable : Parser (Option Expression) := tentative do
  let names ← need (← g.aliasNames TokenKind.isName)
  let name ← need names.name
  if ← acceptWords ["USING", "KEY"] then let _ ← wrapped (commaList (g.name true))
  let said ← accept .as_
  if !said && !g.conventions.optionalAs then return none
  let not_ ← acceptWords ["NOT", "MATERIALIZED"]
  if !not_ then let _ ← acceptWords ["MATERIALIZED"]
  let body ← wrapped g.statement
  some? .cte ([← need body, name] ++ names.columns)

/-- Common table expressions, between commas or further `WITH`s. -/
def commonTables : Parser (Option Expression) := do
  if !(← accept .with_) then return none
  let _ ← accept .recursive
  let first ← g.commonTable
  let tables ← iterate (fun tables => do
    let more ← if ← accept .comma then do
        let _ ← accept .with_
        pure true
      else accept .with_
    if more then return some (tables ++ (← g.commonTable).toList) else return none) first.toList
  some? .with_ (← needSome tables)

/-- A query without the parentheses around it, if they enclose nothing else. -/
def unwrapped : Expression → Expression
  | .node .subquery [e] => unwrapped e
  | e => e

/-! ### Clauses -/

/-- Grouping by all combinations or by prefixes. -/
def groupingCombination (bare : Bool) : Parser (Option Expression) := do
  match ← acceptAny fun k => k = .cube || k = .rollup with
  | none => return none
  | some _ => if bare then some? .group [] else some? .group (← wrapped (commaList g.bitwise))

/-- Grouping sets, one inside the other. -/
def groupingSets : Nat → Parser (Option Expression)
  | 0 => return none
  | fuel + 1 => do
    if ← accept .groupingSets then
      let item := orElse? (groupingSets fuel) (orElse? (g.groupingCombination false) g.bitwise)
      some? .group (← wrapped (commaList item))
    else return none

/-- A part of a grouping: expressions, and then combinations, sets or totals. The flag says
whether more may follow. -/
def groupingPart (parts : List Expression) : Parser (List Expression × Bool) := do
  let start ← get
  let items ← commaList do
    if ← seesAny fun k => k = .cube || k = .rollup then return none else g.assignment
  let here ← get
  let bare ← accept .with_
  let combination ← orElse? (g.groupingCombination bare) (g.groupingSets here.length)
  if combination.isNone then let _ ← acceptWords ["TOTALS"]
  let behind ← get
  if here.length ≤ behind.length + 1 then
    set here
    return (parts ++ items, false)
  else
    return (parts ++ items ++ combination.toList, behind.length < start.length)

/-- A grouping, which may be empty. -/
def grouping : Parser (Option Expression) := do
  if !(← accept .groupBy) then return none
  let _ ← acceptAny fun k => k = .all || k = .distinct
  let (parts, _) ← iterate (fun (parts, more) => do
    if more then return some (← g.groupingPart parts) else return none) ([], true)
  some? .group parts

/-- Locks on the rows of a query. -/
def lock : Parser (Option Expression) := do
  let begun ← acceptAnyWords [["FOR", "UPDATE"], ["FOR", "SHARE"], ["LOCK", "IN", "SHARE", "MODE"],
    ["FOR", "KEY", "SHARE"], ["FOR", "NO", "KEY", "UPDATE"]]
  if !begun then return none
  let tables ← if ← acceptWords ["OF"] then commaList (g.table { schema := true }) else pure []
  if ← acceptWords ["WAIT"] then
    let _ ← g.primary
  else
    let _ ← acceptAnyWords [["NOWAIT"], ["SKIP", "LOCKED"]]
  some? .lock tables

/-- A condition on the ancestors of a row: comparisons whose operands may be those of the parent
row. -/
def ancestry : Parser (Option Expression) :=
  let operand : Parser (Option Expression) := do
    let _ ← acceptWords ["PRIOR"]
    g.comparison
  let equality := chain (fun k => match k with
    | .eq => some .eq
    | .neq => some .neq
    | _ => none) operand
  chain (fun k => match k with
    | .and => some .and
    | .or => some .or
    | _ => none) equality

/-- A hierarchy of rows: where it starts, and how rows connect. -/
def hierarchy : Parser (Option Expression) := do
  let start ← if ← accept .startWith then g.assignment else pure none
  let _ ← accept .connectBy
  let _ ← acceptWords ["NOCYCLE"]
  let connect ← need (← g.ancestry)
  let start ← if start.isNone && (← accept .startWith) then g.assignment else pure start
  some? .connect (connect :: start.toList)

/-- Options of a query in parentheses. -/
def queryOptions : Parser (Option Expression) := do
  let _ ← wrapped (many do if ← sees .rParen then return none else take)
  some? .hint []

/-- A list of orders by which rows are spread or sorted. -/
def spread (kind : ExpressionKind) : Parser (Option Expression) := do
  some? kind (← needSome (← commaList g.orderItem))

/-- The clause that begins with a kind of token: its kind, and how it is read, its first token
included. -/
def clause? (k : TokenKind) : Option (ExpressionKind × Parser (Option Expression)) :=
  match k with
  | .where_ => some (.where_, g.whereClause)
  | .groupBy => some (.group, g.grouping)
  | .having => some (.having, do skip 1; g.condition .having)
  | .qualify => some (.qualify, do skip 1; g.condition .qualify)
  | .window => some (.windowClause, do
      skip 1
      some? .windowClause (← needSome (← commaList g.namedWindow)))
  | .orderBy => some (.order, g.order none)
  | .limit | .fetch => some (.limit, g.limit none)
  | .offset => some (.offset, g.offset none)
  | .for_ | .lock => some (.lock, do
      let locks ← many g.lock
      if locks.isEmpty then return none else some? .lock locks)
  | .tableSample | .using => some (.tableSample, g.sample true)
  | .clusterBy => some (.cluster, do skip 1; g.spread .cluster)
  | .distributeBy => some (.distribute, do skip 1; g.spread .distribute)
  | .sortBy => some (.sort, do skip 1; g.spread .sort)
  | .connectBy | .startWith => some (.connect, g.hierarchy)
  | .option => some (.hint, do skip 1; queryOptions)
  | _ => none

/-- Whether a tree has a clause of a kind. A fetch is a limit. -/
def hasClause (e : Expression) (kind : ExpressionKind) : Bool :=
  e.parts.any fun p => p.kind = kind || (kind = .limit && p.kind = .fetch)

/-- The clauses behind a query: joins, lateral views, and clauses of which none may stand
twice. -/
def clauses (e? : Option Expression) : Parser (Option Expression) := do
  match e? with
  | none => return none
  | some e =>
    if !e.kind.takesModifiers then return some e
    let joins ← g.joins
    let laterals ← many g.lateral
    let e := withParts e (joins ++ laterals)
    let e ← iterate (fun e => do
      match (← peekKind).bind g.clause? with
      | none => return none
      | some (kind, rule) =>
        match ← rule with
        | none => return none
        | some clause =>
          if hasClause e kind then failure
          return some (withParts e [clause])) e
    return some e

/-! ### Set operations -/

/-- A set operator with its words, which reads the query behind it; `wanted` tells which
operators count here. -/
def setOperator (wanted : TokenKind → Bool) (left : Expression) : Parser (Option Expression) := do
  let here ← get
  let _ ← joinWords
  match ← acceptAny fun k => wanted k && (k = .union || k = .except || k = .intersect) with
  | none =>
    set here
    return none
  | some t =>
    let quantified ← acceptAny fun k => k = .distinct || k = .all
    if quantified.isNone && g.conventions.explicitDistinct then failure
    let byName ← acceptWords ["BY", "NAME"]
    let byName ← if byName then pure true else do
      let _ ← acceptWords ["STRICT"]
      acceptWords ["CORRESPONDING"]
    if byName then
      if (← acceptWord ["ON", "BY"]).isSome then
        let _ ← wrapped (commaList g.column)
    let right ← g.query { nested := true, setOperations := false }
    let kind : ExpressionKind := match t.kind with
      | .union => .union
      | .except => .except
      | _ => .intersect
    operation kind left right

/-- Intersections behind a query. -/
def intersections (left : Expression) : Parser Expression :=
  iterate (g.setOperator (· == .intersect)) left

/-- Set operations behind a query, from left to right. The right side of a union or a difference
takes the intersections behind it. -/
def setOperators (e? : Option Expression) : Parser (Option Expression) := do
  match e? with
  | none => return none
  | some e =>
    let e ← iterate (fun e => do
      match ← g.setOperator (fun _ => true) e with
      | none => return none
      | some (.node kind [l, r]) =>
        if kind = .intersect then return some (.node kind [l, r])
        else return some (.node kind [l, ← g.intersections r])
      | some other => return some other) e
    return some e

/-! ### Selections -/

/-- The source of a query. -/
def fromClause (joins : Bool) : Parser (Option Expression) := do
  if ← accept .from_ then some? .from_ [← need (← g.table { joins })] else return none

/-- The table that a selection fills. -/
def intoClause : Parser (Option Expression) := do
  if !(← accept .into) then return none
  let _ ← accept .temporary
  let _ ← acceptWords ["UNLOGGED"]
  let _ ← accept .table
  some? .into [← need (← g.table { schema := true })]

/-- The number of rows to select, in front of the columns. -/
def topClause : Parser (Option Expression) := do
  if !(← accept .top) then return none
  let count ← if ← sees .lParen then wrapped g.term
    else do if ← accept .number then some? .literal [] else return none
  limitOptions
  some? .limit [← need count]

/-- A selection whose `SELECT` has been taken, with a source that may have been read before. -/
def selection (from? : Option Expression) : Parser (Option Expression) := do
  let _ ← accept .hint
  let quantified := (← secondKind).any (· != .dot)
  let all ← if quantified then accept .all else pure false
  let distinct ← if quantified then accept .distinct else pure false
  if ← accept .as_ then let _ ← acceptWord ["STRUCT", "VALUE"]
  let on_ ← if distinct && (← accept .on) then g.valueRow else pure none
  if all && distinct then failure
  let top ← g.topClause
  let columns ← commaList g.expression
  let into_ ← g.intoClause
  let from? ← match from? with
    | some f => pure (some f)
    | none => g.fromClause false
  g.clauses (some (.node .select
    (on_.toList ++ top.toList ++ columns ++ into_.toList ++ from?.toList)))

/-- A query in parentheses with what may follow it inside: pivots and a sample, or outside: an
alias too. -/
def parenthesizedQuery (nameable : Bool) (e? : Option Expression) : Parser (Option Expression) := do
  match e? with
  | none => return none
  | some e =>
    let pivots ← g.pivots
    let label ← if nameable then g.tableAlias else pure none
    let sample ← g.sample false
    some? .subquery (e :: (pivots ++ label.toList ++ sample.toList))

/-- What stands in the parentheses of a query or a source. -/
def enclosed (table : Bool) : Parser (Option Expression) := do
  if ← sees .from_ then
    let from? ← g.fromClause false
    let e ← if ← accept .select then g.selection from?
      else pure (some (.node .select from?.toList))
    g.clauses (← g.setOperators e)
  else
    let e ← if table then g.table {} else g.query { nested := true, setOperations := false }
    g.clauses (← g.setOperators e)

/-- A summary of a table or a query. -/
def summary : Parser (Option Expression) := do
  let _ ← accept .table
  let e ← orElse? (g.query {}) (orElse? stringLiteral (g.table {}))
  some? .summarize [← need e]

/-- A query without common table expressions, in parentheses or not. -/
def plainQuery (form : QueryForm) : Parser (Option Expression) := do
  let from? ← g.fromClause true
  if ← accept .select then
    finish (← g.selection from?)
  else
    let opened ← if form.table || form.nested then accept .lParen else pure false
    if opened then
      let e ← g.enclosed form.table
      expect .rParen
      g.parenthesizedQuery form.nameable e
    else if ← sees .values then finish (← g.valueRows)
    else if from?.isSome then finish (← g.clauses (some (.node .select from?.toList)))
    else if ← accept .summarize then g.summary
    else if ← sees .describe then finish (← g.statement)
    else return none
where
  /-- Set operators behind a query, where they are wanted. -/
  finish (e : Option Expression) : Parser (Option Expression) :=
    if form.setOperations then g.setOperators e else return e

/-- A query. Common table expressions need a statement behind them that can use them. -/
def readQuery (form : QueryForm) : Parser (Option Expression) := do
  match ← g.commonTables with
  | none => g.plainQuery form
  | some tables =>
    let e := unwrapped (← need (← g.statement))
    if e.kind.takesWith then return some (.node e.kind (tables :: e.parts)) else failure

/-- The query of a definition, whose parentheses take no alias. -/
def definingQuery : Parser (Option Expression) := do
  g.clauses (← g.setOperators (← g.query { nested := true, nameable := false }))

end Rules

end StatementShape.Sql
