import StatementShape.Sql.Grammar.Operator

/-!
# Sources

What rows come from: tables, calls, rows of values, queries in parentheses and lateral views, with
their aliases, samples, versions and pivots, and the joins between them.

## Main definitions

* `Rules.tableName`: the parts of a table's name
* `Rules.tableAlias`: the name a source gets, and the names of its columns
* `Rules.valueRows`: rows of values
* `Rules.source`: one source with all that belongs to it
* `Rules.joins`: the joins behind a source
-/

namespace StatementShape.Sql

open Sql.Parser

namespace Rules

variable (g : Rules)

/-! ### Names -/

/-- A part of a table's name: a name, a string or, where no columns follow, a call. -/
def tablePart (schema : Bool) : Parser (Option Expression) :=
  orElse? (whenever (!schema) g.tableCall) (orElse? (g.name false) stringName)

/-- Past versions of a table by what identifies them. -/
def history : Parser (Option Expression) := tentative do
  if (← acceptWord ["AT", "BEFORE", "END"]).isNone then return none
  if !(← accept .lParen) then return none
  if (← acceptWord ["OFFSET", "STATEMENT", "STREAM", "TIMESTAMP", "VERSION"]).isNone then
    return none
  if !(← accept .farrow) then return none
  match ← g.bitwise with
  | none => return none
  | some e =>
    expect .rParen
    some? .version [e]

/-- A list of items behind a pivot's `IN`. -/
def pivotValues : Parser (Option Expression) := do
  let column ← need (← g.column)
  expect .in_
  if ← accept .lParen then
    let any ← accept .any
    let items ← if any then pure (← g.order none).toList
      else commaList do
        let e ← g.queryOrExpression false
        let _ ← accept .as_
        let label ← g.bitwise
        return match e, label with
          | some e, some a => some (.node .aliased [e, a])
          | e, _ => e
    expect .rParen
    some? .in_ (column :: items)
  else some? .in_ (column :: (← g.name true).toList)

/-- The names of a source: its own and those of its columns. -/
structure AliasNames where
  name : Option Expression
  columns : List Expression

/-- The names of a source, if it gets any. -/
def aliasNames (kinds : TokenKind → Bool) : Parser (Option AliasNames) := do
  if ← g.boundAhead then return none
  let said ← accept .as_
  let name ← orElse? (g.name said kinds) stringName
  let here ← get
  let columns ← if ← accept .lParen then do
      let columns ← commaList (do g.columnDef (← g.name true))
      if columns.isEmpty then set here else expect .rParen
      pure columns
    else pure []
  if name.isNone && columns.isEmpty then return none
  return some { name, columns }

/-- The alias of a source. -/
def tableAlias (kinds : TokenKind → Bool := TokenKind.isTableAlias) : Parser (Option Expression) :=
  return (← g.aliasNames kinds).map fun a => .node .tableAlias (a.name.toList ++ a.columns)

/-- A pivot: the aggregates or columns, and the values that become columns. -/
def pivot : Parser (Option Expression) := do
  let here ← get
  match ← acceptAny fun k => k = .pivot || k = .unpivot with
  | none => return none
  | some t =>
    if t.kind = .unpivot then
      let _ ← acceptWords ["INCLUDE", "NULLS"]
      let _ ← acceptWords ["EXCLUDE", "NULLS"]
    if !(← accept .lParen) then
      set here
      return none
    let items ← if t.kind = .unpivot then commaList g.column
      else commaList (do g.aliased false (← g.call))
    let items ← needSome items
    expect .for_
    let values ← many (attempt g.pivotValues)
    if ← acceptWords ["DEFAULT", "ON", "NULL"] then let _ ← wrapped g.bitwise
    expect .rParen
    let label ← if ← seesAny fun k => k = .pivot || k = .unpivot then pure none else g.tableAlias
    some? .pivot (items ++ values ++ label.toList)

/-- Pivots behind a source. -/
def pivots : Parser (List Expression) := many g.pivot

/-- A table's name of any number of parts. The second part may be missing between two dots. -/
def tableName (schema : Bool) : Parser Expression := do
  let first ← g.tablePart schema
  let (_, last) ← iterate (fun (dots, _) => do
    if ← accept .dot then
      let part ← g.tablePart schema
      if 2 ≤ dots && part.isNone then failure
      return some (dots + 1, part)
    else return none) (0, first)
  let name ← need last
  let version ← g.history
  let pivots ← g.pivots
  return .node .table ([name] ++ version.toList ++ pivots)

/-! ### Samples, hints and versions -/

/-- A sample of a source; as a clause of a query it may begin with `USING SAMPLE`. -/
def sample (asClause : Bool) : Parser (Option Expression) := do
  let begun ← accept .tableSample
  let begun ← if begun then pure true
    else if asClause then acceptWords ["USING", "SAMPLE"] else pure false
  if !begun then return none
  let _ ← orElse? (g.variable false) (do
    if ← accept .row then some? .var [] else return none)
  let opened ← accept .lParen
  let size ← if ← sees .number then g.factor else orElse? g.primary g.placeholder
  if ← acceptWords ["BUCKET"] then
    let _ ← accept .number
    let _ ← acceptWords ["OUT", "OF"]
    let _ ← accept .number
    if ← accept .on then let _ ← g.field
  else
    let _ ← acceptAny fun k => k = .percent || k = .mod || k = .rows
  if opened then expect .rParen
  if ← accept .lParen then
    let _ ← g.variable false
    if ← accept .comma then let _ ← accept .number
    expect .rParen
  else if (← acceptWord ["SEED", "REPEATABLE"]).isSome then
    wrapped do let _ ← accept .number
  some? .tableSample size.toList

/-- Hints about a table, in parentheses. -/
def tableHints : Parser (List Expression) := do
  if ← acceptPair .with_ .lParen then
    let hints ← commaList (orElse? g.call (g.variable true))
    expect .rParen
    return hints
  else
    many do
      match ← acceptAny fun k => k = .force || k = .ignore || k = .use with
      | none => return none
      | some _ =>
        let _ ← acceptAny fun k => k = .index || k = .key
        if ← accept .for_ then let _ ← anyWord
        some? .tableHint (← wrapped (commaList (g.name true)))

/-- The version of a table at a point or over a span of time. -/
def version : Parser (Option Expression) := do
  match ← acceptAny fun k => k = .timestampSnapshot || k = .versionSnapshot with
  | none => return none
  | some _ =>
    if (← acceptAny fun k => k = .from_ || k = .between).isSome then
      let first ← g.bitwise
      let _ ← acceptWord ["TO", "AND"]
      let second ← g.bitwise
      some? .version (first.toList ++ second.toList)
    else if ← acceptWords ["CONTAINED", "IN"] then
      some? .version (← wrapped (commaList g.bitwise))
    else if ← accept .all then some? .version []
    else
      let _ ← acceptWords ["AS", "OF"]
      some? .version (← g.operand).toList

/-- The partitions of a table. -/
def partitionClause : Parser (Option Expression) := do
  match ← acceptWord ["PARTITION", "SUBPARTITION"] with
  | none => return none
  | some _ => some? .partition (← wrapped (commaList g.disjunction))

/-! ### Values, lists and lateral views -/

/-- A row of values, in parentheses unless it is a single value. -/
def valueRow : Parser (Option Expression) := do
  if ← accept .lParen then
    let items ← commaList do
      if ← accept .default then some? .var [] else g.expression
    expect .rParen
    some? .tuple items
  else return (← g.expression).map fun e => .node .tuple [e]

/-- Rows of values, which parentheses may enclose together with their alias. -/
def valueRows : Parser (Option Expression) := do
  let enclosed ← acceptPair .lParen .values
  let begun ← if enclosed then pure true else acceptWords ["VALUES"]
  let begun ← if begun then pure true else acceptWords ["FORMAT", "VALUES"]
  if !begun then return none
  let rows ← needSome (← commaList g.valueRow)
  let label ← g.tableAlias
  if enclosed then expect .rParen
  let label ← match label with
    | some a => pure (some a)
    | none => g.tableAlias
  some? .values (rows ++ label.toList)

/-- The elements of lists as rows. -/
def unnested (nameable : Bool) : Parser (Option Expression) := do
  if !(← acceptPair .unnest .lParen) then return none
  let items ← commaList g.equality
  expect .rParen
  let numbered ← acceptPair .with_ .ordinality
  let label ← if nameable then g.tableAlias else pure none
  if !numbered then
    if ← acceptPair .with_ .offset then
      let _ ← accept .as_
      let _ ← g.name false
  some? .unnest ((← needSome items) ++ label.toList)

/-- What a lateral view is computed by, with its parts. -/
def lateralBody : Parser (Option Expression) := do
  let first ← orElse? (g.unnested true) (orElse? g.call (g.name false))
  iterate (fun e => do
    if ← accept .dot then
      let part ← orElse? g.call (g.name false)
      return some (some (.node .dot [← need e, ← need part]))
    else return none) first

/-- A lateral source, which may use the sources in front of it. -/
def lateral : Parser (Option Expression) := do
  let applied ← acceptPair .cross .apply
  let applied ← if applied then pure true else acceptPair .outer .apply
  let begun ← if applied then pure true else accept .lateral
  if !begun then return none
  let query ← g.query { table := true }
  let view ← if applied then pure false else accept .view
  if !applied then let _ ← accept .outer
  let body ← match query with
    | some q => pure (some q)
    | none => g.lateralBody
  let body ← need body
  if view then
    let name ← g.name false
    let columns ← if ← accept .as_ then commaList (g.name true) else pure []
    some? .lateral (body :: (name.toList ++ columns))
  else
    let _ ← acceptPair .with_ .ordinality
    some? .lateral (body :: (← g.tableAlias).toList)

/-! ### Joins -/

/-- The words in front of a join: how, on which side and which kind. -/
def joinWords : Parser (Option Token × Option Token × Option Token) := do
  let how ← acceptAny fun k => k = .asof || k = .natural || k = .positional
  let side ← acceptAny fun k => k = .left || k = .right || k = .full
  let kind ← acceptAny fun k => k = .anti || k = .cross || k = .inner || k = .outer || k = .semi
    || k = .straightJoin
  return (how, side, kind)

/-- The columns that two sources have in common. -/
def sharedColumns : Parser (List Expression) := wrappedIfOpen (commaList g.column)

/-- The condition of a join. -/
def joinCondition : Parser (Option (List Expression)) := do
  if ← accept .on then return some (← g.disjunction).toList
  else if ← accept .using then return some (← g.sharedColumns)
  else return none

/-- A join: a comma, or `JOIN` with the words in front of it. A comma with no source behind it
joins nothing. Where a join has no condition of its own, the joins behind it may come first. -/
def join : Nat → Parser (Option Expression)
  | 0 => return none
  | fuel + 1 => do
    if ← accept .comma then
      match ← attempt (g.table {}) with
      | some t => some? .join [t]
      | none => return none
    else
      let here ← get
      let (how, _, kind) ← joinWords
      let _ ← acceptWords ["DIRECTED"]
      let joined ← accept .join
      let joined := joined || kind.any (·.kind = .straightJoin)
      if !joined then set here
      let applied ← ahead do
        if ← acceptPair .outer .apply then return some ()
        else if ← acceptPair .cross .apply then return some ()
        else return none
      if !joined && !applied then return none
      let table ← need (← g.table {})
      if ← accept .matchCondition then let _ ← wrapped g.bitwise
      let condition ← g.joinCondition
      let parts ← match condition with
        | some parts => pure parts
        | none =>
          let free := joined && how.isNone && table.kind != .unnest && !kind.any (·.kind = .cross)
          if free then do
            let here ← get
            let inner ← many (join fuel)
            let condition ← if inner.isEmpty then pure none else g.joinCondition
            match condition with
            | some parts => pure (inner ++ parts)
            | none => set here; pure []
          else pure []
      let pivots ← g.pivots
      some? .join (table :: (parts ++ pivots))

/-- Joins behind a source. -/
def joins : Parser (List Expression) := fun ts => many (g.join (ts.length + 1)) ts

/-! ### Tables -/

/-- Parts of a tree added behind the others. -/
def withParts (e : Expression) (more : List Expression) : Expression :=
  .node e.kind (e.parts ++ more)

/-- A table by name, with all that may follow its name. -/
def namedTable (form : TableForm) : Parser (Option Expression) := do
  let rows ← if ← acceptWords ["ROWS", "FROM"] then wrapped (commaList (g.table {})) else pure []
  let _ ← accept .only
  let table ← if rows.isEmpty then do
      let name ← g.tableName form.schema
      need (← g.subscripts false (some name))
    else pure (.node .table rows)
  let _ ← acceptWords ["*"]
  let table ← if form.partitions || g.conventions.tablePartitions then do
      if ← sees .partition then pure (withParts table (← g.partitionClause).toList)
      else pure table
    else pure table
  if form.schema then return ← g.schema (some table)
  let version ← g.version
  let before ← if g.conventions.sampleBeforeAlias then g.sample false else pure none
  let label ← g.tableAlias form.aliasKinds
  if ← accept .indexedBy then
    let _ ← g.tableName false
  else
    let _ ← acceptWords ["NOT", "INDEXED"]
  if ← acceptWords ["AT"] then
    return some (.node (.call "atindex") [table, ← need (← g.name true)])
  let hints ← g.tableHints
  let pivots ← g.pivots
  let behind ← if g.conventions.sampleBeforeAlias then pure none else g.sample false
  let joins ← if form.joins then g.joins else pure []
  let label ← if ← acceptPair .with_ .ordinality then g.tableAlias else pure label
  let clauses := version.toList ++ before.toList ++ label.toList ++ hints ++ pivots
    ++ behind.toList ++ joins
  return some (withParts table clauses)

/-- A source. -/
def source (form : TableForm) : Parser (Option Expression) := do
  match ← orElse? g.lateral (orElse? (g.unnested true) g.valueRows) with
  | some e => return some e
  | none =>
    match ← g.query { table := true } with
    | some q => return some (withParts q (← g.pivots))
    | none => g.namedTable form

end Rules

end StatementShape.Sql
