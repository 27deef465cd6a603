import StatementShape.Sql.Grammar.Definition

/-!
# Statements

A statement is known by its first token. Statements that go on in a way that is not known here are
commands, as are those whose words take the rest of the text; any expression or query is a statement
too.

## Main definitions

* `Rules.insertStatement`, `Rules.mergeStatement`, …: the statements by kind
* `Rules.statementRule?`: the statement that begins with a kind of token
* `Rules.readStatement`: statements
-/

namespace StatementShape.Sql

open Sql.Parser

namespace Rules

variable (g : Rules)

/-! ### Changing rows -/

/-- The columns that a change of rows answers. -/
def returning : Parser (Option Expression) := do
  if ← accept .returning then
    let columns ← needSome (← commaList g.expression)
    let into_ ← if ← accept .into then g.tablePart false else pure none
    some? .returning (columns ++ into_.toList)
  else return none

/-- What is done on a conflict. -/
def conflictAction : Parser Bool := do
  if ← acceptAnyWords [["DO", "NOTHING"], ["ABORT"], ["FAIL"], ["IGNORE"], ["REPLACE"],
      ["ROLLBACK"]] then return false
  else if ← acceptAnyWords [["DO", "UPDATE"], ["UPDATE"]] then return true
  else failure

/-- Conflicts with rows that exist. -/
def onConflict : Parser (Option Expression) := do
  let conflict ← acceptWords ["ON", "CONFLICT"]
  let duplicate ← if conflict then pure false else acceptWords ["ON", "DUPLICATE", "KEY"]
  if !conflict && !duplicate then return none
  let keys ← if !conflict then pure []
    else if ← acceptWords ["ON", "CONSTRAINT"] then pure (← g.name true).toList
    else if ← sees .lParen then wrapped (commaList (do g.orderItem))
    else pure []
  let wherein ← g.whereClause
  let updates ← conflictAction
  let changes ← if updates then do
      let _ ← accept .set
      commaList g.equality
    else pure []
  let condition ← g.whereClause
  some? .onConflict (keys ++ wherein.toList ++ changes ++ condition.toList)

/-- The table that rows go into, with its columns, partition and alias. -/
def insertTarget : Parser Expression := do
  let table ← need (← g.table { schema := true, partitions := true })
  if ← sees .as_ then return withParts table (← g.tableAlias).toList else return table

/-- A directory that rows go into. -/
def directory : Parser Expression := do
  let path ← orElse? (g.variable false) stringLiteral
  if ← acceptWords ["ROW", "FORMAT"] then let _ ← g.rowFormat
  return .node .property path.toList

/-- Rows for one of several tables, under a condition or in any other case. -/
def conditionalInsert : Parser (Option Expression) := do
  let condition ← if ← accept .when then do
      let e ← g.disjunction
      let _ ← accept .then_
      pure e
    else pure none
  let _ ← accept .else_
  if !(← accept .into) then return none
  let target ← need (← g.table { schema := true })
  let rows ← g.valueRows
  some? .insert (target :: (rows.toList ++ condition.toList))

/-- Insertion into several tables, behind its first words. -/
def insertIntoSeveral : Parser (Option Expression) := do
  let branches ← needSome (← many g.conditionalInsert)
  let source ← need (← g.table {})
  some? .multitableInserts (branches ++ [source])

/-- Insertion, behind its first word. -/
def insertStatement : Parser (Option Expression) := do
  let _ ← accept .hint
  let _ ← accept .overwrite
  let _ ← accept .ignore
  let _ ← acceptWords ["LOCAL"]
  let toDirectory ← acceptWords ["DIRECTORY"]
  if !toDirectory && (← acceptAny fun k => k = .first || k = .all).isSome then
    return ← g.insertIntoSeveral
  let target ← if toDirectory then g.directory
    else do
      if ← accept .or then
        let _ ← acceptWord ["ABORT", "FAIL", "IGNORE", "REPLACE", "ROLLBACK"]
      let _ ← accept .into
      let _ ← accept .table
      if ← accept .function then need (← g.call) else g.insertTarget
  let answered ← g.returning
  if ← acceptWords ["STORED"] then
    let _ ← accept .as_
    let _ ← g.name true
  let _ ← acceptWords ["BY", "NAME"]
  let _ ← exists? false
  let replaced ← if ← acceptPair .replace .where_ then g.assignment else pure none
  if ← accept .partitionBy then let _ ← orElse? (g.schema none) g.bitwise
  let _ ← acceptWords ["DEFAULT", "VALUES"]
  let rows ← orElse? g.valueRows g.definingQuery
  let conflict ← g.onConflict
  let answered ← match answered with
    | some r => pure (some r)
    | none => g.returning
  let source ← if ← accept .table then g.table {} else pure none
  some? .insert (target :: (replaced.toList ++ rows.toList ++ conflict.toList ++ answered.toList
    ++ source.toList))

/-- Words of an update that can name its table: all but the one in front of its changes. -/
def isUpdateAlias (k : TokenKind) : Bool := k.isTableAlias && k != .set

/-- A part of an update: its changes, its sources or its condition. -/
def updatePart : Parser (Option (List Expression)) := do
  match ← peekKind with
  | some .set =>
    skip 1
    return some (← commaList g.equality)
  | some .returning => return some (← g.returning).toList
  | some .from_ => return some (← g.fromClause true).toList
  | some .where_ => return some (← g.whereClause).toList
  | some .orderBy => return some (← g.order none).toList
  | some .limit => return some (← g.limit none).toList
  | _ => return none

/-- Update, behind its first word. -/
def updateStatement : Parser (Option Expression) := do
  let table ← need (← g.table { joins := true, aliasKinds := isUpdateAlias })
  let parts ← many g.updatePart
  some? .update (table :: parts.flatten)

/-- Deletion, behind its first word. -/
def deleteStatement : Parser (Option Expression) := do
  let _ ← accept .hint
  let tables ← if ← sees .from_ then pure [] else commaList (g.table {})
  let answered ← g.returning
  let source ← if ← accept .from_ then g.table { joins := true } else pure none
  let using_ ← if ← accept .using then commaList (g.table { joins := true }) else pure []
  let condition ← g.whereClause
  let answered ← match answered with
    | some r => pure (some r)
    | none => g.returning
  let order ← g.order none
  let limit ← g.limit none
  some? .delete (tables ++ source.toList ++ using_ ++ condition.toList ++ answered.toList
    ++ order.toList ++ limit.toList)

/-- What is done with a row that matches, or does not. -/
def mergeAction : Parser (List Expression) := do
  if ← accept .insert then
    if ← accept .star then return [.node .insert []]
    let columns ← if ← acceptWords ["ROW"] then pure none else g.valueRow
    let values ← if ← acceptWords ["VALUES"] then g.valueRow else pure none
    return [.node .insert (columns.toList ++ values.toList)]
  else if ← accept .update then
    if ← accept .star then return [.node .update []]
    let changes ← if ← accept .set then commaList g.equality else pure []
    return [.node .update changes]
  else if ← accept .delete then return [.node .var []]
  else
    let _ ← conflictAction
    return [.node .var []]

/-- A branch of a merge. -/
def mergeBranch : Parser (Option Expression) := do
  if !(← accept .when) then return none
  let _ ← accept .not
  let _ ← acceptWords ["MATCHED"]
  let _ ← acceptAnyWords [["BY", "TARGET"], ["BY", "SOURCE"]]
  let condition ← if ← accept .and then g.assignment else pure none
  let _ ← accept .then_
  some? .when_ (condition.toList ++ (← g.mergeAction))

/-- Merging, behind its first word. At least one branch is needed. -/
def mergeStatement : Parser (Option Expression) := do
  let _ ← accept .into
  let target ← need (← g.table {})
  let target ← if ← sees .as_ then pure (withParts target (← g.tableAlias).toList)
    else pure target
  let _ ← accept .using
  let source ← need (← g.table {})
  let condition ← if ← accept .on then g.assignment else pure none
  let shared ← if ← accept .using then g.sharedColumns else pure []
  let branches ← needSome (← many g.mergeBranch)
  let answered ← g.returning
  some? .merge ([target, source] ++ condition.toList ++ shared ++ branches ++ answered.toList)

/-- Emptying tables, behind its first word, which can also be the name of a function. -/
def truncateStatement : Parser (Option Expression) := do
  if ← accept .lParen then
    let args ← commaList (g.argument true)
    expect .rParen
    g.windowed (some (.node .anonymous args))
  else
    let _ ← accept .database
    let _ ← accept .table
    let _ ← exists? false
    let tables ← commaList (g.table { schema := true })
    if ← accept .on then let _ ← g.schema (← g.name true)
    let _ ← acceptAnyWords [["RESTART", "IDENTITY"], ["CONTINUE", "IDENTITY"]]
    let _ ← acceptAnyWords [["CASCADE"], ["RESTRICT"]]
    let partition ← g.partitionClause
    if ← atEnd then some? .truncateTable (tables ++ partition.toList) else restAsCommand

/-! ### Sessions -/

/-- An item of settings: a name with its value, or characteristics of transactions. Nothing is
read where a value is missing that the dialect needs. -/
def settingItem : Parser (Option Expression) := tentative do
  let _ ← acceptWord ["GLOBAL", "LOCAL", "SESSION"]
  if ← acceptWords ["TRANSACTION"] then
    let parts ← commaList do
      if ← acceptAnyWords [["ISOLATION", "LEVEL", "REPEATABLE", "READ"],
          ["ISOLATION", "LEVEL", "READ", "COMMITTED"],
          ["ISOLATION", "LEVEL", "READ", "UNCOMMITTED"], ["ISOLATION", "LEVEL", "SERIALIZABLE"],
          ["READ", "WRITE"], ["READ", "ONLY"]] then some? .var [] else failure
    some? .setItem parts
  else
    match ← orElse? g.primary g.column with
    | none => return none
    | some left =>
      let said ← acceptWord ["=", ":=", "TO"]
      if said.isNone && g.conventions.settingsNeedSign then return none
      let right ← orElse? g.statement (g.name true)
      some? .setItem [left, ← need right]

/-- Settings, behind their first word: what cannot be read to its end is a command. -/
def setStatement : Parser (Option Expression) := do
  let items ← commaList g.settingItem
  if ← atEnd then some? .set items else restAsCommand

/-- The database or role to use, behind the first word. -/
def useStatement : Parser (Option Expression) := do
  let _ ← acceptAnyWords [["SECONDARY", "ROLES"], ["ROLE"], ["WAREHOUSE"], ["DATABASE"],
    ["SCHEMA"], ["CATALOG"]]
  some? .use (← g.table {}).toList

/-- A transaction begins, behind its first word. -/
def transactionStatement : Parser (Option Expression) := do
  let _ ← acceptWord ["DEFERRED", "IMMEDIATE", "EXCLUSIVE"]
  let _ ← acceptWord ["TRANSACTION", "WORK"]
  let _ ← commaItems (do
    let words ← many (acceptAny (· == .var))
    if words.isEmpty then return none else return some words)
  some? .transaction []

/-- A transaction ends, behind its first word. -/
def transactionEnd (kind : ExpressionKind) : Parser (Option Expression) := do
  let _ ← acceptWord ["TRANSACTION", "WORK"]
  let point ← if ← acceptWords ["TO"] then do
      let _ ← acceptWords ["SAVEPOINT"]
      g.name true
    else pure none
  if ← accept .and then
    let _ ← acceptWords ["NO"]
    let _ ← acceptWords ["CHAIN"]
  some? kind point.toList

/-- Ending a connection or a query, behind the first word. -/
def killStatement : Parser (Option Expression) := do
  let _ ← acceptWord ["CONNECTION", "QUERY"]
  some? .kill [← need (← g.primary)]

/-- A pragma, behind its first word. -/
def pragmaStatement : Parser (Option Expression) := do
  some? .pragma [← need (← g.expression)]

/-- Databases that are attached or detached, behind the first word. -/
def attachStatement (kind : ExpressionKind) : Parser (Option Expression) := do
  let _ ← accept .database
  let _ ← exists? (kind = .attach)
  let what ← orElse? g.primary (g.variable true)
  let what ← g.aliased true what
  let options ← if ← sees .lParen then wrapped (commaList do
      match ← g.variable true with
      | none => return none
      | some option => some? .property (option :: (← g.member).toList))
    else pure []
  some? kind (what.toList ++ options)

/-- Declared variables, behind the first word. -/
def declareStatement : Parser (Option Expression) := do
  let items ← attempt do
    let items ← commaList do
      match ← g.name true with
      | none => return none
      | some name =>
        let _ ← many do if ← accept .comma then g.name true else return none
        let _ ← accept .as_
        let type ← g.dataType {}
        let value ← if (← acceptWord ["=", "DEFAULT"]).isSome then g.bitwise else pure none
        some? .declare (name :: (type.toList ++ value.toList))
    if items.isEmpty then return none else return some items
  if items.isSome && (← atEnd) then some? .declare (items.getD []) else restAsCommand

/-! ### Tables as a whole -/

/-- Caching a table, behind the first word. -/
def cacheStatement : Parser (Option Expression) := do
  let _ ← acceptWords ["LAZY"]
  let _ ← accept .table
  let table ← need (← g.table { schema := true })
  if ← acceptWords ["OPTIONS"] then
    wrapped do
      let _ ← accept .string
      let _ ← accept .eq
      let _ ← accept .string
  let _ ← accept .as_
  let query ← g.query { nested := true }
  some? .cache (table :: query.toList)

/-- No longer caching a table, behind the first word. -/
def uncacheStatement : Parser (Option Expression) := do
  expect .table
  let _ ← exists? false
  some? .uncache [← need (← g.table { schema := true })]

/-- A comment on a schema object, behind the first word. -/
def commentStatement : Parser (Option Expression) := do
  let _ ← exists? false
  let _ ← accept .on
  let _ ← acceptWords ["MATERIALIZED"]
  match ← acceptAny TokenKind.isCreatable with
  | none => restAsCommand
  | some t =>
    let what ← if t.kind = .function || t.kind = .procedure then some <$> g.functionHead
      else if t.kind = .table then g.table { aliasKinds := fun k => k.isTableAlias && k != .is }
      else if t.kind = .column then g.column
      else some <$> g.tableName true
    let _ ← accept .is
    some? .comment [← need what, ← need (← stringLiteral)]

/-- Kinds of tokens that begin a statement of their own. -/
def beginsStatement : TokenKind → Bool
  | .alter | .analyze | .begin_ | .cache | .comment | .commit | .copy | .create | .delete | .desc
  | .describe | .drop | .grant | .insert | .kill | .load | .merge | .pivot | .pragma | .refresh
  | .rollback | .set | .truncate | .uncache | .unpivot | .update | .use => true
  | _ => false

/-- Describing a table or a statement, behind the first word. -/
def describeStatement : Parser (Option Expression) := do
  let here ← get
  let _ ← acceptAny TokenKind.isCreatable
  let style ← acceptWord ["ANALYZE", "EXTENDED", "FORMATTED", "HISTORY"]
  if style.isSome && (← sees .dot) then set here
  if ← sees .format then let _ ← g.property
  let what ← if ← seesAny beginsStatement then g.statement else g.table { schema := true }
  let properties ← g.properties
  let partition ← g.partitionClause
  let _ ← acceptWords ["AS", "JSON"]
  some? .describe ((← need what) :: (properties ++ partition.toList))

/-- Loading data from files, behind the first word. -/
def loadStatement : Parser (Option Expression) := do
  if !(← acceptWords ["DATA"]) then return ← restAsCommand
  let _ ← acceptWords ["LOCAL"]
  let _ ← acceptWords ["INPATH"]
  let path ← need (← stringLiteral)
  let _ ← accept .overwrite
  let _ ← acceptPair .into .table
  let table ← need (← g.table { schema := true })
  let partition ← g.partitionClause
  if ← acceptWords ["INPUTFORMAT"] then let _ ← stringLiteral
  if ← acceptWords ["SERDE"] then let _ ← stringLiteral
  some? .loadData ([path, table] ++ partition.toList)

/-- A privilege: words up to a comma, a list of columns or `ON`. -/
def privilege : Parser (Option Expression) := do
  let _ ← many do
    if ← seesAny fun k => k = .on || k = .comma || k = .lParen then return none else take
  let columns ← if ← sees .lParen then wrapped (commaList g.column) else pure []
  some? .var columns

/-- Granting, behind the first word: what cannot be read to its end is a command. -/
def grantStatement : Parser (Option Expression) := do
  let privileges ← commaList g.privilege
  let _ ← accept .on
  let _ ← acceptAny TokenKind.isCreatable
  let what ← attempt (some <$> g.tableName false)
  let said ← if what.isSome then acceptWords ["TO"] else pure false
  if !said then return ← restAsCommand
  let names ← commaList do
    let _ ← acceptWord ["ROLE", "GROUP"]
    g.name true
  let _ ← acceptWords ["WITH", "GRANT", "OPTION"]
  if !(← atEnd) then return ← restAsCommand
  some? .grant (privileges ++ what.toList ++ (← needSome names))

/-- Copying between tables and files, behind the first word. -/
def copyStatement : Parser (Option Expression) := do
  let _ ← accept .into
  let what ← if ← sees .lParen then g.query { nested := true, nameable := false }
    else g.table { schema := true }
  let what ← need what
  let from_ ← accept .from_
  if !from_ then let _ ← acceptWords ["TO"]
  let files ← commaList (orElse? g.field (return none))
  let _ ← acceptWords ["WITH"]
  let options ← wrappedIfOpen (many do
    if ← accept .comma then some? .var []
    else match ← g.variable true with
      | none => return none
      | some option =>
        let _ ← accept .eq
        some? .property (option :: (← g.field).toList))
  if ← atEnd then some? .copy (what :: (files ++ options)) else restAsCommand

/-- Statistics of tables, behind the first word. -/
def analyzeStatement : Parser (Option Expression) := do
  if ← atEnd then return some (.node .analyze [])
  let _ ← many (acceptWord ["FULL", "LOCAL", "NO_WRITE_TO_BINLOG", "SAMPLE", "SKIP_LOCKED",
    "VERBOSE"])
  let _ ← acceptAny fun k => k = .table || k = .index
  let what ← g.tableName false
  let partition ← attempt g.partitionClause
  if ← acceptWords ["COMPUTE", "STATISTICS"] then
    if ← acceptWords ["FOR", "ALL", "COLUMNS"] then pure ()
    else if ← acceptWords ["FOR", "COLUMNS"] then let _ ← commaList g.column
    else let _ ← acceptWords ["NOSCAN"]
  some? .analyze (what :: partition.toList)

/-- A pivot as a statement, behind its first word. -/
def pivotStatement : Parser (Option Expression) := do
  let table ← need (← g.table {})
  let columns ← if ← accept .on then commaList g.bitwise else pure []
  if ← accept .into then
    let _ ← acceptWords ["NAME"]
    let _ ← g.column
    let _ ← acceptWords ["VALUE"]
    let _ ← commaList g.column
  let values ← if ← accept .using then commaList (do g.aliased false (← g.call)) else pure []
  let group ← g.grouping
  some? .pivot (table :: (columns ++ values ++ group.toList))

/-- What can be shown by name. -/
def shownThings : List (List String) :=
  [["ALL", "TABLES"], ["FULL", "TABLES"], ["TERSE", "TABLES"], ["TABLES"], ["TABLE", "STATUS"],
    ["DATABASES"], ["SCHEMAS"], ["TERSE", "SCHEMAS"], ["FULL", "COLUMNS"], ["COLUMNS"], ["VIEWS"],
    ["TERSE", "VIEWS"], ["OBJECTS"], ["SEQUENCES"], ["USERS"], ["PRIMARY", "KEYS"],
    ["UNIQUE", "KEYS"], ["IMPORTED", "KEYS"], ["CREATE", "TABLE"], ["CREATE", "VIEW"],
    ["CREATE", "DATABASE"], ["INDEX"], ["INDEXES"], ["KEYS"], ["PROCESSLIST"],
    ["FULL", "PROCESSLIST"], ["STATUS"], ["GLOBAL", "STATUS"], ["VARIABLES"],
    ["GLOBAL", "VARIABLES"], ["SESSION", "VARIABLES"], ["WARNINGS"], ["ERRORS"], ["GRANTS"],
    ["ENGINES"], ["EVENTS"], ["TRIGGERS"], ["PLUGINS"], ["PRIVILEGES"], ["PROFILES"],
    ["STORAGE", "ENGINES"], ["OPEN", "TABLES"], ["CHARACTER", "SET"], ["COLLATION"]]

/-- Showing, behind its first word: what is not known by name is a command. -/
def showStatement : Parser (Option Expression) := do
  if ← acceptAnyWords shownThings then
    let _ ← many do
      match ← acceptWord ["FROM", "IN", "LIKE", "STARTS", "ON", "FOR"] with
      | none => return none
      | some _ =>
        let _ ← acceptWord ["WITH", "ACCOUNT", "DATABASE", "SCHEMA", "TABLE"]
        return (← orElse? stringLiteral (attempt (some <$> g.tableName false))).map fun _ => ()
    let condition ← g.whereClause
    let limit ← g.limit none
    some? .show_ (condition.toList ++ limit.toList)
  else restAsCommand

/-- Refreshing a table, behind the first word. -/
def refreshStatement : Parser (Option Expression) := do
  let _ ← accept .table
  let what ← orElse? stringLiteral (some <$> g.tableName false)
  some? (.call "refresh") [← need what]

/-! ### Statements -/

/-- The statement that begins with a kind of token, behind that token. -/
def statementRule? (k : TokenKind) : Option (Parser (Option Expression)) :=
  match k with
  | .alter => some g.alterStatement
  | .analyze => some g.analyzeStatement
  | .begin_ => some transactionStatement
  | .cache => some g.cacheStatement
  | .comment => some g.commentStatement
  | .commit => some (g.transactionEnd .commit)
  | .copy => some g.copyStatement
  | .create => some g.createStatement
  | .delete => some g.deleteStatement
  | .desc | .describe => some g.describeStatement
  | .drop => some g.dropStatement
  | .grant => some g.grantStatement
  | .insert => some g.insertStatement
  | .kill => some g.killStatement
  | .load => some g.loadStatement
  | .merge => some g.mergeStatement
  | .pivot | .unpivot => some g.pivotStatement
  | .pragma => some g.pragmaStatement
  | .refresh => some g.refreshStatement
  | .rollback => some (g.transactionEnd .rollback)
  | .set => some g.setStatement
  | .truncate => some g.truncateStatement
  | .uncache => some g.uncacheStatement
  | .update => some g.updateStatement
  | .use => some g.useStatement
  | .attach => some (g.attachStatement .attach)
  | .detach => some (g.attachStatement .detach)
  | .declare => some g.declareStatement
  | .show_ => if g.conventions.showStatements then some g.showStatement else none
  | _ => none

/-- Kinds of tokens that make a command of the text behind them. -/
def isCommand (k : TokenKind) : Bool := g.dialect.lexical.commands.contains k

/-- A statement: by its first token, or else an expression or a query, with set operators and
clauses behind it. -/
def readStatement : Parser (Option Expression) := do
  match ← peekKind with
  | none => return none
  | some k =>
    match g.statementRule? k with
    | some rule =>
      skip 1
      rule
    | none =>
      if g.isCommand k then
        skip 1
        some? .command (← stringLiteral).toList
      else
        let e ← g.named
        let e ← match e with
          | some _ => g.setOperators e
          | none => g.readQuery {}
        g.clauses e

end Rules

end StatementShape.Sql
