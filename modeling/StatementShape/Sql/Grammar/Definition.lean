import StatementShape.Sql.Grammar.Query

/-!
# Definitions

Definitions of tables, views, functions and other schema objects: columns with their types and
constraints, the properties around them, and the statements that create, alter and drop them. Where
such a statement goes on in a way that is not known here, the rest of it is taken as it stands.

## Main definitions

* `Rules.readColumnDef`, `Rules.readSchema`: columns and their constraints
* `Rules.properties`: properties by name or by value
* `Rules.createStatement`, `Rules.dropStatement`, `Rules.alterStatement`: the statements
-/

namespace StatementShape.Sql

open Sql.Parser

/-- The rest of the tokens, taken as a command. -/
def restAsCommand : Parser (Option Expression) := do
  set ([] : List Token)
  some? .command []

namespace Rules

variable (g : Rules)

/-- Whether something exists, as a condition of a statement. -/
def exists? (negated : Bool) : Parser Bool := do
  if ← acceptWords ["IF"] then
    let go ← if negated then accept .not else pure true
    if go then accept .exists_ else return false
  else return false

/-! ### Constraints -/

/-- An action on the rows that refer to a row. -/
def referenceAction : Parser Unit := do
  if ← acceptWords ["NO", "ACTION"] then return ()
  else if ← acceptWords ["SET", "NULL"] then return ()
  else if ← acceptWords ["SET", "DEFAULT"] then return ()
  else let _ ← take

/-- Options of a key that are words alone. -/
def keyOptionWords : List (List String) :=
  [["NOT", "ENFORCED"], ["NOT", "DEFERRABLE"], ["DEFERRABLE"], ["INITIALLY", "DEFERRED"],
    ["INITIALLY", "IMMEDIATE"], ["NORELY"], ["RELY"], ["MATCH", "FULL"], ["MATCH", "PARTIAL"],
    ["MATCH", "SIMPLE"], ["ENFORCED"], ["NOT", "VALID"], ["DISABLE"], ["NOVALIDATE"]]

/-- Options of a key, as many as there are. -/
def keyOptions : Parser Unit := do
  let _ ← many do
    if ← accept .on then
      let _ ← take
      referenceAction
      return some ()
    else if ← acceptAnyWords keyOptionWords then return some ()
    else return none

/-- The table that a key refers to. -/
def references : Parser (Option Expression) := do
  let table ← need (← g.table { schema := true })
  keyOptions
  some? .constraint [table]

/-- A foreign key, behind its first words. -/
def foreignKey : Parser (Option Expression) := do
  let columns ← if ← sees .references then pure [] else wrapped (commaList (g.name true))
  let target ← if ← accept .references then g.references else pure none
  keyOptions
  some? .constraint (columns ++ target.toList)

/-- A primary key, behind its first words: of the column, or of the columns in parentheses. -/
def primaryKey : Parser (Option Expression) := do
  let _ ← acceptAny fun k => k = .asc || k = .desc
  let columns ← if ← sees .lParen then wrapped (commaList g.orderItem) else pure []
  keyOptions
  some? .constraint columns

/-- Uniqueness, behind its first word. -/
def uniqueKey : Parser (Option Expression) := do
  let _ ← acceptWord ["KEY", "INDEX"]
  let name ← g.name false
  let columns ← g.schema name
  if ← accept .using then let _ ← take
  keyOptions
  some? .constraint columns.toList

/-- Anything up to the parenthesis that closes. -/
def toParenthesis : Parser Unit := do
  let _ ← many do
    if ← sees .rParen then return none else take

/-- A generated value, behind its first word. -/
def generated : Parser (Option Expression) := do
  if ← acceptWords ["BY", "DEFAULT"] then
    let _ ← acceptWords ["ON", "NULL"]
  else
    let _ ← acceptWords ["ALWAYS"]
  let _ ← accept .as_
  if ← acceptWords ["ROW"] then
    let _ ← acceptWord ["START", "END"]
    let _ ← acceptWords ["HIDDEN"]
    some? .constraint []
  else
    let identity ← acceptWords ["IDENTITY"]
    if ← sees .lParen then
      if identity then
        wrapped toParenthesis
        some? .constraint []
      else
        let e ← wrapped g.assignment
        let _ ← acceptWord ["STORED", "VIRTUAL", "PERSISTED"]
        some? .constraint e.toList
    else some? .constraint []

/-- An identity column, behind its first word: its start and its step. -/
def identityColumn : Parser (Option Expression) := do
  if ← sees .lParen then some? .constraint (← wrapped (commaList g.bitwise))
  else some? .constraint []

/-- A value that a constraint needs. -/
def needing (rule : Parser (Option Expression)) : Parser (Option Expression) := do
  some? .constraint [← need (← rule)]

/-- How a constraint goes on behind its first word. -/
def constraint? (word : String) : Option (Parser (Option Expression)) :=
  match word with
  | "AUTOINCREMENT" | "AUTO_INCREMENT" | "IDENTITY" => some g.identityColumn
  | "CHECK" => some do
      let e ← needing (wrapped g.assignment)
      let _ ← acceptWords ["ENFORCED"]
      return e
  | "COLLATE" => some (needing (orElse? g.identifier g.column))
  | "COMMENT" => some (needing stringLiteral)
  | "DEFAULT" => some (needing g.bitwise)
  | "FOREIGN KEY" => some g.foreignKey
  | "GENERATED" => some g.generated
  | "LIKE" => some (needing (g.table { schema := true }))
  | "NOT" => some do
      if ← accept .null then some? .constraint []
      else if ← acceptWords ["CASESPECIFIC"] then some? .constraint []
      else if ← acceptWords ["FOR", "REPLICATION"] then some? .constraint []
      else failure
  | "NULL" => some (some? .constraint [])
  | "ON" => some do
      if ← acceptWords ["UPDATE"] then needing g.call else needing (g.name true)
  | "PRIMARY KEY" => some g.primaryKey
  | "REFERENCES" => some g.references
  | "UNIQUE" => some g.uniqueKey
  | _ => none

/-- The first words of the constraints of a column. -/
def columnConstraints : List String :=
  ["AUTOINCREMENT", "AUTO_INCREMENT", "IDENTITY", "CHECK", "COLLATE", "COMMENT", "DEFAULT",
    "FOREIGN KEY", "GENERATED", "LIKE", "NOT", "NULL", "ON", "PRIMARY KEY", "REFERENCES", "UNIQUE"]

/-- The first words of the constraints of a table. -/
def tableConstraints : List String := ["CHECK", "FOREIGN KEY", "LIKE", "PRIMARY KEY", "UNIQUE"]

/-- A constraint that begins with one of some words. -/
def constraintOf (words : List String) : Parser (Option Expression) := do
  if ← sees .identifier then return none
  match ← acceptWord words with
  | none => return none
  | some w => (g.constraint? w).getD (return none)

/-- A constraint of a column, which may have a name. -/
def columnConstraint : Parser (Option Expression) := do
  let name ← if ← accept .constraint then g.name true else pure none
  match ← g.constraintOf columnConstraints with
  | some e => return some e
  | none => return name

/-- A constraint of a table, which may have a name. -/
def tableConstraint : Parser (Option Expression) := do
  if ← accept .constraint then
    let name ← g.name true
    let parts ← many (orElse? (g.constraintOf columnConstraints) g.call)
    some? .constraint (name.toList ++ parts)
  else g.constraintOf tableConstraints

/-! ### Columns -/

/-- What a computed column is computed by. -/
def computed (type : Option Expression) : Parser (Option Expression) := do
  let direct ← if type.isNone then accept .as_ else pure false
  let begun ← if direct then pure true
    else pure (← acceptWord ["ALIAS", "MATERIALIZED"]).isSome
  let begun ← if begun then pure true
    else if (← sees .as_) && (← secondKind) == some .lParen then accept .as_
    else pure false
  if begun then
    let e ← need (← g.assignment)
    let _ ← acceptWords ["PERSISTED"]
    some? .constraint [e]
  else return none

/-- The type and the constraints behind a column's name, or the name alone. -/
def readColumnDef (name : Option Expression) : Parser (Option Expression) := do
  let type ← g.dataType { inSchema := true }
  if ← acceptWords ["FOR", "ORDINALITY"] then return some (.node .columnDef [← need name])
  let value ← g.computed type
  let constraints ← many g.columnConstraint
  let parts := type.toList ++ value.toList ++ constraints
  if parts.isEmpty then return name
  let _ ← acceptWord ["FIRST"]
  return some (.node .columnDef ((← need name) :: parts))

/-- A column in a list of columns: any word, with its type and constraints. -/
def fieldDef : Parser (Option Expression) := do
  let name ← orElse? g.primary (orElse? g.call (g.name true))
  g.readColumnDef name

/-- Columns and constraints in parentheses behind a table, where no query stands there. -/
def readSchema (table : Option Expression) : Parser (Option Expression) := do
  let here ← get
  if !(← accept .lParen) then return table
  if ← seesAny fun k => k = .lParen || k = .with_ || k = .select then
    set here
    return table
  let items ← commaList (orElse? g.tableConstraint g.fieldDef)
  expect .rParen
  some? .schema (table.toList ++ items)

/-! ### Properties -/

/-- Properties that are words alone. -/
def plainProperties : List String :=
  ["DETERMINISTIC", "IMMUTABLE", "STABLE", "STRICT", "VOLATILE", "TEMPORARY", "TEMP", "TRANSIENT",
    "MATERIALIZED", "EXTERNAL", "GLOBAL", "UNLOGGED", "SECURE", "STREAMING", "DYNAMIC", "ICEBERG",
    "HYBRID", "MULTISET"]

/-- A value behind an equals sign that may be missing. -/
def assigned (rule : Parser (Option Expression)) : Parser (Option Expression) := do
  let _ ← accept .eq
  let _ ← accept .as_
  some? .property (← rule).toList

/-- What separates the parts of a row. -/
def delimiterWords : List (List String) :=
  [["FIELDS", "TERMINATED", "BY"], ["ESCAPED", "BY"], ["COLLECTION", "ITEMS", "TERMINATED", "BY"],
    ["MAP", "KEYS", "TERMINATED", "BY"], ["LINES", "TERMINATED", "BY"], ["NULL", "DEFINED", "AS"]]

/-- How rows are written, behind its first words. -/
def rowFormat : Parser (Option Expression) := do
  if ← acceptWords ["SERDE"] then
    let name ← stringLiteral
    if ← acceptWords ["WITH", "SERDEPROPERTIES"] then
      let _ ← wrapped (commaList g.assignment)
    some? .property name.toList
  else
    let _ ← acceptWords ["DELIMITED"]
    let _ ← many do
      if ← acceptAnyWords delimiterWords then stringLiteral else return none
    some? .property []

/-- How a property goes on behind its first word. -/
def property? (word : String) : Option (Parser (Option Expression)) :=
  match word with
  | "COMMENT" => some (assigned stringLiteral)
  | "LOCATION" => some (assigned (orElse? g.field (return none)))
  | "ENGINE" | "CHARSET" | "CHARACTER SET" | "LANGUAGE" | "USING" | "ALGORITHM" | "DEFINER"
  | "FORMAT" | "TABLESPACE" | "AUTO_INCREMENT" | "COLLATE" =>
    some (assigned (orElse? g.call (orElse? g.primary (g.name true))))
  | "RETURNS" => some do
      if ← accept .table then
        some? .property (← g.schema (some (.node .table []))).toList
      else some? .property (← g.dataType {}).toList
  | "PARTITIONED BY" | "PARTITIONED_BY" | "PARTITION BY" | "CLUSTER BY" => some do
      let _ ← accept .eq
      match ← g.schema none with
      | some e => some? .property [e]
      | none => some? .property (← commaList g.bitwise)
  | "CLUSTERED BY" => some do
      let columns ← wrapped (commaList g.column)
      if ← acceptWords ["SORTED", "BY"] then let _ ← wrapped (commaList g.orderItem)
      let _ ← acceptWords ["INTO"]
      let _ ← accept .number
      let _ ← acceptWords ["BUCKETS"]
      some? .property columns
  | "STORED" => some do
      let _ ← acceptWords ["BY"]
      let _ ← accept .as_
      if ← acceptWords ["INPUTFORMAT"] then
        let _ ← stringLiteral
        if ← acceptWords ["OUTPUTFORMAT"] then let _ ← stringLiteral
        some? .property []
      else some? .property (← orElse? g.primary (g.name true)).toList
  | "ROW" => some do
      if ← accept .format then g.rowFormat else failure
  | "TBLPROPERTIES" | "OPTIONS" | "PROPERTIES" =>
    some do some? .property (← wrapped (commaList g.assignment))
  | "WITH" => some do
      if ← sees .lParen then some? .property (← wrapped (commaList g.assignment))
      else
        let data ← acceptWords ["NO", "DATA"]
        let data ← if data then pure true else acceptWords ["DATA"]
        if data then
          let _ ← acceptWords ["AND", "STATISTICS"]
          some? .property []
        else return none
  | "LIKE" => some do some? .property [← need (← g.table { schema := true })]
  | "INHERITS" => some do some? .property (← wrapped (commaList (g.table {})))
  | "ON" => some do
      if ← acceptWords ["COMMIT", "PRESERVE", "ROWS"] then some? .property []
      else if ← acceptWords ["COMMIT", "DELETE", "ROWS"] then some? .property []
      else some? .property (← g.schema (← g.name true)).toList
  | "EXECUTE" => some do
      let _ ← accept .as_
      some? .property (← g.name true).toList
  | w => if plainProperties.contains w then some (some? .property []) else none

/-- The first words of properties that go on. -/
def propertyWords : List String :=
  ["COMMENT", "LOCATION", "ENGINE", "CHARSET", "CHARACTER SET", "LANGUAGE", "USING", "ALGORITHM",
    "DEFINER", "FORMAT", "TABLESPACE", "AUTO_INCREMENT", "COLLATE", "RETURNS", "PARTITIONED BY",
    "PARTITIONED_BY", "PARTITION BY", "CLUSTER BY", "CLUSTERED BY", "STORED", "ROW",
    "TBLPROPERTIES", "OPTIONS", "PROPERTIES", "WITH", "LIKE", "INHERITS", "ON", "EXECUTE"]
    ++ plainProperties

/-- Options of a sequence that are words alone. -/
def sequenceWords : List (List String) :=
  [["SCALE", "EXTEND"], ["SCALE", "NOEXTEND"], ["SHARD", "EXTEND"], ["SHARD", "NOEXTEND"],
    ["NO", "CYCLE"], ["NO", "CACHE"], ["NO", "MAXVALUE"], ["NO", "MINVALUE"], ["SESSION"],
    ["GLOBAL"], ["KEEP"], ["NOKEEP"], ["ORDER"], ["NOORDER"], ["NOCACHE"], ["CYCLE"], ["NOCYCLE"],
    ["NOMINVALUE"], ["NOMAXVALUE"], ["NOSCALE"], ["NOSHARD"]]

/-- An option of a sequence: its step, its bounds, its start, how it is kept. -/
def sequenceOption : Parser (Option Unit) := do
  let _ ← accept .comma
  if ← acceptWords ["INCREMENT"] then
    let _ ← acceptWords ["BY"]
    let _ ← accept .eq
    let _ ← g.term
    return some ()
  if (← acceptWord ["MINVALUE", "MAXVALUE"]).isSome then
    let _ ← g.term
    return some ()
  let started ← accept .startWith
  let started ← if started then pure true else acceptWords ["START"]
  if started then
    let _ ← accept .eq
    let _ ← g.term
    return some ()
  if ← acceptWords ["CACHE"] then
    let _ ← accept .number
    return some ()
  if ← acceptWords ["OWNED", "BY"] then
    if !(← acceptWords ["NONE"]) then let _ ← g.column
    return some ()
  if ← acceptAnyWords sequenceWords then return some ()
  return none

/-- Options of a sequence, as many as there are; they count as one property. -/
def sequenceOptions : Parser (Option Expression) := do
  let here ← get
  let _ ← many g.sequenceOption
  if (← get).length = here.length then return none
  return some (.node .property [])

/-- A property: by its first word, or a name with a value. -/
def property : Parser (Option Expression) := tentative do
  let here ← get
  if ← acceptWords ["CLUSTERED", "BY"] then
    return ← (g.property? "CLUSTERED BY").getD (return none)
  match ← acceptWord propertyWords with
  | some w => (g.property? w).getD (return none)
  | none =>
    if ← accept .default then
      if let some w ← acceptWord propertyWords then
        return ← (g.property? w).getD (return none)
      set here
    if ← acceptWords ["SQL", "SECURITY"] then
      let _ ← acceptWord ["DEFINER", "INVOKER"]
      return some (.node .property [])
    match ← g.sequenceOptions with
    | some e => return some e
    | none =>
      match ← g.column with
      | none => return none
      | some key =>
        if !(← accept .eq) then return none
        let value ← need (← orElse? g.bitwise (g.variable true))
        some? .property [key, value]

/-- Properties, as many as there are. -/
def properties : Parser (List Expression) := many g.property

/-! ### Creating -/

/-- The parameters of an index: its columns and how it is kept. -/
def indexParameters : Parser (List Expression) := do
  if ← accept .using then let _ ← g.variable true
  let columns ← if ← sees .lParen then wrapped (commaList do
        let e ← g.orderItem
        if ← accept .with_ then let _ ← g.variable true
        return e)
    else pure []
  if ← acceptWords ["INCLUDE"] then let _ ← wrapped (commaList (g.name true))
  let parts ← g.partitionBy
  if ← accept .with_ then let _ ← wrapped (commaList g.assignment)
  if ← acceptWords ["USING", "INDEX", "TABLESPACE"] then let _ ← g.variable true
  let condition ← g.whereClause
  if ← accept .on then let _ ← g.field
  return columns ++ parts ++ condition.toList

/-- A function's name with its parameters. -/
def functionHead : Parser Expression := do
  let name ← g.tableName true
  if ← accept .lParen then
    let parameters ← commaList (do g.columnDef (← g.name true))
    expect .rParen
    return withParts name parameters
  else return name

/-- A function's body: a string, or a statement. -/
def functionBody : Parser (List Expression) := do
  let before ← g.properties
  let _ ← accept .as_
  let middle ← g.properties
  let _ ← accept .begin_
  let _ ← acceptWords ["RETURN"]
  let body ← match ← peekKind with
    | some .heredocString => skip 1; some? .rawString []
    | some .string => stringLiteral
    | some .command => restAsCommand
    | _ => g.statement
  let behind ← g.properties
  let _ ← acceptWords ["END"]
  return before ++ middle ++ body.toList ++ behind

/-- The body of a table or view: columns, properties, and the query it is filled from. -/
def objectBody (kind : TokenKind) : Parser (List Expression) := do
  let name ← g.tableName true
  let _ ← accept .comma
  let head ← need (← g.schema (some name))
  let before ← g.properties
  let said ← accept .as_
  let middle ← if ← seesAny fun k => k = .select || k = .with_ || k = .lParen
    then pure [] else g.properties
  let query ← g.definingQuery
  let query ← if query.isNone && said then attempt (some <$> g.tableName false) else pure query
  let behind ← if kind = .table then g.properties else pure []
  if kind = .view then let _ ← acceptWords ["WITH", "NO", "SCHEMA", "BINDING"]
  let _ ← acceptWords ["SHALLOW"]
  let copied ← if (← acceptWord ["CLONE", "COPY"]).isSome then g.table { schema := true }
    else pure none
  return head :: (before ++ middle ++ query.toList ++ behind ++ copied.toList)

/-- Creating, behind its first word: what cannot be read to its end is a command. -/
def createStatement : Parser (Option Expression) := do
  let replaced ← acceptPair .or .replace
  if !replaced then let _ ← acceptPair .or .alter
  let _ ← accept .unique
  if (← sees .table) && (← secondKind) == some .function then skip 1
  let before ← if ← seesAny TokenKind.isCreatable then pure [] else g.properties
  match ← acceptAny TokenKind.isCreatable with
  | none => restAsCommand
  | some t =>
    let _ ← acceptWords ["CONCURRENTLY"]
    let _ ← exists? true
    let parts ← if t.kind = .function || t.kind = .procedure then do
        let head ← g.functionHead
        pure (head :: (← g.functionBody))
      else if t.kind = .index then do
        let name ← if ← accept .on then pure none else do
          let name ← g.name true
          let _ ← accept .on
          pure name
        let _ ← accept .table
        let table ← g.tableName true
        pure (name.toList ++ table :: (← g.indexParameters))
      else if t.kind.isDatabaseObject then g.objectBody t.kind
      else failure
    let rest ← peekKind
    if rest.any fun k => k != .rParen && k != .comma then restAsCommand
    else some? .create (before ++ parts)

/-! ### Dropping and altering -/

/-- Dropping, behind its first word. -/
def dropStatement : Parser (Option Expression) := do
  let _ ← accept .temporary
  let _ ← acceptWords ["MATERIALIZED"]
  match ← acceptAny TokenKind.isCreatable with
  | none => restAsCommand
  | some t =>
    let _ ← acceptWords ["CONCURRENTLY"]
    let _ ← exists? false
    let what ← if t.kind = .column then g.column else some <$> g.tableName true
    if ← accept .on then let _ ← g.schema (← g.name true)
    let types ← if ← sees .lParen then wrapped (commaList (g.dataType {})) else pure []
    let _ ← acceptWords ["CASCADE"]
    let _ ← acceptWords ["RESTRICT"]
    let _ ← acceptWords ["CONSTRAINTS"]
    let _ ← acceptWords ["PURGE"]
    some? .drop (what.toList ++ types)

/-- A column to add, with whether it may exist. -/
def addedColumn : Parser (Option Expression) := tentative do
  let _ ← accept .column
  let _ ← exists? true
  match ← g.fieldDef with
  | some e =>
    if e.kind != .columnDef then return none
    match ← acceptWord ["FIRST", "AFTER"] with
    | some "AFTER" => let _ ← g.column
    | _ => pure ()
    return some e
  | none => return none

/-- Additions to a table, behind their first word. -/
def additions : Parser (List Expression) := do
  let constraintNext := seesAny fun k =>
    k = .constraint || k = .foreignKey || k = .index || k = .key || k = .primaryKey || k = .unique
  let inParentheses ← if ← constraintNext then pure none
    else if ← sees .lParen then g.schema none else pure none
  match inParentheses with
  | some e => return [e]
  | none =>
    if ← acceptWords ["COLUMNS"] then return (← g.schema none).toList
    commaList do
      let _ ← acceptWords ["ADD"]
      if ← constraintNext then
        some? .constraint (← commaList g.tableConstraint)
      else
        match ← g.addedColumn with
        | some e => return some e
        | none =>
          let _ ← exists? true
          if ← sees .partition then g.partitionClause else return none

/-- Removals from a table, behind their first word. -/
def removals : Parser (List Expression) := do
  let _ ← exists? false
  if ← sees .partition then commaList g.partitionClause
  else
    let first ← g.dropStatement
    let more ← many do
      if ← acceptPair .comma .drop then g.dropStatement else return none
    return first.toList ++ more

/-- A new name of a table or a column, behind its first word. -/
def newName : Parser (List Expression) := do
  if ← accept .column then
    let _ ← exists? false
    let old ← g.column
    let said ← acceptWords ["TO"]
    let new ← g.column
    match old, new with
    | some old, some new => return if said then [old, new] else []
    | _, _ => return []
  else
    let _ ← acceptWords ["TO"]
    return (← g.table { schema := true }).toList

/-- Changes of a column, behind their first word. -/
def columnChange : Parser (List Expression) := do
  let _ ← accept .column
  let column ← need (← orElse? g.primary (orElse? g.call (g.name true)))
  if ← acceptWords ["DROP", "DEFAULT"] then return [column]
  if ← acceptWords ["SET", "DEFAULT"] then return [column, ← need (← g.assignment)]
  if ← acceptWords ["COMMENT"] then return [column, ← need (← stringLiteral)]
  if ← acceptWords ["DROP", "NOT", "NULL"] then return [column]
  if ← acceptWords ["SET", "NOT", "NULL"] then return [column]
  if ← acceptWords ["SET", "VISIBLE"] then return [column]
  if ← acceptWords ["SET", "INVISIBLE"] then return [column]
  let _ ← acceptWords ["SET", "DATA"]
  let _ ← acceptWords ["TYPE"]
  let type ← g.dataType {}
  let _ ← if ← accept .collate then g.term else pure none
  let _ ← if ← accept .using then g.assignment else pure none
  return column :: type.toList

/-- New settings of a table, behind their first word. -/
def tableSettings : Parser (List Expression) := do
  if ← sees .lParen then wrapped (commaList g.assignment)
  else if ← acceptWords ["TABLE", "PROPERTIES"] then wrapped (commaList g.assignment)
  else if ← acceptWords ["LOCATION"] then return (← g.field).toList
  else if ← acceptWords ["TABLESPACE"] then return (← g.field).toList
  else if (← acceptWord ["LOGGED", "UNLOGGED"]).isSome then return [.node .property []]
  else
    let found ← wrappedIfOpen g.properties
    return .node .property [] :: found

/-- Altering, behind its first word: what cannot be read to its end is a command. -/
def alterStatement : Parser (Option Expression) := do
  match ← acceptAny TokenKind.isAlterable with
  | none => restAsCommand
  | some _ =>
    let _ ← exists? false
    let _ ← acceptWords ["ONLY"]
    let table ← need (← g.table { schema := true })
    let more := (← secondKind).isSome
    let actions ← match ← if more then peek else pure none with
      | none => pure []
      | some t =>
        skip 1
        match Text.upper t.text.toList with
        | "ADD" => g.additions
        | "AS" => pure (← g.query {}).toList
        | "DROP" => g.removals
        | "RENAME" => g.newName
        | "ALTER" => g.columnChange
        | "SET" => g.tableSettings
        | "DELETE" => do
            let _ ← accept .from_
            pure (← g.whereClause).toList
        | "SWAP" => do
            let _ ← acceptWords ["WITH"]
            pure (← g.table { schema := true }).toList
        | _ => pure []
    let _ ← acceptWords ["NOT", "VALID"]
    let _ ← if actions.isEmpty then pure [] else commaList g.property
    if (← atEnd) && !actions.isEmpty then some? .alter (table :: actions) else restAsCommand

end Rules

end StatementShape.Sql
