import StatementShape.Sql.Function
import StatementShape.Sql.Grammar.Bound

/-!
# Calls

A call is a name with arguments in parentheses. Some names have a syntax of their own between the
parentheses, some stand without any. Behind a call a window, a filter or an order within its group
may follow.

## Main definitions

* `Rules.argument`: an argument of a call, which may be a query or a function
* `Rules.windowed`: what follows a call
* `Rules.call`: calls
-/

namespace StatementShape.Sql

open Sql.Parser

namespace Rules

variable (g : Rules)

/-! ### Arguments -/

/-- A query, or an expression with or without an explicit alias. -/
def queryOrExpression (nameable : Bool) : Parser (Option Expression) := do
  match ← g.query {} with
  | some q => return some q
  | none =>
    let e ← g.assignment
    g.setOperations (← if nameable then g.aliased true e else pure e)

/-- How nulls count in a call. -/
def nullTreatment (e : Option Expression) : Parser (Option Expression) := do
  if ← acceptWords ["IGNORE", "NULLS"] then some? .ignoreNulls [← need e]
  else if ← acceptWords ["RESPECT", "NULLS"] then some? .respectNulls [← need e]
  else return e

/-- The extremum that an aggregate is taken at. -/
def havingExtremum (e : Option Expression) : Parser (Option Expression) := do
  if ← accept .having then
    let _ ← acceptWord ["MAX", "MIN"]
    some? .havingMax [← need e, ← need (← g.operand)]
  else return e

/-- The parameters of a function that is an argument: one name, or several in parentheses. -/
def lambdaParameters : Parser (List Expression) := do
  let here ← get
  if ← accept .lParen then
    let names ← commaList (g.name true)
    if ← accept .rParen then return names
    set here
    return names
  else return (← g.name true).toList

/-- A function as an argument, or an argument with its name. -/
def lambda : Parser (Option Expression) := tentative do
  let names ← g.lambdaParameters
  if ← accept .arrow then some? .lambda ((← need (← g.assignment)) :: (← needSome names))
  else if ← accept .farrow then
    some? .kwarg [← need names.head?, ← need (← g.assignment)]
  else return none

/-- An argument of a call. -/
def argument (nameable : Bool) : Parser (Option Expression) := do
  match ← g.lambda with
  | some e => return some e
  | none =>
    let e ← if ← accept .distinct then
        let items ← commaList g.assignment
        some? .distinct items
      else g.queryOrExpression nameable
    let e ← g.havingExtremum e
    let e ← g.order e
    let e ← nullTreatment e
    g.limit e

/-! ### Windows -/

/-- The rows or values that a window partitions by. -/
def partitionBy : Parser (List Expression) := do
  if ← accept .partitionBy then commaList g.disjunction else return []

/-- An end of a window's frame. -/
def frameBound : Parser (List Expression) := do
  let _ ← accept .between
  let e ← if ← acceptWords ["UNBOUNDED"] then pure none
    else if ← acceptWords ["CURRENT", "ROW"] then pure none
    else g.bitwise
  let _ ← acceptWord ["PRECEDING", "FOLLOWING"]
  return e.toList

/-- The frame of a window. -/
def frame : Parser (Option Expression) := do
  let unit ← acceptAny fun k => k = .rows || k = .range
  if unit.isNone then return none
  let first ← g.frameBound
  let second ← if ← accept .and then g.frameBound else pure []
  if ← acceptWords ["EXCLUDE"] then
    let rest ← acceptWords ["CURRENT", "ROW"]
    let rest ← if rest then pure true else acceptWords ["NO", "OTHERS"]
    if !rest && (← acceptWord ["GROUP", "TIES"]).isNone then failure
  some? .windowSpec (first ++ second)

/-- A window's definition in parentheses. -/
def windowDefinition : Parser (List Expression) := wrapped do
  let base ← g.name false fun k => k.isName && k != .rows && k != .range
  let _ ← acceptWord ["FIRST", "LAST"]
  let parts ← g.partitionBy
  let order ← g.order none
  let frame ← g.frame
  return base.toList ++ parts ++ order.toList ++ frame.toList

/-- A window over which something is computed: its name or its definition. -/
def window (e : Option Expression) : Parser (Option Expression) := do
  if ← sees .lParen then
    let parts ← g.windowDefinition
    some? .window ((← need e) :: parts)
  else
    let name ← g.name false
    some? .window ((← need e) :: name.toList)

/-- What follows a call: an order within its group, a filter, how nulls count, and windows. -/
def windowed (e : Option Expression) : Parser (Option Expression) := do
  let e ← if ← acceptWords ["WITHIN", "GROUP"] then do
      let order ← wrapped (g.order none)
      some? .withinGroup [← need e, ← need order]
    else pure e
  let e ← if ← acceptPair .filter .lParen then do
      let _ ← accept .where_
      let condition ← g.condition .where_
      expect .rParen
      some? .filter [← need e, ← need condition]
    else pure e
  let e ← nullTreatment e
  iterate (fun e => do
    if ← accept .over then return some (← g.window e) else return none) e

/-- A named window of a query. -/
def namedWindow : Parser (Option Expression) := do
  let name ← g.name true
  let name ← nullTreatment name
  let _ ← accept .as_
  g.window name

/-! ### Names without parentheses -/

/-- A choice between cases, behind its first word. -/
def caseOf : Parser (Option Expression) := do
  if ← sees .dot then return none
  let subject ← g.assignment
  let branches ← many do
    if ← accept .when then
      let condition ← g.assignment
      let _ ← accept .then_
      let value ← g.assignment
      some? .if_ [← need condition, ← need value]
    else return none
  let default ← if ← accept .else_ then g.assignment else pure none
  expect .end_
  some? .case (subject.toList ++ (← needSome branches) ++ default.toList)

/-- A condition with its values, behind its first word: as a call, or in words. -/
def ifOf : Parser (Option Expression) := do
  if ← accept .lParen then
    let args ← commaList (do g.aliased true (← g.assignment))
    if args.length < 2 || 3 < args.length then failure
    expect .rParen
    some? .if_ args
  else
    match ← g.assignment with
    | none => return none
    | some condition =>
      let _ ← accept .then_
      let value ← g.assignment
      let other ← if ← accept .else_ then g.assignment else pure none
      let _ ← accept .end_
      some? .if_ ([condition, ← need value] ++ other.toList)

/-- The next value of a sequence, behind its first word. -/
def nextValue : Parser (Option Expression) := do
  if ← acceptWords ["VALUE", "FOR"] then some? (.call "nextvaluefor") [← need (← g.operand)]
  else return none

/-- What stands behind a word that begins a call without parentheses. -/
def bareCallOf? (word : String) : Option (Parser (Option Expression)) :=
  match word with
  | "CASE" => some g.caseOf
  | "IF" => some g.ifOf
  | "NEXT" => some g.nextValue
  | "ANY" => some do some? .any [← need (← g.bitwise)]
  | "CONNECT_BY_ROOT" => some do some? (.call "connectbyroot") [← need (← g.operand)]
  | _ => none

/-- Calls without parentheses by their first word. -/
def bareCall : Parser (Option Expression) := tentative do
  match ← peek with
  | none => return none
  | some t =>
    let rule? := if t.isWord then g.bareCallOf? (Text.upper t.text.toList) else none
    match rule? with
    | none => return none
    | some rule =>
      skip 1
      match ← rule with
      | some e => g.windowed (some e)
      | none => return none

/-! ### Names with a syntax of their own -/

/-- A cast in words, strict or not. -/
def castCall (strict : Bool) : Parser (Option Expression) := do
  let e ← g.assignment
  if !(← accept .as_) then
    if ← accept .comma then
      let name ← stringLiteral
      return some (.node (.call "casttostrtype") [← need e, ← need name])
    failure
  let type ← g.dataType {}
  let formatted ← acceptAny fun k => k = .format || k = .comma
  if formatted.isSome then
    let _ ← stringLiteral
  else
    let _ ← need type
    if ← accept .characterSet then let _ ← g.variable true
  some? (if strict then .cast else .tryCast) ((← need e) :: type.toList)

/-- A conversion: a cast with the type behind a comma, or to a character set. -/
def convertCall (strict : Bool) : Parser (Option Expression) := do
  let e ← g.bitwise
  let type ← if ← accept .using then g.variable true
    else if ← accept .comma then g.dataType {}
    else pure none
  some? (if strict then .cast else .tryCast) [← need e, ← need type]

/-- A part of a time. -/
def extractCall (function : Parser (Option Expression)) : Parser (Option Expression) := do
  let part ← orElse? function (orElse? (g.variable false) (orElse? stringLiteral g.operand))
  if !(← accept .from_) && !(← accept .comma) then failure
  some? (.call "extract") [← need part, ← need (← g.bitwise)]

/-- A position, of one text in another. -/
def positionCall : Parser (Option Expression) := do
  let args ← commaList g.bitwise
  if ← accept .in_ then
    some? (.call "strposition") ((← need (← g.bitwise)) :: args.take 1)
  else
    if args.length < 2 then failure
    some? (.call "strposition") args

/-- A part of a text, by commas or by words. -/
def substringCall : Parser (Option Expression) := do
  let args ← commaList g.bitwise
  let more ← many do
    if ← accept .from_ then g.bitwise
    else if ← accept .for_ then g.bitwise
    else return none
  let args := args ++ more
  if args.isEmpty || 3 < args.length then failure
  some? (.call "substring") args

/-- A text without its ends. -/
def trimCall : Parser (Option Expression) := do
  let _ ← acceptWord ["LEADING", "TRAILING", "BOTH"]
  let first ← g.bitwise
  let second ← if (← acceptAny fun k => k = .from_ || k = .comma).isSome
    then g.bitwise else pure none
  let _ ← if ← accept .collate then g.bitwise else pure none
  some? (.call "trim") [← need (second.or first)]

/-- Joined texts of a group. -/
def joinCall : Parser (Option Expression) := do
  let args ← if ← accept .distinct then do
      let first ← some? .distinct (← g.disjunction).toList
      let more ← if ← accept .comma then commaList g.assignment else pure []
      pure (first.toList ++ more)
    else commaList g.assignment
  if ← sees .rParen then
    if args.isEmpty || 2 < args.length then failure
    some? (.call "groupconcat") args
  else
    let first ← g.order args.head?
    let first ← g.limit first
    some? (.call "groupconcat") [← need first]

/-- A text with a part replaced. -/
def overlayCall : Parser (Option Expression) := do
  let args ← commaList g.bitwise
  let more ← many do
    match ← acceptWord ["PLACING", "FROM", "FOR"] with
    | some _ => g.bitwise
    | none => return none
  let args := args ++ more
  if args.length < 3 || 4 < args.length then failure
  some? (.call "overlay") args

/-- An entry of a map in words or behind a colon. -/
def jsonEntry : Parser (Option Expression) := do
  let _ ← acceptWords ["KEY"]
  let key ← g.assignment
  let _ ← acceptAny fun k => k = .colon || k = .comma
  let _ ← acceptWords ["VALUE"]
  let value ← g.bitwise
  match key, value with
  | none, none => return none
  | _, _ => some? (.call "jsonkeyvalue") [← need key, ← need value]

/-- A map in words. -/
def jsonObjectCall : Parser (Option Expression) := do
  let entries ← if ← accept .star then pure [] else commaList g.jsonEntry
  let nulls ← acceptWords ["NULL", "ON", "NULL"]
  if !nulls then let _ ← acceptWords ["ABSENT", "ON", "NULL"]
  let unique ← acceptWords ["WITH", "UNIQUE"]
  if !unique then let _ ← acceptWords ["WITHOUT", "UNIQUE"]
  let _ ← acceptWords ["KEYS"]
  some? (.call "jsonobject") entries

/-- A search in texts: the columns, and what is looked for. -/
def matchCall : Parser (Option Expression) := do
  let columns ← commaList g.operand
  if !(← acceptWords [")", "AGAINST", "("]) then failure
  let text ← g.operand
  let _ ← acceptWords ["IN", "NATURAL", "LANGUAGE", "MODE"]
  let _ ← acceptWords ["IN", "BOOLEAN", "MODE"]
  let _ ← acceptWords ["WITH", "QUERY", "EXPANSION"]
  some? .textSearch ((← need text) :: (← needSome columns))

/-- The syntax of its own that a function name has, between its parentheses. -/
def ownSyntax? (function : Parser (Option Expression)) (name : String) :
    Option (Parser (Option Expression)) :=
  match name with
  | "CAST" => some (g.castCall g.conventions.strictCast)
  | "TRY_CAST" | "SAFE_CAST" => some (g.castCall false)
  | "CONVERT" => some (g.convertCall g.conventions.strictCast)
  | "TRY_CONVERT" => some (g.convertCall false)
  | "EXTRACT" => some (g.extractCall function)
  | "POSITION" => some g.positionCall
  | "SUBSTRING" => some g.substringCall
  | "TRIM" => some g.trimCall
  | "STRING_AGG" => some g.joinCall
  | "OVERLAY" => some g.overlayCall
  | "JSON_OBJECT" => some g.jsonObjectCall
  | "MATCH" => some g.matchCall
  | _ => none

/-! ### Calls -/

/-- Words that ask something of a query in the parentheses behind them. -/
def queryPredicate? : TokenKind → Option ExpressionKind
  | .any | .some => some .any
  | .all => some .all
  | .exists_ => some .exists_
  | _ => none

/-- The arguments of a call whose parenthesis has been taken: those of a known function must be
as many as it takes. -/
def plainCall (name : String) : Parser (Option Expression) := do
  match knownFunction? name with
  | some signature =>
    let args ← commaList (g.argument (name == "STRUCT"))
    if signature.takes args.length then some? (.call signature.key) args else failure
  | none =>
    let args ← commaList (g.argument true)
    some? .anonymous args

/-- A call with parentheses of the name that is the next token; behind a dot, or where any word
may be a name, the name is not looked up. -/
def parenthesizedCall (free : Bool) (function : Parser (Option Expression)) :
    Parser (Option Expression) := do
  match ← peek with
  | none => return none
  | some t =>
    if free && t.kind.isReserved then return none
    if !free && !t.kind.isFunctionName then return none
    skip 2
    let name := Text.upper t.text.toList
    let own := if free then none else g.ownSyntax? function name
    let e ← match own with
      | some rule => rule
      | none =>
        let asked := if (← seesAny fun k => k = .select || k = .with_) then queryPredicate? t.kind
          else none
        match asked with
        | some kind =>
          let q ← g.query {}
          some? kind [← need q]
        | none =>
          if free then some? .anonymous (← commaList (g.argument true))
          else g.plainCall name
    expect .rParen
    match e with
    | some e => if (queryPredicate? t.kind) == some e.kind then return some e
                else g.windowed (some e)
    | none => return none

/-- Words that are values on their own. -/
def currentValue : Parser (Option Expression) := do
  match ← acceptAny (· == .currentValue) with
  | some t => some? (.call (Text.lower (String.ofList (t.text.toList.filter (· != '_'))))) []
  | none => return none

/-- Calls: names with a parenthesis behind them, or, unless parentheses are required, the names
that need none. -/
def callOf (free parenthesesRequired : Bool) (function : Parser (Option Expression)) :
    Parser (Option Expression) := do
  let bare ← whenever (!parenthesesRequired) g.bareCall
  match bare with
  | some e => return some e
  | none =>
    if (← secondKind) == some .lParen then g.parenthesizedCall free function
    else whenever (!parenthesesRequired) currentValue

/-- A call in braces that say so, as in `{fn f(x)}`, or without them. -/
def braced (call : Parser (Option Expression)) : Parser (Option Expression) := do
  if ← acceptWords ["\x7b", "FN"] then
    let e ← call
    let _ ← accept .rBrace
    return e
  else call

/-- Calls by their name alone, which may stand for the part of a time. -/
def partCall : Parser (Option Expression) := g.callOf false false (return none)

/-- Calls, where names that need no parentheses count. -/
def call : Parser (Option Expression) := braced (g.callOf false false g.partCall)

/-- Calls with parentheses. -/
def tableCall : Parser (Option Expression) := braced (g.callOf false true g.partCall)

/-- Calls behind a dot, of any name. -/
def memberCall : Parser (Option Expression) := braced (g.callOf true false g.partCall)

end Rules

end StatementShape.Sql
