import StatementShape.Sql.Grammar.Call
import StatementShape.Sql.Grammar.DataType

/-!
# Operands

The smallest expressions: literals, parentheses, calls and columns, with what binds tighter than any
operator: parts behind dots, casts behind two colons, paths behind arrows and subscripts in
brackets.

## Main definitions

* `Rules.primary`: literals, stars and parentheses
* `Rules.field`: what can stand between two dots
* `Rules.column`: a column with its parts and subscripts
-/

namespace StatementShape.Sql

open Sql.Parser

namespace Rules

variable (g : Rules)

/-! ### Literals and parentheses -/

/-- What a star leaves out or changes: expressions in parentheses, or a single one. -/
def starChange (words : List String) : Parser (List Expression) := do
  match ← acceptWord words with
  | none => return []
  | some _ =>
    if ← sees .lParen then wrapped (commaList g.expression)
    else return (← g.aliased true (← g.assignment)).toList

/-- A star with what it leaves out, replaces and renames. -/
def star : Parser (Option Expression) := do
  let left ← g.starChange ["EXCEPT", "EXCLUDE"]
  let replaced ← g.starChange ["REPLACE"]
  let renamed ← g.starChange ["RENAME"]
  some? .star (left ++ replaced ++ renamed)

/-- Parentheses with the first one taken: a query, a list, or one expression. -/
def parenthesis : Parser (Option Expression) := do
  let (items, open_) ← match ← g.query {} with
    | some q => pure ([q], false)
    | none => commaItems g.expression
  let e ← match items.head? with
    | none => if ← sees .rParen then some? .tuple [] else failure
    | some e =>
      if e.kind.isBareQuery then g.subquery (some e)
      else if e.kind = .subquery || e.kind = .values then
        g.subquery (← g.modifiers (← g.setOperations (some e)))
      else if 1 < items.length || open_ then some? .tuple items
      else some? .paren [e]
  expect .rParen
  return e

/-- Strings side by side are one text. -/
def strings : Parser (Option Expression) := do
  let more ← many stringLiteral
  if more.isEmpty then some? .literal [] else some? .concat (.node .literal [] :: more)

/-- Kinds of tokens that are literals on their own. -/
def literal? : TokenKind → Option ExpressionKind
  | .number => some .literal
  | .heredocString | .rawString => some .rawString
  | .nationalString => some .national
  | .unicodeString => some .unicodeString
  | .bitString => some .bitString
  | .byteString => some .byteString
  | .hexString => some .hexString
  | .null => some .null
  | .true_ | .false_ => some .boolean
  | _ => none

/-- Literals, stars and parentheses. -/
def primary : Parser (Option Expression) := do
  if ← accept .string then strings
  else if ← accept .star then g.star
  else if ← accept .lParen then g.parenthesis
  else if ← acceptPair .dot .number then some? .literal []
  else if ← accept .sessionParameter then
    some? .sessionParameter [← need (← g.name true)]
  else if ← accept .introducer then
    if ← accept .string then
      some? .introducer (← strings).toList
    else some? .identifier []
  else match (← peekKind).bind literal? with
    | some kind =>
      skip 1
      some? kind []
    | none => return none

/-! ### Fields and columns -/

/-- A field: a literal, a call or a name. -/
def field : Parser (Option Expression) := orElse? g.primary (orElse? g.call (g.name false))

/-- A member behind a dot: a call of any name, a literal, or any word. -/
def member : Parser (Option Expression) := orElse? g.memberCall (orElse? g.primary (g.name true))

/-- A column's first part, where names are columns. `VALUES` is a name where its rows would need
a parenthesis. -/
def columnHead : Parser (Option Expression) := do
  let e ← g.field
  let e ← match e with
    | some e => pure (some e)
    | none =>
      if (← sees .values) && g.conventions.valuesNeedParen && (← secondKind) != some .lParen then
        skip 1
        some? .identifier []
      else pure none
  return e.map fun e => if e.kind = .identifier then .node .column [e] else e

/-- An entry in brackets: an expression that may be named, or a range of subscripts. -/
def bracketEntry : Parser (Option Expression) := do
  let first ← g.aliased true (← g.disjunction)
  if ← accept .colon then
    let second ← g.disjunction
    some? .slice (first.toList ++ second.toList)
  else return first

/-- A point in time in braces, behind its letter. -/
def timeLiteral : Parser (Option Expression) := do
  match ← acceptWord ["D", "T", "TS"] with
  | none => return none
  | some w =>
    let text ← stringLiteral
    expect .rBrace
    some? (.call (if w == "D" then "date" else if w == "T" then "time" else "timestamp"))
      [← need text]

/-- Brackets and braces behind something, or on their own: subscripts, lists and structures. -/
def subscripts (isList : Bool) (e : Option Expression) : Parser (Option Expression) := do
  let (e, _) ← iterate (fun (e, isList) => do
    if ← accept .lBracket then
      let entries ← commaList g.bracketEntry
      expect .rBracket
      match e with
      | none => return some (some (.node .array entries), false)
      | some b =>
        if isList then return some (some (.node .array entries), false)
        else return some (some (.node .bracket (b :: (← needSome entries))), false)
    else if ← accept .lBrace then
      match ← timeLiteral with
      | some t => return some (some t, false)
      | none =>
        let entries ← commaList g.bracketEntry
        expect .rBrace
        return some (some (.node .struct entries), false)
    else return none) (e, isList)
  return e

/-- What a path operator reads out of. -/
def path? : TokenKind → Option ExpressionKind
  | .arrow => some .jsonExtract
  | .darrow => some .jsonExtractScalar
  | .hashArrow => some .jsonbExtract
  | .dhashArrow => some .jsonbExtractScalar
  | .placeholder => some .jsonbContains
  | _ => none

/-- Kinds of calls, which a dot joins to what is in front of it. -/
def isCall : ExpressionKind → Bool
  | .cast | .tryCast | .case | .if_ | .anonymous | .window | .exists_ | .concat | .call _ => true
  | _ => false

/-- A member of something: a longer column as long as it has at most four parts, or a path of
dots. -/
def joined (e m : Expression) : Expression :=
  if isCall m.kind then
    if m.kind = .window then .node .window (.node .dot [e, m] :: m.parts.drop 1)
    else .node .dot [e, m]
  else if e.kind = .column && e.parts.length < 4 then .node .column (m :: e.parts)
  else .node .dot [e, m]

/-- The path behind a path operator: a column, or an expression on bits. -/
def pathEnd : Parser (Option Expression) := do
  if ← atEnd then g.member
  else orElse? g.columnHead g.bitwise

/-- A step behind an operand: a cast, a path or a member. -/
def columnStep (e : Expression) : Parser (Option Expression) := do
  let e' ← match ← peekKind with
    | some .dot =>
      skip 1
      let m ← need (← g.member)
      pure (some (joined e m))
    | some .dcolon | some .questionDcolon =>
      let tried ← sees .questionDcolon
      skip 1
      let type ← need (← g.dataType {})
      pure (some (.node (if g.conventions.strictCast && !tried then .cast else .tryCast) [e, type]))
    | some k =>
      match path? k with
      | some kind =>
        skip 1
        let p ← need (← g.pathEnd)
        pure (some (.node kind [e, p]))
      | none => pure none
    | none => pure none
  match e' with
  | none => return none
  | some e' => g.subscripts false (some e')

/-- Paths behind a colon, where the dialect has them. -/
def colonPath (e : Expression) : Parser (Option Expression) := do
  if g.conventions.colonPaths then
    if ← accept .colon then
      let m ← need (← g.member)
      some? .jsonExtract [e, m]
    else return none
  else return none

/-- What binds tighter than operators behind an operand. -/
def columnSteps (isList : Bool) (e : Expression) : Parser (Option Expression) := do
  let e ← need (← g.subscripts isList (some e))
  iterate (fun e => do
    match e with
    | none => return none
    | some e =>
      match ← g.columnStep e with
      | some e' => return some (some e')
      | none => return (← g.colonPath e).map some) (some e)

/-- A column, a list or structure in brackets, or any other operand, with what binds tighter
than operators. -/
def column : Parser (Option Expression) := do
  let isList := (← peek).any fun t => ["ARRAY", "LIST"].contains (Text.upper t.text.toList)
  match ← g.columnHead with
  | some e => g.columnSteps (isList && e.kind = .column) e
  | none => g.subscripts false none

end Rules

end StatementShape.Sql
