import StatementShape.Sql.Grammar.Name

/-!
# Types

A type is a type word with its sizes or parameters, then `WITH TIME ZONE` and the like, then array
brackets. Where the type could also be a call, parentheses behind it count only with a string behind
them.

## Main definitions

* `Rules.readType`: the types
* `Rules.structField`: a field of a structure type
-/

namespace StatementShape.Sql

open Sql.Parser

namespace Rules

variable (g : Rules)

/-- A size of a type, as in `DECIMAL(10, 2)`, with a word behind it. -/
def typeSize : Parser (Option Expression) := do
  match ← g.operand with
  | some e =>
    let _ ← g.variable true
    return some e
  | none => return none

/-- A field of a structure type: its name, a colon that may be missing, its type and
constraints, or a type alone. -/
def structField : Parser (Option Expression) := do
  let named ← attempt do
    let name ← g.name true
    let _ ← accept .colon
    if !(← seesAny TokenKind.isType) then failure
    g.columnDef (← pure name)
  match named with
  | some e => return some e
  | none => g.dataType {}

/-- The parameters of a type in parentheses, by what the type holds. -/
def typeParameters (kind : TokenKind) (form : TypeForm) : Parser (List Expression) :=
  if kind.isStruct then commaList g.structField
  else if kind.isNested then commaList (g.dataType form)
  else if kind = .enum then commaList g.equality
  else commaList g.typeSize

/-- Time zones behind a type of time: whether one was named. -/
def timeZone : Parser Bool := do
  if ← acceptWords ["WITH", "TIME", "ZONE"] then return true
  if ← acceptWords ["WITH", "LOCAL", "TIME", "ZONE"] then return true
  acceptWords ["WITHOUT", "TIME", "ZONE"]

/-- Array brackets behind a type. In expressions only empty ones belong to the type. -/
def arraySuffix (inSchema : Bool) (type : Expression) : Parser Expression := do
  let bare ← accept .array
  let type := if bare then .node .dataType [type] else type
  iterate (fun type => attempt do
    if !(← accept .lBracket) then failure
    let sizes ← commaList g.disjunction
    if !sizes.isEmpty && !inSchema then failure
    let _ ← accept .rBracket
    some? .dataType [type]) type

/-- A type whose word has been taken. -/
def typeBehind (kind : TokenKind) (form : TypeForm) : Parser (Option Expression) := do
  if kind = .pseudoType then return some (.node .pseudoType [])
  let mut parameters : List Expression := []
  let mut maybeCall := false
  if ← accept .lParen then
    parameters ← g.typeParameters kind form
    if !(← accept .rParen) then return none
    maybeCall := true
  let mut inlineValue := false
  if kind.isNested then
    if ← accept .lt then
      parameters ← if kind.isStruct then commaList g.structField else commaList (g.dataType form)
      expect .gt
      let values ← attempt do
        let opened ← acceptAny fun k => k = .lBracket || k = .lParen
        if opened.isNone then failure
        let values ← commaList g.disjunction
        if values.isEmpty && kind.isStruct then failure
        let _ ← acceptAny fun k => k = .rBracket || k = .rParen
        return some values
      inlineValue := values.any (!·.isEmpty)
  if kind = .timeType then
    if ← timeZone then maybeCall := false
  else if kind = .interval then
    match ← g.variable false with
    | some _ => if ← acceptWords ["TO"] then let _ ← g.variable false
    | none => pure ()
  if maybeCall && form.notCall then
    if !(← sees .string) then return none
  let _ ← acceptWords ["UNSIGNED"]
  let type : Expression := .node .dataType parameters
  if inlineValue then some? .cast [type]
  else return some (← g.arraySuffix form.inSchema type)

/-- A type: a type word with what belongs to it or, where names can be types, any name. -/
def readType (form : TypeForm) : Parser (Option Expression) := tentative do
  match ← acceptAny TokenKind.isType with
  | some t => g.typeBehind t.kind form
  | none =>
    if !form.names then return none
    match ← peekKind with
    | some .identifier | some .var =>
      if g.conventions.namedTypes then
        skip 1
        let _ ← many do
          if ← accept .dot then g.name true else return none
        return some (← g.arraySuffix form.inSchema (.node .dataType []))
      else return none
    | _ => return none

end Rules

end StatementShape.Sql
