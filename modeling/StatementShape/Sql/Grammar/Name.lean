import StatementShape.Sql.Grammar.Rules

/-!
# Names, placeholders and variables

## Main definitions

* `Rules.placeholder`: a question mark, a named parameter, or a variable behind its sign
* `Rules.name`: an identifier, or a word that can stand for one
* `Rules.variable`: a bare word
* `stringName`: a string in the place of a name
-/

namespace StatementShape.Sql

open Sql.Parser

/-- A string in the place of a name. -/
def stringName : Parser (Option Expression) := do
  if ← accept .string then some? .identifier [] else return none

/-- A string. -/
def stringLiteral : Parser (Option Expression) := do
  if ← accept .string then some? .literal [] else return none

/-- Any token that is not reserved. -/
def anyWord : Parser (Option Token) := acceptAny fun k => !k.isReserved

/-- The name behind a parameter sign, between braces or without them. -/
def parameterName : Parser (Option Expression) := do
  let braced ← accept .lBrace
  let kind ← peekKind
  let inner ← match kind with
    | some .identifier => skip 1; some? .identifier []
    | some .string => skip 1; some? .literal []
    | some .number => skip 1; some? .literal []
    | _ => pure (if (← anyWord).isSome then some (.node .var []) else none)
  if braced then
    if ← accept .colon then let _ ← anyWord
    let _ ← accept .rBrace
  return inner

/-- Placeholders: `?`, a colon with a name or number behind it, and variables behind their
sign. -/
def Rules.placeholder (_ : Rules) : Parser (Option Expression) := do
  match ← peekKind with
  | some .placeholder => skip 1; some? .placeholder []
  | some .parameter =>
    skip 1
    some? .parameter [← need (← parameterName)]
  | some .colon =>
    match ← secondKind with
    | some k =>
      if k = .number || k.isName then skip 2; some? .placeholder [] else return none
    | none => return none
  | _ => return none

/-- A quoted identifier or a placeholder. -/
def Rules.identifier (g : Rules) : Parser (Option Expression) := do
  if ← accept .identifier then some? .identifier [] else g.placeholder

/-- A name: an identifier, or a word of one of the given kinds, or, where `anything` may stand,
any token that is not reserved. -/
def Rules.name (g : Rules) (anything : Bool) (kinds : TokenKind → Bool := TokenKind.isName) :
    Parser (Option Expression) := do
  if g.conventions.hashNames then
    if ← accept .hash then let _ ← accept .hash
  match ← g.identifier with
  | some e => return some e
  | none =>
    let word ← if anything then anyWord else pure none
    match word with
    | some _ => some? .identifier []
    | none => if (← acceptAny kinds).isSome then some? .identifier [] else return none

/-- A bare word, or any token that is not reserved where `anything` may stand. -/
def Rules.variable (g : Rules) (anything : Bool) : Parser (Option Expression) := do
  let word ← if anything then anyWord else pure none
  match word with
  | some _ => some? .var []
  | none => if ← accept .var then some? .var [] else g.placeholder

end StatementShape.Sql
