import StatementShape.Sql.Grammar.Statement
import StatementShape.Sql.Lexer

/-!
# Reading SQL

The stages of the grammar are tied together here. A stage reads one level of nesting by itself and
leaves what is nested to the stage before, so a text needs no more stages than it could nest. A text
is read statement by statement between its semicolons, and every token must be used.

## Main definitions

* `Rules.step`, `Rules.ofDepth`: a stage from the one before, and the stage of a depth
* `readTokens`: the statement that a list of tokens spells
* `readAll`: the statements of a text
* `Reader`, `Dialect.reader`: what the rest of the library needs of a language of statements
* `readerOf`: the language that the setting of a dialect names
-/

namespace StatementShape.Sql

open Sql.Parser

/-- A stage from the one before. -/
def Rules.step (g : Rules) : Rules where
  dialect := g.dialect
  statement := g.readStatement
  query := g.readQuery
  setOperations := g.setOperators
  modifiers := g.clauses
  subquery := g.parenthesizedQuery false
  expression := g.named
  assignment := g.assign
  disjunction := g.disjoined
  equality := g.equal
  bitwise := g.bits
  term := g.sum
  factor := g.product
  unary := g.sign
  operand := g.typedOperand
  dataType := g.readType
  table := g.source
  schema := g.readSchema
  columnDef := g.readColumnDef

/-- The stage of a depth. -/
def Rules.ofDepth (d : Dialect) : Nat → Rules
  | 0 => Rules.refuse d
  | n + 1 => (Rules.ofDepth d n).step

/-- A depth that a number of tokens cannot exceed. -/
def depthOf (tokens : Nat) : Nat := 6 * tokens + 12

/-- A condition as a statement is a command, unless a parenthesis makes it a call. -/
def conditionCommand (tokens : List Token) : Bool :=
  match tokens with
  | t :: rest => t.isWord && Text.upper t.text.toList == "IF"
      && rest.head?.all (·.kind != .lParen)
  | [] => false

/-- The statement that tokens spell, all of them, `none` in it if they spell nothing. -/
def readTokens (d : Dialect) (tokens : List Token) : Option (Option Expression) :=
  if conditionCommand tokens then some (some (.node .command []))
  else
    match (Rules.ofDepth d (depthOf tokens.length)).readStatement tokens with
    | some (e, []) => some e
    | _ => none

/-- Runs of tokens between semicolons. Behind a last semicolon there is none. -/
def betweenSemicolons : List Token → List (List Token)
  | [] => [[]]
  | t :: ts =>
    if t.kind = .semicolon then
      if ts.isEmpty then [[]] else [] :: betweenSemicolons ts
    else match betweenSemicolons ts with
      | run :: runs => (t :: run) :: runs
      | [] => [[t]]

/-- The statements of a text, or `none` if it cannot be read. Runs that spell nothing are left
out. -/
def readAll (d : Dialect) (text : List Char) : Option (List Expression) := do
  let tokens ← tokenize d.lexical text
  let read ← (betweenSemicolons tokens).mapM (readTokens d)
  return read.filterMap id

/-- A language of statements: how texts are cut into tokens, and which statements they spell.
Either may refuse a text. -/
structure Reader where
  tokens : List Char → Option (List Token)
  statements : List Char → Option (List Expression)

/-- The language of a dialect. -/
def Dialect.reader (d : Dialect) : Reader where
  tokens := tokenize d.lexical
  statements := readAll d

/-- The language that the setting of a dialect names, or a message if there is none. -/
def readerOf (setting : String) : Except String Reader :=
  match Dialect.ofSetting setting with
  | .ok d => .ok d.reader
  | .error fault => .error fault.message

end StatementShape.Sql
