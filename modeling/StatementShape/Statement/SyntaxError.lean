/-!
# Syntax errors

Why a text is not a script of statements.

## Main definitions

* `SyntaxError`: the causes
* `SyntaxError.message`: their wording
-/

namespace StatementShape.Statement

/-- Causes for which a script is refused. -/
inductive SyntaxError where
  /-- A text cannot be cut into tokens, or its tokens cannot be read. What is wrong with it depends
  on the text alone. -/
  | unreadable (text : List Char)
  /-- A script holds no statement. -/
  | noStatement (script : List Char)
  /-- An explanation has nothing to explain. -/
  | nothingExplained (text : List Char)
  /-- A fragment spells something else than what stands in its place. -/
  | misplaced (text : List Char)
  /-- A statement that begins with its source has none. -/
  | noSource (text : List Char)
  /-- Behind a source stand a selection and insertions. -/
  | mixedBranches (text : List Char)
  /-- A parenthesis, at a line and a column, is never closed. -/
  | unclosed (line column : Nat)
  /-- Common table expressions have no statement behind them. -/
  | withAlone
  deriving DecidableEq, Repr

/-- A text between single quotes, behind a few words. -/
def quotedAfter (words : String) (text : List Char) : String :=
  words ++ ": '" ++ String.ofList text ++ "'"

/-- The wording of a cause. -/
def SyntaxError.message : SyntaxError → String
  | .unreadable _ => "<sqlglot>"
  | .noStatement script => "No statement was parsed from '" ++ String.ofList script ++ "'"
  | .nothingExplained text => quotedAfter "EXPLAIN requires a statement" text
  | .misplaced text => quotedAfter "Invalid statement" text
  | .noSource text => quotedAfter "FROM statement has no source" text
  | .mixedBranches text => quotedAfter "FROM statement mixes a SELECT with INSERT branches" text
  | .unclosed line column =>
    "Unbalanced parentheses at line " ++ toString line ++ ", col " ++ toString column
  | .withAlone => "WITH clause is not followed by a statement"

end StatementShape.Statement
