import StatementShape.Sql.Expression
import StatementShape.Statement.Production
import StatementShape.Text.Span

/-!
# Statement trees

The tree of a script: each node is a production with the stretch of text that it covers, its parts,
and, where it is a leaf, the SQL expression that its text spells.

## Main definitions

* `Tree`: the trees
* `Tree.nodesOf`: the nodes of a production, from the root down and from left to right
* `Tree.shift`: a tree behind some more text
-/

namespace StatementShape.Statement

open Text (Span)

/-- Statement trees. -/
inductive Tree where
  | node (production : Production) (span : Span) (text : List Char)
      (expression : Option Sql.Expression) (children : List Tree)
  deriving Repr

namespace Tree

/-- The production of the root. -/
def production : Tree → Production
  | node p _ _ _ _ => p

/-- The span of the root. -/
def span : Tree → Span
  | node _ s _ _ _ => s

/-- The text of the root. -/
def text : Tree → List Char
  | node _ _ t _ _ => t

/-- The expression of the root, if it has one. -/
def expression : Tree → Option Sql.Expression
  | node _ _ _ e _ => e

/-- The parts of the root. -/
def children : Tree → List Tree
  | node _ _ _ _ cs => cs

@[simp] theorem production_node (p : Production) (s : Span) (t : List Char)
    (e : Option Sql.Expression) (cs : List Tree) : (node p s t e cs).production = p := rfl

@[simp] theorem span_node (p : Production) (s : Span) (t : List Char)
    (e : Option Sql.Expression) (cs : List Tree) : (node p s t e cs).span = s := rfl

@[simp] theorem text_node (p : Production) (s : Span) (t : List Char)
    (e : Option Sql.Expression) (cs : List Tree) : (node p s t e cs).text = t := rfl

@[simp] theorem expression_node (p : Production) (s : Span) (t : List Char)
    (e : Option Sql.Expression) (cs : List Tree) : (node p s t e cs).expression = e := rfl

@[simp] theorem children_node (p : Production) (s : Span) (t : List Char)
    (e : Option Sql.Expression) (cs : List Tree) : (node p s t e cs).children = cs := rfl

mutual

/-- The nodes of a production, a node before its parts, and the parts from left to right. -/
def nodesOf (p : Production) : Tree → List Tree
  | t@(node q _ _ _ cs) => if q = p then t :: nodesIn p cs else nodesIn p cs

/-- The nodes of a production in several trees. -/
def nodesIn (p : Production) : List Tree → List Tree
  | [] => []
  | t :: ts => nodesOf p t ++ nodesIn p ts

end

mutual

/-- A tree behind `n` more characters of text. -/
def shift (n : Nat) : Tree → Tree
  | node p s t e cs => node p (s.shift n) t e (shiftAll n cs)

/-- Several trees behind more text. -/
def shiftAll (n : Nat) : List Tree → List Tree
  | [] => []
  | t :: ts => shift n t :: shiftAll n ts

end

end Tree

end StatementShape.Statement
