import StatementShape.Statement.Tree

/-!
# Visits

Walking a tree visits every node twice: when it is entered, before its parts, and when it is left,
behind them.

## Main definitions

* `Moment`: entering and leaving
* `Visit`: a moment with the node
* `Tree.visits`: the visits of a walk, in order

## Main results

* `Tree.entered_visits`: the nodes entered with a production are the nodes of that production
-/

namespace StatementShape.Statement

/-- The moments of a visit. -/
inductive Moment where
  | enter | exit
  deriving DecidableEq, Repr

/-- A visit of a node. -/
structure Visit where
  moment : Moment
  tree : Tree
  deriving Repr

namespace Tree

mutual

/-- The visits of a walk: a node is entered before its parts are visited, and left behind
them. -/
def visits : Tree → List Visit
  | t@(node _ _ _ _ cs) => ⟨.enter, t⟩ :: (visitsOf cs ++ [⟨.exit, t⟩])

/-- The visits of several trees, one behind the other. -/
def visitsOf : List Tree → List Visit
  | [] => []
  | t :: ts => visits t ++ visitsOf ts

end

/-- The nodes that are entered with a production, in the order of their visits. -/
def entered (p : Production) (vs : List Visit) : List Tree :=
  vs.filterMap fun v => if v.moment = .enter ∧ v.tree.production = p then some v.tree else none

@[simp] theorem entered_append (p : Production) (vs ws : List Visit) :
    entered p (vs ++ ws) = entered p vs ++ entered p ws := List.filterMap_append

mutual

/-- **A walk enters** exactly the nodes of each production, in their order. -/
theorem entered_visits (p : Production) : ∀ t : Tree, entered p t.visits = t.nodesOf p
  | node q s x e cs => by
    have ih := entered_visitsOf p cs
    unfold visits nodesOf
    by_cases hq : q = p
    · simp only [entered, List.filterMap_cons, List.filterMap_append] at ih ⊢
      simp [hq, ih]
    · simp only [entered, List.filterMap_cons, List.filterMap_append] at ih ⊢
      simp [hq, ih]

/-- A walk through several trees enters exactly their nodes of each production. -/
theorem entered_visitsOf (p : Production) :
    ∀ ts : List Tree, entered p (visitsOf ts) = nodesIn p ts
  | [] => by simp [visitsOf, nodesIn, entered]
  | t :: ts => by
    simp [visitsOf, nodesIn, entered_visits p t, entered_visitsOf p ts]

end

end Tree

end StatementShape.Statement
