import StatementShape.Classify.Classification
import StatementShape.Proofs.Statement.Layout

/-!
# Shapes

The classifier reads flags off a walk. Here the meaning of a statement is told by recursion on its
shape instead: an explanation means what the statement in it means, and a query statement means what
its main part means. A script of one statement is classified as the shape of that statement says.

## Main definitions

* `Core`, `Shape`: the shapes of query statements and of statements
* `Shape.yieldsRows`, `Shape.isRouted`, `Shape.label`: what a shape means
* `Shape.ofTree?`: the shape of a tree

## Main results

* `ofVisits_eq_true_iff`: a walk records the recognised productions that the tree has a node of
* `exists_shape_of_layout`: every statement that is laid out has a shape
* `classification_of_single`: a script of one statement is classified by the shape of it
-/

namespace StatementShape.Classify

open Statement (Production Tree Moment Visit)

/-! ### What a walk records -/

section Walk

theorem isRecognised_of_isEarly {p : Production} (h : isEarly p = true) : isRecognised p = true := by
  cases p <;> simp_all [isEarly, isRecognised]

theorem records_enter (p : Production) : Seen.records .enter p = isEarly p := rfl

theorem records_exit (p : Production) : Seen.records .exit p = isRecognised p := rfl

mutual

/-- The moments of a walk that record a production belong to the nodes of it. -/
theorem exists_visit_iff (p : Production) : ∀ t : Tree,
    (∃ v ∈ t.visits, p = v.tree.production ∧ Seen.records v.moment v.tree.production = true) ↔
      isRecognised p = true ∧ t.nodesOf p ≠ []
  | .node q s x e cs => by
    have ih := exists_visit_in_iff p cs
    simp only [Tree.visits, Tree.nodesOf, List.mem_cons, List.mem_append, List.not_mem_nil,
      or_false, or_and_right, exists_or, exists_eq_left, Tree.production_node, records_enter,
      records_exit]
    rw [ih]
    -- a node is met twice, and what counts early counts late as well
    by_cases hq : q = p
    · subst hq
      have := @isRecognised_of_isEarly q
      simp only [true_and, if_true, ne_eq, reduceCtorEq, not_false_eq_true, and_true]
      tauto
    · simp [hq, Ne.symm hq]

theorem exists_visit_in_iff (p : Production) : ∀ ts : List Tree,
    (∃ v ∈ Tree.visitsOf ts, p = v.tree.production ∧
        Seen.records v.moment v.tree.production = true) ↔
      isRecognised p = true ∧ Tree.nodesIn p ts ≠ []
  | [] => by simp [Tree.visitsOf, Tree.nodesIn]
  | t :: ts => by
    simp only [Tree.visitsOf, Tree.nodesIn, List.mem_append, or_and_right, exists_or,
      exists_visit_iff p t, exists_visit_in_iff p ts, ne_eq, List.append_eq_nil_iff, not_and_or]
    tauto

end

/-- **A walk records** the recognised productions that the tree has a node of. -/
theorem ofVisits_eq_true_iff {t : Tree} {p : Production} :
    Seen.ofVisits t.visits p = true ↔ isRecognised p = true ∧ t.nodesOf p ≠ [] := by
  rw [← exists_visit_iff, Seen.ofVisits, Seen.observeAll_eq_true_iff]
  simp [Seen.none]

end Walk

/-! ### Shapes and their meaning -/

/-- The shapes of query statements, by their main part: a selection, an insertion, or a source
with a selection behind it, with nothing behind it, or with a number of insertions. -/
inductive Core where
  | select | insert | fromSelection | fromAlone
  | fromInsertions (branches : Nat)
  deriving DecidableEq, Repr

/-- The shapes of statements. -/
inductive Shape where
  | query (withTables : Bool) (core : Core)
  | utility
  | explain (explained : Shape)
  deriving DecidableEq, Repr

/-- The label of a query statement. -/
def Core.label : Core → String
  | select => "select"
  | insert => "insert"
  | fromSelection | fromAlone => "from_query"
  | fromInsertions _ => "multi_insert"

namespace Shape

/-- Whether a statement yields rows: an explanation does if the explained statement does, and
common table expressions make no difference. -/
def yieldsRows : Shape → Bool
  | query _ .select | query _ .fromSelection | query _ .fromAlone => true
  | query _ .insert | query _ (.fromInsertions _) => false
  | utility => false
  | explain s => s.yieldsRows

/-- Whether a statement is explained. -/
def isExplained : Shape → Bool
  | explain _ => true
  | _ => false

/-- Whether the statement inside all explanations is a selection. -/
def isSelection : Shape → Bool
  | query _ .select => true
  | explain s => s.isSelection
  | _ => false

/-- Whether a statement is routed as a selection: if it yields rows and is not a selection that
is explained. -/
def isRouted (s : Shape) : Bool := s.yieldsRows && !(s.isExplained && s.isSelection)

/-- The label of a statement. -/
def label : Shape → String
  | query _ core => core.label
  | utility => "utility"
  | explain _ => "explain"

end Shape

/-! ### The shape of a tree -/

/-- Whether a node is a leaf of a production. -/
def isLeafOf (p : Production) (t : Tree) : Bool := t.production == p && t.children.isEmpty

/-- The shape of a source with some nodes behind it. -/
def Core.ofBehind? (behind : List Tree) : Option Core :=
  if behind.isEmpty then some .fromAlone
  else if behind.length = 1 ∧ behind.all (isLeafOf .fromRest) then some .fromSelection
  else if behind.all (isLeafOf .multiInsertBranch) then some (.fromInsertions behind.length)
  else none

/-- The shape of the main part of a query statement. -/
def Core.ofTree? : Tree → Option Core
  | .node .selectQueryStatement _ _ _ [] => some .select
  | .node .insertStatement _ _ _ [] => some .insert
  | .node .fromStatement _ _ _ (clause :: behind) =>
    if isLeafOf .fromClause clause then Core.ofBehind? behind else none
  | _ => none

/-- The shape of the tree of a statement, if it has one. -/
def Shape.ofTree? : Tree → Option Shape
  | .node .utilityStatement _ _ _ [] => some .utility
  | .node .explainStatement _ _ _ [explained] => (Shape.ofTree? explained).map .explain
  | .node .queryStatement _ _ _ [main] => (Core.ofTree? main).map (.query false)
  | .node .queryStatement _ _ _ [clause, main] =>
    if isLeafOf .withClause clause then (Core.ofTree? main).map (.query true) else none
  | _ => none

/-! ### Every statement has a shape -/

section Existence

variable {r : Sql.Reader} {text : List Char} {p : Production}

theorem isLeafOf_shift (n : Nat) (t : Tree) : isLeafOf p (t.shift n) = isLeafOf p t := by
  obtain ⟨q, s, x, e, cs⟩ := t
  cases cs <;> rfl

theorem all_isLeafOf_shiftAll (n : Nat) (ts : List Tree) :
    (Tree.shiftAll n ts).all (isLeafOf p) = ts.all (isLeafOf p) := by
  induction ts with
  | nil => rfl
  | cons t ts ih => rw [Tree.shiftAll, List.all_cons, List.all_cons, isLeafOf_shift, ih]

theorem Core.ofBehind?_shiftAll (n : Nat) (ts : List Tree) :
    Core.ofBehind? (Tree.shiftAll n ts) = Core.ofBehind? ts := by
  have hempty : (Tree.shiftAll n ts).isEmpty = ts.isEmpty := by cases ts <;> rfl
  simp only [Core.ofBehind?, hempty, Tree.length_shiftAll, all_isLeafOf_shiftAll]

theorem Core.ofTree?_shift (n : Nat) (t : Tree) : Core.ofTree? (t.shift n) = Core.ofTree? t := by
  obtain ⟨q, s, x, e, cs⟩ := t
  cases cs <;> cases q <;>
    simp only [Tree.shift, Tree.shiftAll, Core.ofTree?, isLeafOf_shift, Core.ofBehind?_shiftAll]

/-- Where a statement stands makes no difference to its shape. -/
theorem Shape.ofTree?_shift (n : Nat) : ∀ t : Tree, Shape.ofTree? (t.shift n) = Shape.ofTree? t
  | .node q _ _ _ [] => by cases q <;> simp only [Tree.shift, Tree.shiftAll, Shape.ofTree?]
  | .node q _ _ _ [t] => by
    have ih := Shape.ofTree?_shift n t
    cases q <;> simp only [Tree.shift, Tree.shiftAll, Shape.ofTree?, Core.ofTree?_shift, ih]
  | .node q _ _ _ [t, u] => by
    cases q <;>
      simp only [Tree.shift, Tree.shiftAll, Shape.ofTree?, Core.ofTree?_shift, isLeafOf_shift]
  | .node q _ _ _ (t :: u :: v :: ts) => by
    cases q <;> simp only [Tree.shift, Tree.shiftAll, Shape.ofTree?]

theorem isLeafOf_of_leafOver {kinds : Sql.ExpressionKind → Bool} {run : List Sql.Token} {t : Tree}
    (h : Statement.LeafOver r text p kinds run t) : isLeafOf p t = true := by
  obtain ⟨e, -, rfl⟩ := h
  simp [isLeafOf, Statement.nodeOver]

theorem Core.exists_ofBehind? {runs : List (List Sql.Token)} {parts : List Tree}
    (h : Statement.Behind r text runs parts) : ∃ core, Core.ofBehind? parts = some core := by
  cases h with
  | nothing => exact ⟨.fromAlone, rfl⟩
  | rest head read => exact ⟨.fromSelection, by simp [Core.ofBehind?, isLeafOf_of_leafOver read]⟩
  | branches some heads read =>
    have hall : parts.all (isLeafOf .multiInsertBranch) = true := by
      clear some heads
      induction read with
      | nil => rfl
      | cons leaf _ ih => simp [isLeafOf_of_leafOver leaf, ih]
    unfold Core.ofBehind?
    split
    · exact ⟨_, rfl⟩
    · split
      · exact ⟨_, rfl⟩
      · exact ⟨_, rfl⟩

theorem Core.exists_ofTree? {whole body : List Sql.Token} {t : Tree}
    (h : Statement.Main r text whole body t) : ∃ core, Core.ofTree? t = some core := by
  cases h with
  | from_ read =>
    obtain ⟨head, read, behind⟩ := read
    obtain ⟨core, hcore⟩ := Core.exists_ofBehind? behind
    exact ⟨core, by simp [Statement.nodeOver, Core.ofTree?, isLeafOf, hcore]⟩
  | insert head read => exact ⟨.insert, rfl⟩
  | select head read => exact ⟨.select, rfl⟩

/-- **Every statement that is laid out** has a shape. -/
theorem exists_shape_of_layout {tokens : List Sql.Token} {t : Tree}
    (h : Statement.Layout r text tokens t) : ∃ shape, Shape.ofTree? t = some shape := by
  induction h with
  | utility some head root read =>
    obtain ⟨e, -, rfl⟩ := read
    exact ⟨.utility, rfl⟩
  | query head root readFront readMain =>
    obtain ⟨core, hcore⟩ := Core.exists_ofTree? readMain
    cases readFront with
    | nothing =>
      exact ⟨.query false core, by simp [Statement.nodeOver, Shape.ofTree?, hcore]⟩
    | clause =>
      exact ⟨.query true core, by simp [Statement.nodeOver, Shape.ofTree?, isLeafOf, hcore]⟩
  | explain head cut some explained ih =>
    obtain ⟨shape, hshape⟩ := ih
    refine ⟨.explain shape, ?_⟩
    simp [Statement.nodeOver, Shape.ofTree?, Shape.ofTree?_shift, hshape]

end Existence

/-! ### What a walk records of a shape -/

/-- The productions of the main part of a query statement. -/
def Core.productions : Core → List Production
  | select => [.selectQueryStatement]
  | insert => [.insertStatement]
  | fromAlone => [.fromStatement, .fromClause]
  | fromSelection => [.fromStatement, .fromClause, .fromRest]
  | fromInsertions _ => [.fromStatement, .fromClause, .multiInsertBranch]

/-- The productions of a statement. -/
def Shape.productions : Shape → List Production
  | query withTables core =>
    .queryStatement :: ((if withTables then [.withClause] else []) ++ core.productions)
  | utility => [.utilityStatement]
  | explain s => .explainStatement :: s.productions

section Productions

variable {p : Production}

theorem nodesOf_ne_nil_of_isLeafOf {q : Production} {t : Tree} (h : isLeafOf q t = true) :
    t.nodesOf p ≠ [] ↔ p = q := by
  obtain ⟨q', s, x, e, cs⟩ := t
  obtain ⟨rfl, rfl⟩ : q' = q ∧ cs = [] := by simpa [isLeafOf] using h
  by_cases hq : q' = p
  · simp [Tree.nodesOf, hq]
  · simp [Tree.nodesOf, Tree.nodesIn, hq, Ne.symm hq]

theorem nodesIn_ne_nil_of_all_isLeafOf {q : Production} {ts : List Tree} (hne : ts ≠ [])
    (h : ts.all (isLeafOf q) = true) : Tree.nodesIn p ts ≠ [] ↔ p = q := by
  induction ts with
  | nil => exact absurd rfl hne
  | cons t ts ih =>
    obtain ⟨ht, hts⟩ := (Bool.and_eq_true _ _).mp (List.all_cons ▸ h)
    have hhead := nodesOf_ne_nil_of_isLeafOf (p := p) ht
    rw [Tree.nodesIn, ne_eq, List.append_eq_nil_iff, not_and_or, ← ne_eq, ← ne_eq, hhead]
    cases ts with
    | nil => simp [Tree.nodesIn]
    | cons u us => rw [ih (List.cons_ne_nil u us) hts, or_self]

theorem nodesIn_ne_nil_of_ofBehind? {core : Core} {behind : List Tree}
    (h : Core.ofBehind? behind = some core) :
    p = .fromStatement ∨ p = .fromClause ∨ Tree.nodesIn p behind ≠ [] ↔ p ∈ core.productions := by
  unfold Core.ofBehind? at h
  split at h
  · next hempty =>
    obtain rfl := List.isEmpty_iff.mp hempty
    cases h
    simp [Core.productions, Tree.nodesIn]
  · next hempty =>
    have hne : behind ≠ [] := by simpa using hempty
    split at h
    · next hrest =>
      cases h
      rw [nodesIn_ne_nil_of_all_isLeafOf hne hrest.2]
      simp [Core.productions]
    · split at h
      · next hall =>
        cases h
        rw [nodesIn_ne_nil_of_all_isLeafOf hne hall]
        simp [Core.productions]
      · cases h

theorem mem_productions_of_core {core : Core} {t : Tree} (h : Core.ofTree? t = some core) :
    t.nodesOf p ≠ [] ↔ p ∈ core.productions := by
  unfold Core.ofTree? at h
  split at h
  · next s x e =>
    cases h
    rw [nodesOf_ne_nil_of_isLeafOf (q := .selectQueryStatement) rfl, Core.productions,
      List.mem_singleton]
  · next s x e =>
    cases h
    rw [nodesOf_ne_nil_of_isLeafOf (q := .insertStatement) rfl, Core.productions,
      List.mem_singleton]
  · next s x e clause behind =>
    split at h
    · next hclause =>
      rw [← nodesIn_ne_nil_of_ofBehind? h, ← nodesOf_ne_nil_of_isLeafOf (p := p) hclause]
      by_cases hp : Production.fromStatement = p
      · simp [Tree.nodesOf, hp]
      · simp only [Tree.nodesOf, Tree.nodesIn, hp, Ne.symm hp, if_false, false_or, ne_eq,
          List.append_eq_nil_iff, not_and_or]
    · cases h
  · cases h

/-- The nodes of a statement have the productions of its shape. -/
theorem mem_productions_of_shape {shape : Shape} {t : Tree} (h : Shape.ofTree? t = some shape) :
    t.nodesOf p ≠ [] ↔ p ∈ shape.productions := by
  -- along the recursion that finds the shape: each node it meets is the head of the productions
  fun_induction Shape.ofTree? t generalizing shape with
  | case1 s x e =>
    cases h
    rw [nodesOf_ne_nil_of_isLeafOf (q := .utilityStatement) rfl, Shape.productions,
      List.mem_singleton]
  | case2 s x e explained ih =>
    obtain ⟨inner, hinner, rfl⟩ := Option.map_eq_some_iff.mp h
    rw [Shape.productions, List.mem_cons, ← ih hinner]
    by_cases hp : Production.explainStatement = p
    · simp [Tree.nodesOf, hp]
    · simp [Tree.nodesOf, Tree.nodesIn, hp, Ne.symm hp]
  | case3 s x e main =>
    obtain ⟨core, hcore, rfl⟩ := Option.map_eq_some_iff.mp h
    rw [Shape.productions, List.mem_cons, if_neg Bool.false_ne_true, List.nil_append,
      ← mem_productions_of_core hcore]
    by_cases hp : Production.queryStatement = p
    · simp [Tree.nodesOf, hp]
    · simp [Tree.nodesOf, Tree.nodesIn, hp, Ne.symm hp]
  | case4 s x e clause main hclause =>
    obtain ⟨core, hcore, rfl⟩ := Option.map_eq_some_iff.mp h
    rw [Shape.productions, List.mem_cons, if_pos rfl, List.mem_append, List.mem_singleton,
      ← mem_productions_of_core hcore, ← nodesOf_ne_nil_of_isLeafOf (p := p) hclause]
    by_cases hp : Production.queryStatement = p
    · simp [Tree.nodesOf, hp]
    · simp only [Tree.nodesOf, Tree.nodesIn, hp, Ne.symm hp, if_false, false_or, ne_eq,
        List.append_eq_nil_iff, List.append_nil, not_and_or]
  | case5 => cases h
  | case6 => cases h

end Productions

/-! ### The decisions -/

section Decisions

/-- What is seen of a shape. -/
def Shape.seen (shape : Shape) : Seen := fun p => isRecognised p && decide (p ∈ shape.productions)

/-- A selection is routed if it yields rows, unless it is an explained selection. -/
theorem isSelect_eq (s : Seen) :
    s.isSelect = (s.hasResultSet && !(s .explainStatement && s .selectQueryStatement)) := by
  -- the two decisions ask for the same productions in different orders
  unfold Seen.isSelect Seen.hasResultSet
  cases s .queryStatement <;> cases s .selectQueryStatement <;> cases s .explainStatement <;>
    cases s .insertStatement <;> cases s .fromStatement <;> simp

/-- Whether there are rows does not depend on explanations. -/
theorem hasResultSet_congr {s s' : Seen} (h : ∀ p, p ≠ .explainStatement → s p = s' p) :
    s.hasResultSet = s'.hasResultSet := by
  simp only [Seen.hasResultSet, h .queryStatement (by decide), h .selectQueryStatement (by decide),
    h .insertStatement (by decide), h .fromStatement (by decide), h .fromRest (by decide),
    h .multiInsertBranch (by decide)]

theorem Shape.seen_explain {s : Shape} {p : Production} (hp : p ≠ .explainStatement) :
    (Shape.explain s).seen p = s.seen p := by
  simp [Shape.seen, Shape.productions, hp]

theorem Shape.hasResultSet_seen (s : Shape) : s.seen.hasResultSet = s.yieldsRows := by
  induction s with
  | query withTables core =>
    cases withTables <;> cases core <;> rfl
  | utility => rfl
  | explain s ih =>
    rw [hasResultSet_congr fun p hp => Shape.seen_explain hp, ih, Shape.yieldsRows]

theorem Shape.seen_selectQueryStatement (s : Shape) :
    s.seen .selectQueryStatement = s.isSelection := by
  induction s with
  | query withTables core => cases withTables <;> cases core <;> rfl
  | utility => rfl
  | explain s ih => rw [Shape.seen_explain (by decide), ih, Shape.isSelection]

theorem Shape.seen_explainStatement (s : Shape) : s.seen .explainStatement = s.isExplained := by
  cases s with
  | query withTables core => cases withTables <;> cases core <;> rfl
  | utility => rfl
  | explain s => simp [Shape.seen, Shape.productions, isRecognised, Shape.isExplained]

theorem Shape.isSelect_seen (s : Shape) : s.seen.isSelect = s.isRouted := by
  rw [isSelect_eq, s.hasResultSet_seen, s.seen_selectQueryStatement, s.seen_explainStatement,
    Shape.isRouted]

theorem Shape.label_seen (s : Shape) : (Classification.ofSeen s.seen).label = s.label := by
  cases s with
  | query withTables core => cases withTables <;> cases core <;> rfl
  | utility => rfl
  | explain s =>
    have h := s.explain.seen_explainStatement
    simp only [Classification.label, Classification.ofSeen, h, Shape.isExplained, if_true,
      Shape.label]

/-- What is seen of several shapes in one walk. -/
def Shape.seenIn (shapes : List Shape) : Seen := fun p => shapes.any fun s => s.seen p

theorem nodesIn_ne_nil_iff_of_shapes {ts : List Tree} {shapes : List Shape} {p : Production}
    (h : List.Forall₂ (fun t s => Shape.ofTree? t = some s) ts shapes) :
    Tree.nodesIn p ts ≠ [] ↔ ∃ s ∈ shapes, p ∈ s.productions := by
  induction h with
  | nil => simp [Tree.nodesIn]
  | cons hshape _ ih =>
    rw [Tree.nodesIn, ne_eq, List.append_eq_nil_iff, not_and_or, ← ne_eq, ← ne_eq, ih,
      mem_productions_of_shape hshape]
    simp only [List.mem_cons, exists_eq_or_imp]

/-- A walk through a script sees the shapes of its statements. -/
theorem ofVisits_of_shapes {tree : Tree} {shapes : List Shape} (hp : tree.production = .script)
    (h : List.Forall₂ (fun t s => Shape.ofTree? t = some s) tree.children shapes) :
    Seen.ofVisits tree.visits = Shape.seenIn shapes := by
  obtain ⟨q, s, x, e, cs⟩ := tree
  obtain rfl : q = .script := hp
  funext p
  -- the root is met as well, but a script is not a production that counts
  have hnodes (hrec : isRecognised p = true) : Tree.nodesOf p (.node .script s x e cs) ≠ [] ↔
      ∃ s ∈ shapes, p ∈ s.productions := by
    have hne : Production.script ≠ p := by
      rintro rfl
      cases hrec
    rw [Tree.nodesOf, if_neg hne]
    exact nodesIn_ne_nil_iff_of_shapes h
  rw [Bool.eq_iff_iff, ofVisits_eq_true_iff, Shape.seenIn, List.any_eq_true]
  simp only [Shape.seen, Bool.and_eq_true, decide_eq_true_eq]
  constructor
  · rintro ⟨hrec, hp⟩
    obtain ⟨s, hs, hp⟩ := (hnodes hrec).mp hp
    exact ⟨s, hs, hrec, hp⟩
  · rintro ⟨s, hs, hrec, hp⟩
    exact ⟨hrec, (hnodes hrec).mpr ⟨s, hs, hp⟩⟩

/-- A walk through a script of one statement sees the shape of it. -/
theorem ofVisits_of_single {tree stmt : Tree} {shape : Shape} (hp : tree.production = .script)
    (hs : tree.children = [stmt]) (h : Shape.ofTree? stmt = some shape) :
    Seen.ofVisits tree.visits = shape.seen := by
  have hshapes : List.Forall₂ (fun t s => Shape.ofTree? t = some s) tree.children [shape] := by
    rw [hs]
    exact .cons h .nil
  rw [ofVisits_of_shapes hp hshapes]
  funext p
  rw [Shape.seenIn, List.any_cons, List.any_nil, Bool.or_false]

/-- **A script of one statement** is classified as the shape of that statement says. -/
theorem classification_of_single {r : Sql.Reader} {text : List Char} {tree stmt : Tree}
    (h : Statement.script r text = .ok tree) (hs : tree.children = [stmt]) :
    ∃ shape, Shape.ofTree? stmt = some shape ∧
      (Classification.ofTree tree).hasResultSet = shape.yieldsRows ∧
      (Classification.ofTree tree).isSelect = shape.isRouted ∧
      (Classification.ofTree tree).label = shape.label := by
  obtain ⟨tokens, parts, -, -, layouts, rfl⟩ := Statement.layouts_of_script h
  obtain rfl : parts = [stmt] := hs
  obtain ⟨group, groups, hlayout, -, -⟩ := List.forall₂_cons_right_iff.mp layouts
  obtain ⟨shape, hshape⟩ := exists_shape_of_layout hlayout
  refine ⟨shape, hshape, ?_⟩
  rw [Classification.ofTree, ofVisits_of_single rfl rfl hshape]
  exact ⟨shape.hasResultSet_seen, shape.isSelect_seen, shape.label_seen⟩

/-- An explained source yields rows and is routed as a selection, under the label of an
explanation. -/
theorem classification_of_explained_source :
    ∃ tree, Statement.script Statement.smallReader "EXPLAIN WITH c AS (SELECT 1) FROM c".toList =
        .ok tree ∧
      (Classification.ofTree tree).hasResultSet = true ∧
      (Classification.ofTree tree).isSelect = true ∧
      (Classification.ofTree tree).label = "explain" := by
  obtain ⟨tree, h, hshapes⟩ := exists_of_toOption_any
    (x := Statement.script Statement.smallReader "EXPLAIN WITH c AS (SELECT 1) FROM c".toList)
    (p := fun tree => tree.children.map Shape.ofTree? == [some (.explain (.query true .fromAlone))])
    (by decide +kernel)
  obtain ⟨stmt, hs, hshape⟩ := List.map_eq_singleton_iff.mp (eq_of_beq hshapes)
  obtain ⟨shape, hshape', hrows, hselect, hlabel⟩ := classification_of_single h hs
  obtain rfl : Shape.explain (.query true .fromAlone) = shape :=
    Option.some.inj (hshape.symm.trans hshape')
  exact ⟨tree, h, hrows, hselect, hlabel⟩

end Decisions

end StatementShape.Classify
