import StatementShape.Proofs.Classify.Outcome

/-!
# Remarks and decisions

Four checks remark on a script that is not blocked. Each of them reads the tree or the record of the
walk in its own way, and so do the two decisions. All of it is settled by the main part of the query
inside all explanations, if there is one: at most one check has something to say, and what it says
agrees with the decisions.

## Main definitions

* `mainOf?`: the main part of the query inside all explanations
* `MainPart`: the main parts of a core
* `Core.remark`: the remark on a query, by its main part
* `Agrees`: remarks that agree with the decisions

## Main results

* `remarks_of_query`, `remarks_of_utility`: the remarks on a script of one statement
* `agrees_of_examine`: the remarks on a text that is not blocked agree with the decisions on it
-/

namespace StatementShape.Classify

open Report (Diagnostic Role codeText)
open Sql (Reader)
open Statement (Production Tree)

/-! ### Main parts -/

/-- The core of a shape, inside all explanations, if it is that of a query. -/
def Shape.core? : Shape → Option Core
  | query _ core => some core
  | utility => none
  | explain s => s.core?

/-- Whether a core yields rows. -/
def Core.yieldsRows : Core → Bool
  | select | fromSelection | fromAlone => true
  | insert | fromInsertions _ => false

section Shapes

theorem Shape.yieldsRows_eq (s : Shape) : s.yieldsRows = s.core?.any Core.yieldsRows := by
  induction s with
  | query withTables core => cases core <;> rfl
  | utility => rfl
  | explain s ih => exact ih

theorem Shape.isSelection_eq (s : Shape) : s.isSelection = decide (s.core? = some .select) := by
  induction s with
  | query withTables core => cases core <;> rfl
  | utility => rfl
  | explain s ih => exact ih

theorem Shape.seen_queryStatement (s : Shape) : s.seen .queryStatement = s.core?.isSome := by
  induction s with
  | query withTables core => simp [Shape.seen, Shape.productions, isRecognised, Shape.core?]
  | utility => rfl
  | explain s ih => rw [Shape.seen_explain (by decide), ih, Shape.core?]

/-- Without a query there are utility statements and explanations alone. -/
theorem Shape.mem_productions_of_utility {s : Shape} {p : Production} (h : s.core? = none)
    (hp : p ∈ s.productions) : p = .utilityStatement ∨ p = .explainStatement := by
  induction s with
  | query withTables core => cases h
  | utility => exact .inl (List.mem_singleton.mp hp)
  | explain s ih =>
    rcases List.mem_cons.mp hp with rfl | hp
    · exact .inr rfl
    · exact ih h hp

end Shapes

/-- The main part of the query inside all explanations of a statement, if there is one. -/
def mainOf? : Tree → Option Tree
  | .node .explainStatement _ _ _ [explained] => mainOf? explained
  | .node .queryStatement _ _ _ [main] => some main
  | .node .queryStatement _ _ _ [_, main] => some main
  | _ => none

/-- The main parts of a core. -/
inductive MainPart : Core → Tree → Prop
  | select {s : Text.Span} {x : List Char} {e : Option Sql.Expression} :
      MainPart .select (.node .selectQueryStatement s x e [])
  | insert {s : Text.Span} {x : List Char} {e : Option Sql.Expression} :
      MainPart .insert (.node .insertStatement s x e [])
  | fromAlone {s : Text.Span} {x : List Char} {e : Option Sql.Expression} {clause : Tree}
      (hclause : isLeafOf .fromClause clause = true) :
      MainPart .fromAlone (.node .fromStatement s x e [clause])
  | fromSelection {s : Text.Span} {x : List Char} {e : Option Sql.Expression} {clause rest : Tree}
      (hclause : isLeafOf .fromClause clause = true) (hrest : isLeafOf .fromRest rest = true) :
      MainPart .fromSelection (.node .fromStatement s x e [clause, rest])
  | fromInsertions {s : Text.Span} {x : List Char} {e : Option Sql.Expression} {clause : Tree}
      {branches : List Tree} (hclause : isLeafOf .fromClause clause = true) (some : branches ≠ [])
      (hbranches : ∀ b ∈ branches, isLeafOf .multiInsertBranch b = true) :
      MainPart (.fromInsertions branches.length) (.node .fromStatement s x e (clause :: branches))

section MainParts

variable {p q : Production} {t m : Tree} {core : Core} {shape : Shape}

theorem mainPart_of_core (h : Core.ofTree? m = some core) : MainPart core m := by
  unfold Core.ofTree? at h
  split at h
  · cases h; exact .select
  · cases h; exact .insert
  · next s x e clause behind =>
    split at h
    · next hclause =>
      unfold Core.ofBehind? at h
      split at h
      · next hempty =>
        obtain rfl := List.isEmpty_iff.mp hempty
        cases h
        exact .fromAlone hclause
      · next hempty =>
        split at h
        · next hrest =>
          obtain ⟨rest, rfl⟩ := List.length_eq_one_iff.mp hrest.1
          cases h
          exact .fromSelection hclause (by simpa using hrest.2)
        · split at h
          · next hall =>
            cases h
            exact .fromInsertions hclause (by simpa using hempty) (List.all_eq_true.mp hall)
          · cases h
    · cases h
  · cases h

/-- A statement with a shape has the main part of the core of it, or neither. -/
theorem main_of_shape (h : Shape.ofTree? t = some shape) :
    (shape.core? = none ∧ mainOf? t = none) ∨
      ∃ core m, shape.core? = some core ∧ mainOf? t = some m ∧ MainPart core m := by
  fun_induction Shape.ofTree? t generalizing shape with
  | case1 => cases h; exact .inl ⟨rfl, rfl⟩
  | case2 s x e explained ih =>
    obtain ⟨inner, hinner, rfl⟩ := Option.map_eq_some_iff.mp h
    have hmain := ih hinner
    exact hmain
  | case3 s x e main =>
    obtain ⟨core, hcore, rfl⟩ := Option.map_eq_some_iff.mp h
    exact .inr ⟨core, main, rfl, rfl, mainPart_of_core hcore⟩
  | case4 s x e clause main hclause =>
    obtain ⟨core, hcore, rfl⟩ := Option.map_eq_some_iff.mp h
    exact .inr ⟨core, main, rfl, rfl, mainPart_of_core hcore⟩
  | case5 => cases h
  | case6 => cases h

/-- Explanations are statements whose shape is explained. -/
theorem isExplained_of_shape (h : Shape.ofTree? t = some shape) :
    shape.isExplained = decide (t.production = .explainStatement) := by
  fun_induction Shape.ofTree? t with
  | case1 => cases h; rfl
  | case2 s x e explained =>
    obtain ⟨inner, -, rfl⟩ := Option.map_eq_some_iff.mp h
    rfl
  | case3 s x e main =>
    obtain ⟨core, -, rfl⟩ := Option.map_eq_some_iff.mp h
    rfl
  | case4 s x e clause main hclause =>
    obtain ⟨core, -, rfl⟩ := Option.map_eq_some_iff.mp h
    rfl
  | case5 => cases h
  | case6 => cases h

/-- The production of a core. -/
def Core.production : Core → Production
  | select => .selectQueryStatement
  | insert => .insertStatement
  | fromSelection | fromAlone | fromInsertions _ => .fromStatement

/-- The productions of the parts of a core. -/
def Core.parts : Core → List Production
  | select | insert => []
  | fromAlone => [.fromClause]
  | fromSelection => [.fromClause, .fromRest]
  | fromInsertions n => .fromClause :: List.replicate n .multiInsertBranch

theorem production_of_isLeafOf (h : isLeafOf p t = true) : t.production = p :=
  eq_of_beq ((Bool.and_eq_true _ _).mp h).1

theorem MainPart.production_eq (h : MainPart core m) : m.production = core.production := by
  cases h <;> rfl

theorem MainPart.map_production (h : MainPart core m) :
    m.children.map (·.production) = core.parts := by
  cases h with
  | select => rfl
  | insert => rfl
  | fromAlone hclause => simp [Core.parts, production_of_isLeafOf hclause]
  | fromSelection hclause hrest =>
    simp [Core.parts, production_of_isLeafOf hclause, production_of_isLeafOf hrest]
  | fromInsertions hclause some hbranches =>
    rw [Tree.children_node, List.map_cons, production_of_isLeafOf hclause, Core.parts,
      List.map_eq_replicate_iff.mpr fun b hb => production_of_isLeafOf (hbranches b hb)]

theorem MainPart.insertions_pos {n : Nat} (h : MainPart (.fromInsertions n) m) : n ≠ 0 := by
  cases h with
  | fromInsertions hclause some hbranches => simpa using some

/-! ### Nodes of main parts -/

theorem nodesOf_leaf (h : isLeafOf q t = true) : t.nodesOf p = if q = p then [t] else [] := by
  obtain ⟨q', s, x, e, cs⟩ := t
  obtain ⟨rfl, rfl⟩ : q' = q ∧ cs = [] := by simpa [isLeafOf] using h
  simp [Tree.nodesOf, Tree.nodesIn]

theorem nodesIn_leaves {ts : List Tree} (h : ∀ t ∈ ts, isLeafOf q t = true) :
    Tree.nodesIn p ts = if q = p then ts else [] := by
  induction ts with
  | nil => simp [Tree.nodesIn]
  | cons t ts ih =>
    rw [Tree.nodesIn, nodesOf_leaf (h t List.mem_cons_self),
      ih fun u hu => h u (List.mem_cons_of_mem t hu)]
    split <;> rfl

/-- Productions of the wrapping around a main part. -/
def isWrapping : Production → Bool
  | .script | .explainStatement | .queryStatement | .withClause => true
  | _ => false

/-- The nodes of a statement are those of its main part, but for the wrapping. -/
theorem nodesOf_of_main (hp : isWrapping p = false) (h : Shape.ofTree? t = some shape)
    (hm : mainOf? t = some m) : t.nodesOf p = m.nodesOf p := by
  have hexplain : Production.explainStatement ≠ p := by rintro rfl; cases hp
  have hquery : Production.queryStatement ≠ p := by rintro rfl; cases hp
  have hwith : Production.withClause ≠ p := by rintro rfl; cases hp
  fun_induction Shape.ofTree? t generalizing shape with
  | case1 => cases hm
  | case2 s x e explained ih =>
    obtain ⟨inner, hinner, rfl⟩ := Option.map_eq_some_iff.mp h
    simp only [Tree.nodesOf, Tree.nodesIn, if_neg hexplain, List.append_nil]
    exact ih hinner hm
  | case3 s x e main =>
    cases hm
    simp only [Tree.nodesOf, Tree.nodesIn, if_neg hquery, List.append_nil]
  | case4 s x e clause main hclause =>
    cases hm
    simp only [Tree.nodesOf, Tree.nodesIn, if_neg hquery, List.append_nil,
      nodesOf_leaf hclause, if_neg hwith, List.nil_append]
  | case5 => cases h
  | case6 => cases h

/-- The nodes that begin with a source are the main part, if it does. -/
theorem MainPart.nodesOf_fromStatement (h : MainPart core m) :
    m.nodesOf .fromStatement = if m.production = .fromStatement then [m] else [] := by
  cases h with
  | select => rfl
  | insert => rfl
  | fromAlone hclause => simp [Tree.nodesOf, Tree.nodesIn, nodesOf_leaf hclause]
  | fromSelection hclause hrest =>
    simp [Tree.nodesOf, Tree.nodesIn, nodesOf_leaf hclause, nodesOf_leaf hrest]
  | fromInsertions hclause some hbranches =>
    simp [Tree.nodesOf, Tree.nodesIn, nodesOf_leaf hclause, nodesIn_leaves hbranches]

theorem MainPart.nodesOf_insertStatement (h : MainPart core m) :
    m.nodesOf .insertStatement ≠ [] ↔ core = .insert := by
  cases h with
  | select => simp [Tree.nodesOf, Tree.nodesIn]
  | insert => simp [Tree.nodesOf]
  | fromAlone hclause => simp [Tree.nodesOf, Tree.nodesIn, nodesOf_leaf hclause]
  | fromSelection hclause hrest =>
    simp [Tree.nodesOf, Tree.nodesIn, nodesOf_leaf hclause, nodesOf_leaf hrest]
  | fromInsertions hclause some hbranches =>
    simp [Tree.nodesOf, Tree.nodesIn, nodesOf_leaf hclause, nodesIn_leaves hbranches]

/-- The insertions of a core are what stands behind the source, if they are any. -/
def Core.insertions (m : Tree) : Core → List Tree
  | fromInsertions _ => m.children.tail
  | _ => []

theorem MainPart.nodesOf_multiInsertBranch (h : MainPart core m) :
    m.nodesOf .multiInsertBranch = core.insertions m := by
  cases h with
  | select => rfl
  | insert => rfl
  | fromAlone hclause => simp [Tree.nodesOf, Tree.nodesIn, nodesOf_leaf hclause, Core.insertions]
  | fromSelection hclause hrest =>
    simp [Tree.nodesOf, Tree.nodesIn, nodesOf_leaf hclause, nodesOf_leaf hrest, Core.insertions]
  | fromInsertions hclause some hbranches =>
    simp [Tree.nodesOf, Tree.nodesIn, nodesOf_leaf hclause, nodesIn_leaves hbranches,
      Core.insertions]

/-- The nodes of a script of one statement are those of the statement. -/
theorem nodesOf_of_single {tree : Tree} (hp : tree.production = .script)
    (hs : tree.children = [t]) (hne : p ≠ .script) : tree.nodesOf p = t.nodesOf p := by
  obtain ⟨q, s, x, e, cs⟩ := tree
  obtain rfl : q = .script := hp
  obtain rfl : cs = [t] := hs
  simp [Tree.nodesOf, Tree.nodesIn, hne.symm]

/-- The nodes of a script of one query are those of its main part, but for the wrapping. -/
theorem nodesOf_of_query {tree : Tree} (hp : tree.production = .script) (hs : tree.children = [t])
    (hshape : Shape.ofTree? t = some shape) (hm : mainOf? t = some m)
    (hwrap : isWrapping p = false) : tree.nodesOf p = m.nodesOf p := by
  have hne : p ≠ .script := by rintro rfl; cases hwrap
  rw [nodesOf_of_single hp hs hne, nodesOf_of_main hwrap hshape hm]

theorem production_of_script {r : Reader} {text : List Char} {tree : Tree}
    (h : Statement.script r text = .ok tree) : tree.production = .script := by
  obtain ⟨tokens, parts, -, -, -, rfl⟩ := Statement.layouts_of_script h
  rfl

/-- Every statement of a script has a shape. -/
theorem exists_shape_of_script {r : Reader} {text : List Char} {tree : Tree}
    (h : Statement.script r text = .ok tree) :
    ∀ t ∈ tree.children, ∃ shape, Shape.ofTree? t = some shape := by
  obtain ⟨tokens, parts, -, -, layouts, rfl⟩ := Statement.layouts_of_script h
  intro t ht
  obtain ⟨run, -, layout⟩ := exists_mem_of_forall₂ layouts ht
  exact exists_shape_of_layout layout

theorem nodesOf_head {t : Tree} (h : t.production = p) : (t.nodesOf p).head? = some t := by
  obtain ⟨q, s, x, e, cs⟩ := t
  simp [Tree.nodesOf, show q = p from h]

end MainParts

/-! ### The remark on a statement -/

/-- The remark on a query, by its main part: an explained selection, a source alone and
insertions from a source deserve one. -/
def Core.remark (stmt m : Tree) : Core → Option Diagnostic
  | select =>
    if stmt.production = .explainStatement then some (explainedSelection stmt) else none
  | insert | fromSelection => none
  | fromAlone => some (sourceAlone m)
  | fromInsertions _ => some (sourceInsertions m.children.tail)

section Remarks

variable {tree stmt m : Tree} {shape : Shape} {core : Core}

theorem productions_of_single (hp : tree.production = .script) (hs : tree.children = [stmt])
    (hshape : Shape.ofTree? stmt = some shape) :
    (Classification.ofTree tree).productions = shape.seen :=
  ofVisits_of_single hp hs hshape

/-- An explained selection is remarked on at the outermost explanation. -/
theorem explainedSelect_of_single (hp : tree.production = .script) (hs : tree.children = [stmt])
    (hshape : Shape.ofTree? stmt = some shape) :
    explainedSelect tree (Classification.ofTree tree) =
      .ok (if shape.core? = some .select ∧ stmt.production = .explainStatement then
        some (explainedSelection stmt) else none) := by
  rw [explainedSelect, productions_of_single hp hs hshape, shape.seen_explainStatement,
    shape.seen_selectQueryStatement, isExplained_of_shape hshape, shape.isSelection_eq,
    nodesOf_of_single hp hs (by decide)]
  by_cases hexplain : stmt.production = .explainStatement
  · rw [nodesOf_head hexplain]
    by_cases hselect : shape.core? = some .select
    · simp [hexplain, hselect]
    · simp [hexplain, hselect]
  · simp [hexplain]

/-- **The remarks on a script** of one query are the one that the query deserves. -/
theorem remarks_of_query (hp : tree.production = .script) (hs : tree.children = [stmt])
    (hshape : Shape.ofTree? stmt = some shape) (hcore : shape.core? = some core)
    (hm : mainOf? stmt = some m) (hpart : MainPart core m) :
    remarks tree (Classification.ofTree tree) = .ok (core.remark stmt m).toList := by
  have hquery : unclassified tree (Classification.ofTree tree) = none := by
    rw [unclassified, productions_of_single hp hs hshape, shape.seen_queryStatement, hcore]
    rfl
  have hinserts : tree.nodesOf .multiInsertBranch = core.insertions m := by
    rw [nodesOf_of_query hp hs hshape hm rfl, hpart.nodesOf_multiInsertBranch]
  have hfrom : tree.nodesOf .fromStatement = if m.production = .fromStatement then [m] else [] := by
    rw [nodesOf_of_query hp hs hshape hm rfl, hpart.nodesOf_fromStatement]
  simp only [remarks, explainedSelect_of_single hp hs hshape, hquery, multiInsert, hinserts,
    bareFrom, hfrom, hcore]
  cases hpart with
  | select => simp [Except.map, Core.insertions, Core.remark]
  | insert => simp [Except.map, Core.insertions, Core.remark]
  | fromAlone hclause =>
    simp [Except.map, Core.insertions, Core.remark, isBareFrom, production_of_isLeafOf hclause]
  | fromSelection hclause hrest =>
    simp [Except.map, Core.insertions, Core.remark, isBareFrom, production_of_isLeafOf hrest]
  | fromInsertions hclause some hbranches =>
    obtain ⟨branch, more, rfl⟩ := List.exists_cons_of_ne_nil some
    have hbranch := production_of_isLeafOf (hbranches branch List.mem_cons_self)
    simp [Except.map, Core.insertions, Core.remark, isBareFrom, hbranch]

/-- A script without a query has utility statements and explanations alone. -/
theorem nodesOf_of_utility (hp : tree.production = .script) (hs : tree.children = [stmt])
    (hshape : Shape.ofTree? stmt = some shape) (hcore : shape.core? = none) {p : Production}
    (hscript : p ≠ .script) (hutility : p ≠ .utilityStatement) (hexplain : p ≠ .explainStatement) :
    tree.nodesOf p = [] := by
  rw [nodesOf_of_single hp hs hscript]
  by_contra hne
  rcases Shape.mem_productions_of_utility hcore ((mem_productions_of_shape hshape).mp hne)
    with h | h
  · exact hutility h
  · exact hexplain h

/-- **The remark on a script** of one statement without a query is that it has none. -/
theorem remarks_of_utility (hp : tree.production = .script) (hs : tree.children = [stmt])
    (hshape : Shape.ofTree? stmt = some shape) (hcore : shape.core? = none) :
    remarks tree (Classification.ofTree tree) =
      .ok [notQuery (tree.nodesOf .utilityStatement).head?] := by
  have hquery : unclassified tree (Classification.ofTree tree) =
      some (notQuery (tree.nodesOf .utilityStatement).head?) := by
    rw [unclassified, productions_of_single hp hs hshape, shape.seen_queryStatement, hcore]
    rfl
  have hnone := @nodesOf_of_utility tree stmt shape hp hs hshape hcore
  simp only [remarks, explainedSelect_of_single hp hs hshape, hquery, multiInsert, bareFrom,
    hnone (p := .multiInsertBranch) (by decide) (by decide) (by decide),
    hnone (p := .fromStatement) (by decide) (by decide) (by decide), hcore]
  rfl

end Remarks

/-! ### Agreement -/

/-- A diagnostic that counts and marks some insertions of a text, in their order. -/
structure MarksInsertions (r : Reader) (sql : List Char) (branches : List Tree) (d : Diagnostic) :
    Prop where
  message_eq : d.message = "FROM statement writes to " ++ toString branches.length ++ " insert " ++
    if branches.length = 1 then "branch" else "branches"
  roles_eq : d.marks.map (·.role) = List.replicate branches.length Role.secondary
  spans_eq : d.marks.map (·.span) = branches.map (·.span)
  slices_eq : r.KeepsOrder → (d.marks.map fun mark => mark.span.slice sql) = branches.map (·.text)
  ascending : r.KeepsOrder → d.marks.Pairwise fun mark next => mark.span.stop ≤ next.span.start

/-- Remarks that agree with the decisions on a script: there is at most one of them; the
decisions differ exactly where an explained selection is remarked on; every other remark tells which
parts the tree has, and what the decisions are; and there is none exactly for a selection that is
not explained, an insertion, and a source with a selection behind it. -/
structure Agrees (r : Reader) (tree : Tree) (c : Classification) (report : Report) : Prop where
  length_le : report.diagnostics.length ≤ 1
  explained_iff : report.codes = ["Q0202"] ↔ c.hasResultSet = true ∧ c.isSelect = false
  notQuery_iff : report.codes = ["Q0201"] ↔ tree.nodesOf .queryStatement = []
  notQuery : report.codes = ["Q0201"] → c.hasResultSet = false ∧ c.isSelect = false
  insertions_iff : report.codes = ["Q0203"] ↔
    ∃ f ∈ tree.nodesOf .fromStatement, ∃ b ∈ f.children, b.production = .multiInsertBranch
  insertions : report.codes = ["Q0203"] → c.hasResultSet = false ∧ c.isSelect = false ∧
    ∃ d, report.diagnostics = [d] ∧
      MarksInsertions r report.sql (tree.nodesOf .multiInsertBranch) d
  bare_iff : report.codes = ["Q0204"] ↔
    ∃ f ∈ tree.nodesOf .fromStatement, f.children.map (·.production) = [.fromClause]
  bare : report.codes = ["Q0204"] → c.hasResultSet = true ∧ c.isSelect = true
  nothing_iff : report.diagnostics = [] ↔
    (tree.nodesOf .explainStatement = [] ∧ tree.nodesOf .selectQueryStatement ≠ []) ∨
      tree.nodesOf .insertStatement ≠ [] ∨
      ∃ f ∈ tree.nodesOf .fromStatement, ∃ p ∈ f.children, p.production = .fromRest

section Agreement

variable {r : Reader} {sql : List Char} {tree stmt m : Tree} {shape : Shape} {core : Core}

@[simp] theorem codeText_notQuery (utility : Option Tree) :
    codeText (notQuery utility).code = "Q0201" := by
  obtain ⟨notes, h⟩ := notQuery_eq utility
  rw [h]
  exact (by decide : codeText Report.unclassifiedCode = "Q0201")

@[simp] theorem codeText_explainedSelection (t : Tree) :
    codeText (explainedSelection t).code = "Q0202" :=
  (by decide : codeText Report.explainedSelectCode = "Q0202")

@[simp] theorem codeText_sourceInsertions (branches : List Tree) :
    codeText (sourceInsertions branches).code = "Q0203" := by
  rw [sourceInsertions_eq]
  exact (by decide : codeText Report.multiInsertCode = "Q0203")

@[simp] theorem codeText_sourceAlone (t : Tree) : codeText (sourceAlone t).code = "Q0204" :=
  (by decide : codeText Report.bareFromCode = "Q0204")

theorem hasResultSet_of_single (hp : tree.production = .script) (hs : tree.children = [stmt])
    (hshape : Shape.ofTree? stmt = some shape) :
    (Classification.ofTree tree).hasResultSet = shape.core?.any Core.yieldsRows := by
  rw [← shape.yieldsRows_eq, ← shape.hasResultSet_seen, ← productions_of_single hp hs hshape]
  rfl

theorem isSelect_of_single (hp : tree.production = .script) (hs : tree.children = [stmt])
    (hshape : Shape.ofTree? stmt = some shape) :
    (Classification.ofTree tree).isSelect = (shape.core?.any Core.yieldsRows &&
      !(decide (stmt.production = .explainStatement) && decide (shape.core? = some .select))) := by
  rw [← shape.yieldsRows_eq, ← shape.isSelection_eq, ← isExplained_of_shape hshape,
    ← Shape.isRouted, ← shape.isSelect_seen, ← productions_of_single hp hs hshape]
  rfl

/-- A script of one statement has nodes of the productions that are seen of its shape. -/
theorem nodesOf_ne_nil_iff (hp : tree.production = .script) (hs : tree.children = [stmt])
    (hshape : Shape.ofTree? stmt = some shape) {p : Production} (hrec : isRecognised p = true) :
    tree.nodesOf p ≠ [] ↔ shape.seen p = true := by
  rw [nodesOf_of_single hp hs (by rintro rfl; cases hrec), mem_productions_of_shape hshape,
    Shape.seen, hrec, Bool.true_and, decide_eq_true_eq]

/-- Without a query the one remark agrees with the decisions. -/
theorem agrees_of_utility (hp : tree.production = .script) (hs : tree.children = [stmt])
    (hshape : Shape.ofTree? stmt = some shape) (hcore : shape.core? = none)
    (utility : Option Tree) :
    Agrees r tree (Classification.ofTree tree)
      (classifiedAs sql [notQuery utility] (Classification.ofTree tree)) := by
  have hrows : (Classification.ofTree tree).hasResultSet = false := by
    rw [hasResultSet_of_single hp hs hshape, hcore]
    rfl
  have hselect : (Classification.ofTree tree).isSelect = false := by
    rw [isSelect_of_single hp hs hshape, hcore]
    rfl
  have hnone := @nodesOf_of_utility tree stmt shape hp hs hshape hcore
  have hquery := hnone (p := .queryStatement) (by decide) (by decide) (by decide)
  have hfrom := hnone (p := .fromStatement) (by decide) (by decide) (by decide)
  have hinsert := hnone (p := .insertStatement) (by decide) (by decide) (by decide)
  have hselection := hnone (p := .selectQueryStatement) (by decide) (by decide) (by decide)
  constructor <;> simp [hrows, hselect, hquery, hfrom, hinsert, hselection]

/-- The code of the remark on a query, which may be explained. -/
def Core.code (explained : Bool) : Core → Option String
  | select => if explained then some "Q0202" else none
  | insert | fromSelection => none
  | fromAlone => some "Q0204"
  | fromInsertions _ => some "Q0203"

theorem Core.codes_remark (stmt m : Tree) (core : Core) :
    ((core.remark stmt m).toList.map fun d => codeText d.code) =
      (core.code (decide (stmt.production = .explainStatement))).toList := by
  cases core with
  | select =>
    simp only [Core.remark, Core.code, decide_eq_true_eq]
    split <;> simp
  | insert => rfl
  | fromSelection => rfl
  | fromAlone => simp [Core.remark, Core.code]
  | fromInsertions n => simp [Core.remark, Core.code]

/-- The remark on a query agrees with the decisions. -/
theorem agrees_of_query (hp : tree.production = .script) (hs : tree.children = [stmt])
    (hshape : Shape.ofTree? stmt = some shape) (hcore : shape.core? = some core)
    (hm : mainOf? stmt = some m) (hpart : MainPart core m)
    (hmarks : MarksInsertions r sql (tree.nodesOf .multiInsertBranch)
      (sourceInsertions (tree.nodesOf .multiInsertBranch))) :
    Agrees r tree (Classification.ofTree tree)
      (classifiedAs sql (core.remark stmt m).toList (Classification.ofTree tree)) := by
  have hrows : (Classification.ofTree tree).hasResultSet = core.yieldsRows := by
    rw [hasResultSet_of_single hp hs hshape, hcore, Option.any_some]
  have hselect : (Classification.ofTree tree).isSelect = (core.yieldsRows &&
      !(decide (stmt.production = .explainStatement) && decide (core = .select))) := by
    rw [isSelect_of_single hp hs hshape, hcore, Option.any_some]
    simp
  have hquery : tree.nodesOf .queryStatement ≠ [] := by
    rw [nodesOf_ne_nil_iff hp hs hshape rfl, shape.seen_queryStatement, hcore, Option.isSome_some]
  have hexplain : tree.nodesOf .explainStatement = [] ↔ stmt.production ≠ .explainStatement := by
    rw [← not_iff_not, ← ne_eq, nodesOf_ne_nil_iff hp hs hshape rfl, shape.seen_explainStatement,
      isExplained_of_shape hshape, decide_eq_true_iff, not_not]
  have hselection : tree.nodesOf .selectQueryStatement ≠ [] ↔ core = .select := by
    rw [nodesOf_ne_nil_iff hp hs hshape rfl, shape.seen_selectQueryStatement,
      shape.isSelection_eq, hcore, decide_eq_true_iff, Option.some_inj]
  have hinsert : tree.nodesOf .insertStatement ≠ [] ↔ core = .insert := by
    rw [nodesOf_of_query hp hs hshape hm rfl, hpart.nodesOf_insertStatement]
  have hinsertions : tree.nodesOf .multiInsertBranch = core.insertions m := by
    rw [nodesOf_of_query hp hs hshape hm rfl, hpart.nodesOf_multiInsertBranch]
  have hfrom : ∀ P : Tree → Prop, (∃ f ∈ tree.nodesOf .fromStatement, P f) ↔
      core.production = .fromStatement ∧ P m := by
    intro P
    rw [nodesOf_of_query hp hs hshape hm rfl, hpart.nodesOf_fromStatement, hpart.production_eq]
    split <;> simp [*]
  have hparts : ∀ q, (∃ part ∈ m.children, part.production = q) ↔ q ∈ core.parts := by
    intro q
    rw [← hpart.map_production, List.mem_map]
  -- everything is told by the core now: each statement is a case split over the five of them
  constructor
  case length_le => cases core.remark stmt m <;> simp
  case explained_iff =>
    rw [hrows, hselect, codes_classifiedAs, Core.codes_remark]
    cases core <;> simp [Core.code, Core.yieldsRows]
  case notQuery_iff =>
    rw [iff_false_intro hquery, codes_classifiedAs, Core.codes_remark]
    cases core <;> simp [Core.code]
  case notQuery =>
    rw [codes_classifiedAs, Core.codes_remark]
    cases core <;> simp [Core.code]
  case insertions_iff =>
    rw [hfrom, hparts, codes_classifiedAs, Core.codes_remark]
    cases core with
    | fromInsertions n =>
      simp [Core.code, Core.production, Core.parts, hpart.insertions_pos]
    | _ => simp [Core.code, Core.production, Core.parts]
  case insertions =>
    rw [codes_classifiedAs, Core.codes_remark, hrows, hselect]
    cases core with
    | fromInsertions n =>
      rw [hinsertions] at hmarks ⊢
      exact fun _ => ⟨rfl, rfl, sourceInsertions m.children.tail, rfl, hmarks⟩
    | _ => simp [Core.code]
  case bare_iff =>
    rw [hfrom, hpart.map_production, codes_classifiedAs, Core.codes_remark]
    cases core with
    | fromInsertions n =>
      simp [Core.code, Core.production, Core.parts, hpart.insertions_pos]
    | _ => simp [Core.code, Core.production, Core.parts]
  case bare =>
    rw [codes_classifiedAs, Core.codes_remark, hrows, hselect]
    cases core <;> simp [Core.code, Core.yieldsRows]
  case nothing_iff =>
    rw [hfrom, hparts, hinsert, hselection, hexplain]
    cases core <;> simp [Core.remark, Core.production, Core.parts]

/-- Insertions in their places are marked in their places. -/
theorem marksInsertions_of_script (h : Statement.script r sql = .ok tree)
    (hs : tree.children = [stmt]) (hshape : Shape.ofTree? stmt = some shape)
    (hm : mainOf? stmt = some m) (hpart : MainPart core m) :
    MarksInsertions r sql (tree.nodesOf .multiInsertBranch)
      (sourceInsertions (tree.nodesOf .multiInsertBranch)) := by
  rw [nodesOf_of_single (production_of_script h) hs (by decide), sourceInsertions_eq]
  refine ⟨rfl, ?_, ?_, fun hr => ?_, fun hr => ?_⟩
  · rw [List.map_map]
    exact List.map_const'
  · rw [List.map_map]
    rfl
  · have hplaced := Statement.everywhere_of_script hr h stmt (by rw [hs]; simp)
    rw [List.map_map]
    apply List.map_congr_left
    intro branch hbranch
    exact (hplaced _ branch hbranch).text_eq.symm
  · have hplaced := Statement.everywhere_of_script hr h stmt (by rw [hs]; simp)
    rw [nodesOf_of_main rfl hshape hm, hpart.nodesOf_multiInsertBranch, List.pairwise_map]
    cases core with
    | fromInsertions n =>
      have hmem : m ∈ stmt.nodesOf .fromStatement := by
        rw [nodesOf_of_main rfl hshape hm, hpart.nodesOf_fromStatement, hpart.production_eq]
        simp [Core.production]
      exact (hplaced _ m hmem).apart.sublist (List.tail_sublist _)
    | _ => exact List.Pairwise.nil

end Agreement

/-- **The remarks on a text** that is not blocked agree with the decisions on it. -/
theorem agrees_of_examine {r : Reader} {text : List Char} {report : Report}
    (h : examine r text = .ok report) (hb : report.blocked = false) :
    ∃ tree stmt, Statement.script r report.sql = .ok tree ∧ tree.children = [stmt] ∧
      report.classification = some (Classification.ofTree tree) ∧
      Agrees r tree (Classification.ofTree tree) report := by
  obtain ⟨report', h', hexamined⟩ := exists_examined r text
  obtain rfl : report = report' := Except.ok.inj (h.symm.trans h')
  cases hexamined with
  | unreadable => cases hb
  | several => cases hb
  | @single tree stmt ds hscript hs hds =>
    refine ⟨tree, stmt, hscript, hs, rfl, ?_⟩
    obtain ⟨shape, hshape⟩ := exists_shape_of_script hscript stmt (by rw [hs]; simp)
    have hp := production_of_script hscript
    rcases main_of_shape hshape with ⟨hcore, -⟩ | ⟨core, m, hcore, hm, hpart⟩
    · obtain rfl := Except.ok.inj (hds.symm.trans (remarks_of_utility hp hs hshape hcore))
      exact agrees_of_utility hp hs hshape hcore _
    · obtain rfl := Except.ok.inj (hds.symm.trans (remarks_of_query hp hs hshape hcore hm hpart))
      exact agrees_of_query hp hs hshape hcore hm hpart
        (marksInsertions_of_script hscript hs hshape hm hpart)

/-- The sample language keeps order. -/
theorem keepsOrder_sampleReader : sampleReader.KeepsOrder :=
  have hall : ∀ entry ∈ sampleTokens, Sql.InOrder entry.1 entry.2 := by decide
  Sql.Reader.keepsOrder_of_lookup (fun _ => rfl) hall

/-- Insertions from an explained source are remarked on, marked by their texts, and yield no
rows. -/
theorem agrees_of_explained_insertions :
    ∃ report tree d, examine sampleReader
        "EXPLAIN FROM t INSERT INTO a SELECT 1 INSERT INTO b SELECT 2".toList = .ok report ∧
      report.blocked = false ∧ report.codes = ["Q0203"] ∧ report.diagnostics = [d] ∧
      Agrees sampleReader tree (Classification.ofTree tree) report ∧
      (Classification.ofTree tree).hasResultSet = false ∧
      (d.marks.map fun mark => mark.span.slice report.sql) =
        (tree.nodesOf .multiInsertBranch).map (·.text) := by
  obtain ⟨report, h, hreport⟩ := exists_of_toOption_any
    (x := examine sampleReader
      "EXPLAIN FROM t INSERT INTO a SELECT 1 INSERT INTO b SELECT 2".toList)
    (p := fun report => !report.blocked && report.codes == ["Q0203"]) (by decide +kernel)
  obtain ⟨hb, hcodes⟩ := (Bool.and_eq_true _ _).mp hreport
  have hb : report.blocked = false := by simpa using hb
  have hcodes : report.codes = ["Q0203"] := eq_of_beq hcodes
  obtain ⟨tree, -, -, -, -, hagrees⟩ := agrees_of_examine h hb
  obtain ⟨hrows, -, d, hd, hmarks⟩ := hagrees.insertions hcodes
  exact ⟨report, tree, d, h, hb, hcodes, hd, hagrees, hrows,
    hmarks.slices_eq keepsOrder_sampleReader⟩

end StatementShape.Classify
