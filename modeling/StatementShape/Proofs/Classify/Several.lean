import StatementShape.Proofs.Classify.Remarks

/-!
# Decisions on several statements

A script of several statements is walked with one record, so that the productions of different
statements meet in the same decisions. Still no decision is made in favour of a script that would
not be made in favour of one of its statements: each way to a favourable decision rests on a
production that belongs to the main part of some statement, and whatever would speak against that
statement is missing from all of them. The converse fails: an explained statement next to a
selection keeps the script from being routed as one.

The record itself is the union of those of the shapes, so that neither the order of the statements
nor their number matters.

## Main definitions

* `shapesOf`: the shapes of the statements of a script
* `withStatements`: a script with other statements

## Main results

* `exists_yieldsRows_of_seenIn`, `exists_isRouted_of_seenIn`: a decision is that of some shape
* `decisions_of_script`: the decisions on a script, and what they depend on
-/

namespace StatementShape.Classify

open Sql (Reader Token)
open Statement (Production Tree inLine)

/-! ### The productions of one statement -/

section Shapes

variable {s : Shape} {core : Core} {p : Production}

/-- The productions of a query are those of its core, but for the wrapping. -/
theorem Shape.mem_productions_of_core? (h : s.core? = some core) (hp : isWrapping p = false) :
    p ∈ s.productions ↔ p ∈ core.productions := by
  -- on the explanations around the query
  have hexplain : p ≠ .explainStatement := by rintro rfl; cases hp
  have hquery : p ≠ .queryStatement := by rintro rfl; cases hp
  have hwith : p ≠ .withClause := by rintro rfl; cases hp
  induction s with
  | query withTables core' =>
    cases h
    cases withTables <;> simp [Shape.productions, hquery, hwith]
  | utility => cases h
  | explain s ih =>
    rw [Shape.productions, List.mem_cons, or_iff_right hexplain]
    exact ih h

/-- A production of a query is seen only of a shape with a core that has it. -/
theorem Shape.exists_core_of_seen (h : s.seen p = true) (hp : isWrapping p = false) :
    ∃ core, s.core? = some core ∧ p ∈ core.productions := by
  simp only [Shape.seen, Bool.and_eq_true, decide_eq_true_eq] at h
  obtain ⟨hrec, hmem⟩ := h
  cases hcore : s.core? with
  | some core => exact ⟨core, rfl, (Shape.mem_productions_of_core? hcore hp).mp hmem⟩
  | none =>
    rcases Shape.mem_productions_of_utility hcore hmem with rfl | rfl
    · cases hrec
    · cases hp

theorem Shape.yieldsRows_of_core? (h : s.core? = some core) : s.yieldsRows = core.yieldsRows := by
  rw [Shape.yieldsRows_eq, h, Option.any_some]

/-- A selection yields rows. -/
theorem Shape.yieldsRows_of_selection (h : s.seen .selectQueryStatement = true) :
    s.yieldsRows = true := by
  obtain ⟨core, hcore, hmem⟩ := Shape.exists_core_of_seen h rfl
  rw [Shape.yieldsRows_of_core? hcore]
  cases core with
  | select => rfl
  | insert | fromSelection | fromAlone | fromInsertions _ => simp [Core.productions] at hmem

/-- A selection behind a source yields rows. -/
theorem Shape.yieldsRows_of_rest (h : s.seen .fromRest = true) : s.yieldsRows = true := by
  obtain ⟨core, hcore, hmem⟩ := Shape.exists_core_of_seen h rfl
  rw [Shape.yieldsRows_of_core? hcore]
  cases core with
  | fromSelection => rfl
  | select | insert | fromAlone | fromInsertions _ => simp [Core.productions] at hmem

/-- A source without insertions yields rows. -/
theorem Shape.yieldsRows_of_source (h : s.seen .fromStatement = true)
    (hbranch : s.seen .multiInsertBranch = false) : s.yieldsRows = true := by
  obtain ⟨core, hcore, hmem⟩ := Shape.exists_core_of_seen h rfl
  rw [Shape.yieldsRows_of_core? hcore]
  cases core with
  | select | insert => simp [Core.productions] at hmem
  | fromSelection | fromAlone => rfl
  | fromInsertions branches =>
    have hmem : Production.multiInsertBranch ∈ s.productions := by
      rw [Shape.mem_productions_of_core? hcore rfl]
      simp [Core.productions]
    simp [Shape.seen, isRecognised, hmem] at hbranch

end Shapes

/-! ### The decisions on several shapes -/

section Several

variable {shapes shapes' : List Shape} {p : Production}

theorem Shape.seenIn_eq_true_iff : Shape.seenIn shapes p = true ↔ ∃ s ∈ shapes, s.seen p = true :=
  List.any_eq_true

theorem Shape.seen_eq_false (h : Shape.seenIn shapes p = false) {s : Shape} (hs : s ∈ shapes) :
    s.seen p = false := by
  rw [Bool.eq_false_iff] at h ⊢
  intro hseen
  exact h (Shape.seenIn_eq_true_iff.mpr ⟨s, hs, hseen⟩)

/-- The same shapes are seen alike, in whatever order and number. -/
theorem Shape.seenIn_congr (h : ∀ s, s ∈ shapes ↔ s ∈ shapes') :
    Shape.seenIn shapes = Shape.seenIn shapes' := by
  funext p
  rw [Bool.eq_iff_iff, Shape.seenIn_eq_true_iff, Shape.seenIn_eq_true_iff]
  simp only [h]

/-- Three ways lead to rows: a selection, and, where nothing is inserted, a source with a
selection behind it or without insertions. -/
theorem ways_of_hasResultSet {seen : Seen} (h : seen.hasResultSet = true) :
    seen .selectQueryStatement = true ∨ seen .fromRest = true ∨
      seen .fromStatement = true ∧ seen .multiInsertBranch = false := by
  unfold Seen.hasResultSet at h
  cases hselect : seen .selectQueryStatement with
  | true => exact .inl rfl
  | false =>
    cases hrest : seen .fromRest with
    | true => exact .inr (.inl rfl)
    | false =>
      cases hsource : seen .fromStatement <;> cases hbranch : seen .multiInsertBranch <;>
        simp_all

/-- **Rows** are those of some statement. -/
theorem exists_yieldsRows_of_seenIn (h : (Shape.seenIn shapes).hasResultSet = true) :
    ∃ s ∈ shapes, s.yieldsRows = true := by
  rcases ways_of_hasResultSet h with hselect | hrest | ⟨hsource, hbranch⟩
  · obtain ⟨s, hs, hseen⟩ := Shape.seenIn_eq_true_iff.mp hselect
    exact ⟨s, hs, Shape.yieldsRows_of_selection hseen⟩
  · obtain ⟨s, hs, hseen⟩ := Shape.seenIn_eq_true_iff.mp hrest
    exact ⟨s, hs, Shape.yieldsRows_of_rest hseen⟩
  · -- no statement has insertions, so the one with the source has none
    obtain ⟨s, hs, hseen⟩ := Shape.seenIn_eq_true_iff.mp hsource
    exact ⟨s, hs, Shape.yieldsRows_of_source hseen (Shape.seen_eq_false hbranch hs)⟩

/-- **A script that is routed as a selection** holds a statement that is. -/
theorem exists_isRouted_of_seenIn (h : (Shape.seenIn shapes).isSelect = true) :
    ∃ s ∈ shapes, s.isRouted = true := by
  rw [isSelect_eq, Bool.and_eq_true, Bool.not_eq_true'] at h
  obtain ⟨hrows, hplain⟩ := h
  cases hselect : Shape.seenIn shapes .selectQueryStatement with
  | true =>
    -- a selection was seen and no explanation, so the selection is not explained
    rw [hselect, Bool.and_true] at hplain
    obtain ⟨s, hs, hseen⟩ := Shape.seenIn_eq_true_iff.mp hselect
    refine ⟨s, hs, ?_⟩
    rw [Shape.isRouted, Shape.yieldsRows_of_selection hseen, ← s.seen_explainStatement,
      Shape.seen_eq_false hplain hs]
    rfl
  | false =>
    obtain ⟨s, hs, hyields⟩ := exists_yieldsRows_of_seenIn hrows
    refine ⟨s, hs, ?_⟩
    rw [Shape.isRouted, hyields, ← s.seen_selectQueryStatement, Shape.seen_eq_false hselect hs,
      Bool.and_false]
    rfl

/-- Next to an explanation, a selection is not routed, though it is alone. -/
example : (Shape.query false .select).isRouted = true ∧
    (Shape.seenIn [.query false .select, .explain .utility]).isSelect = false := by decide

end Several

/-! ### Scripts -/

/-- The shapes of the statements of a script. -/
def shapesOf (tree : Tree) : List Shape := tree.children.filterMap Shape.ofTree?

/-- A script with other statements. -/
def withStatements (stmts : List Tree) : Tree → Tree
  | .node p s x e _ => .node p s x e stmts

section Scripts

variable {r : Reader} {text : List Char} {tree tree' stmt : Tree} {stmts : List Tree}
  {shape : Shape}

@[simp] theorem production_withStatements : (withStatements stmts tree).production =
    tree.production := by
  cases tree
  rfl

@[simp] theorem children_withStatements : (withStatements stmts tree).children = stmts := by
  cases tree
  rfl

theorem forall₂_shapesOf (h : ∀ t ∈ tree.children, ∃ shape, Shape.ofTree? t = some shape) :
    List.Forall₂ (fun t s => Shape.ofTree? t = some s) tree.children (shapesOf tree) := by
  unfold shapesOf
  generalize tree.children = ts at h
  induction ts with
  | nil => exact .nil
  | cons t ts ih =>
    obtain ⟨hshape, hts⟩ := List.forall_mem_cons.mp h
    obtain ⟨shape, hshape⟩ := hshape
    rw [List.filterMap_cons_some hshape]
    exact .cons hshape (ih hts)

/-- A script is classified by the shapes of its statements. -/
theorem ofTree_eq_ofSeen (hp : tree.production = .script)
    (h : ∀ t ∈ tree.children, ∃ shape, Shape.ofTree? t = some shape) :
    Classification.ofTree tree = Classification.ofSeen (Shape.seenIn (shapesOf tree)) := by
  rw [Classification.ofTree, ofVisits_of_shapes hp (forall₂_shapesOf h)]

/-- Scripts of the same shapes are classified alike. -/
theorem ofTree_congr (hp : tree.production = .script) (hp' : tree'.production = .script)
    (h : ∀ t ∈ tree.children, ∃ shape, Shape.ofTree? t = some shape)
    (h' : ∀ t ∈ tree'.children, ∃ shape, Shape.ofTree? t = some shape)
    (hsame : ∀ shape, shape ∈ shapesOf tree' ↔ shape ∈ shapesOf tree) :
    Classification.ofTree tree' = Classification.ofTree tree := by
  rw [ofTree_eq_ofSeen hp h, ofTree_eq_ofSeen hp' h', Shape.seenIn_congr hsame]

/-- A statement alone is classified as its shape says. -/
theorem ofTree_alone (hp : tree.production = .script) (h : Shape.ofTree? stmt = some shape) :
    Classification.ofTree (withStatements [stmt] tree) = Classification.ofSeen shape.seen := by
  rw [Classification.ofTree, ofVisits_of_single (by simp [hp]) (by simp) h]

theorem exists_statement_of_shapesOf (h : shape ∈ shapesOf tree) :
    ∃ stmt ∈ tree.children, Shape.ofTree? stmt = some shape :=
  List.mem_filterMap.mp h

/-- **No decision arises from statements together** that does not arise from one of them: if a
script yields rows, then so does one of its statements alone, and if it is routed as a selection,
then so is one of its statements alone. The script with the same statements in any order and number
is classified alike, in both decisions, the productions and the label. A script of its own is
classified as some of the statements are here, if it has statements of the same shapes as they,
wherever these stand and whatever else they say. -/
theorem decisions_of_script (h : Statement.script r text = .ok tree) :
    ((Classification.ofTree tree).hasResultSet = true → ∃ stmt ∈ tree.children,
      (Classification.ofTree (withStatements [stmt] tree)).hasResultSet = true) ∧
    ((Classification.ofTree tree).isSelect = true → ∃ stmt ∈ tree.children,
      (Classification.ofTree (withStatements [stmt] tree)).isSelect = true) ∧
    (∀ stmts, (∀ stmt, stmt ∈ stmts ↔ stmt ∈ tree.children) →
      Classification.ofTree (withStatements stmts tree) = Classification.ofTree tree ∧
      (Classification.ofTree (withStatements stmts tree)).label =
        (Classification.ofTree tree).label) ∧
    ∀ stmts ⊆ tree.children, ∀ r' text' tree', Statement.script r' text' = .ok tree' →
      (∀ shape, shape ∈ shapesOf tree' ↔ shape ∈ shapesOf (withStatements stmts tree)) →
      Classification.ofTree tree' = Classification.ofTree (withStatements stmts tree) := by
  have hp := production_of_script h
  have hshapes := exists_shape_of_script h
  have hwith (stmts : List Tree) (hsub : stmts ⊆ tree.children) :
      ∀ t ∈ (withStatements stmts tree).children, ∃ shape, Shape.ofTree? t = some shape := by
    rw [children_withStatements]
    exact fun t ht => hshapes t (hsub ht)
  refine ⟨fun hrows => ?_, fun hselect => ?_, fun stmts hsame => ?_,
    fun stmts hsub r' text' tree' h' hsame => ?_⟩
  · rw [ofTree_eq_ofSeen hp hshapes] at hrows
    obtain ⟨shape, hmem, hyields⟩ := exists_yieldsRows_of_seenIn hrows
    obtain ⟨stmt, hstmt, hshape⟩ := exists_statement_of_shapesOf hmem
    refine ⟨stmt, hstmt, ?_⟩
    rw [ofTree_alone hp hshape]
    exact shape.hasResultSet_seen.trans hyields
  · rw [ofTree_eq_ofSeen hp hshapes] at hselect
    obtain ⟨shape, hmem, hrouted⟩ := exists_isRouted_of_seenIn hselect
    obtain ⟨stmt, hstmt, hshape⟩ := exists_statement_of_shapesOf hmem
    refine ⟨stmt, hstmt, ?_⟩
    rw [ofTree_alone hp hshape]
    exact shape.isSelect_seen.trans hrouted
  · have heq : Classification.ofTree (withStatements stmts tree) = Classification.ofTree tree := by
      refine ofTree_congr hp ?_ hshapes (hwith stmts fun t ht => (hsame t).mp ht) fun shape => ?_
      · rw [production_withStatements, hp]
      · simp only [shapesOf, children_withStatements, List.mem_filterMap, hsame]
    exact ⟨heq, congrArg Classification.label heq⟩
  · refine ofTree_congr ?_ (production_of_script h') (hwith stmts hsub) (exists_shape_of_script h')
      hsame
    rw [production_withStatements, hp]

end Scripts

/-- The tokens of a removal of a table and a source alone, and of the two with the source once
more. -/
def severalTokens : List (List Char × List Token) := [
  ("DROP TABLE t;FROM c".toList,
    [inLine .drop "DROP" 0 4, inLine .table "TABLE" 5 10, inLine .var "t" 11 12,
      inLine .semicolon ";" 12 13, inLine .from_ "FROM" 13 17, inLine .var "c" 18 19]),
  ("FROM c;DROP TABLE t;FROM c".toList,
    [inLine .from_ "FROM" 0 4, inLine .var "c" 5 6, inLine .semicolon ";" 6 7,
      inLine .drop "DROP" 7 11, inLine .table "TABLE" 12 17, inLine .var "t" 18 19,
      inLine .semicolon ";" 19 20, inLine .from_ "FROM" 20 24, inLine .var "c" 25 26])]

/-- A language of scripts, whose statements are those of the small one. -/
def severalReader : Reader where
  tokens text := severalTokens.lookup text
  statements := Statement.smallReader.statements

theorem shapesOf_several : ∃ tree,
    Statement.script severalReader "DROP TABLE t;FROM c".toList = .ok tree ∧
      (shapesOf tree == [.utility, .query false .fromAlone] &&
        (Classification.ofTree tree).hasResultSet) = true :=
  exists_of_toOption_any (by decide +kernel)

theorem shapesOf_repeated : ∃ tree,
    Statement.script severalReader "FROM c;DROP TABLE t;FROM c".toList = .ok tree ∧
      (shapesOf tree == [.query false .fromAlone, .utility, .query false .fromAlone]) = true :=
  exists_of_toOption_any (by decide +kernel)

/-- A removal of a table and a source yield rows, and so does a statement of them alone; in the
other order, and with the source repeated, they are classified alike. -/
theorem decisions_of_script_repeated : ∃ tree tree',
    Statement.script severalReader "DROP TABLE t;FROM c".toList = .ok tree ∧
      Statement.script severalReader "FROM c;DROP TABLE t;FROM c".toList = .ok tree' ∧
      (∃ stmt ∈ tree.children,
        (Classification.ofTree (withStatements [stmt] tree)).hasResultSet = true) ∧
      Classification.ofTree tree' = Classification.ofTree tree := by
  obtain ⟨tree, h, hrows⟩ := shapesOf_several
  obtain ⟨tree', h', hshapes'⟩ := shapesOf_repeated
  rw [Bool.and_eq_true] at hrows
  obtain ⟨hshapes, hrows⟩ := hrows
  have ⟨rows, _, _, alike⟩ := decisions_of_script h
  have hself : withStatements tree.children tree = tree := by
    cases tree
    rfl
  have halike := alike tree.children (List.Subset.refl _) severalReader _ tree' h'
  rw [hself, eq_of_beq hshapes, eq_of_beq hshapes'] at halike
  refine ⟨tree, tree', h, h', rows hrows, halike fun shape => ?_⟩
  simp only [List.mem_cons, List.not_mem_nil, or_false]
  tauto

end StatementShape.Classify
