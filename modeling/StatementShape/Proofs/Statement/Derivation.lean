import Mathlib.Data.List.Infix
import StatementShape.Proofs.Statement.Layout

/-!
# Derivable trees

The grammar of statement trees, as predicates on trees alone: which parts each production has, which
of them are leaves, and the kind of expression that a leaf carries. Whatever tokens a script is cut
into, its tree is derivable.

Two facts on the language are needed, since the expressions of common table expressions and of
sources are looked up in selections that are read for the purpose: such a selection holds them.

## Main definitions

* `IsLeaf`, `IsFrom`, `IsMain`, `IsQuery`, `IsStatement`, `IsScript`: the grammar
* `Covered`: the texts that runs of tokens cover
* `KeepsClauses`: selections hold the clauses that they are read with

## Main results

* `isStatement_of_layout`: what is laid out is derivable
* `isScript_of_script`: the tree of a script is derivable
-/

namespace StatementShape.Statement

open Sql (Token TokenKind Reader Expression ExpressionKind)

/-! ### The grammar of trees -/

/-- A leaf carries an expression of some kinds, and has no parts. -/
def IsLeaf (p : Production) (kinds : ExpressionKind → Prop) (t : Tree) : Prop :=
  ∃ span text e, kinds e.kind ∧ t = .node p span text (some e) []

/-- A statement that begins with its source: the source, and behind it nothing, a selection, or
one or more insertions. -/
inductive IsFrom : Tree → Prop
  | alone {span : Text.Span} {text : List Char} {source : Tree}
      (hsource : IsLeaf .fromClause (· = .from_) source) :
      IsFrom (.node .fromStatement span text none [source])
  | selection {span : Text.Span} {text : List Char} {source rest : Tree}
      (hsource : IsLeaf .fromClause (· = .from_) source)
      (hrest : IsLeaf .fromRest (·.isQuery = true) rest) :
      IsFrom (.node .fromStatement span text none [source, rest])
  | insertions {span : Text.Span} {text : List Char} {source : Tree} {branches : List Tree}
      (hsource : IsLeaf .fromClause (· = .from_) source) (some : branches ≠ [])
      (hbranches : ∀ branch ∈ branches, IsLeaf .multiInsertBranch (· = .insert) branch) :
      IsFrom (.node .fromStatement span text none (source :: branches))

/-- The main part of a query statement: a selection, an insertion, or a statement that begins
with its source. -/
inductive IsMain : Tree → Prop
  | select {t : Tree} (ht : IsLeaf .selectQueryStatement (·.isQuery = true) t) : IsMain t
  | insert {t : Tree} (ht : IsLeaf .insertStatement (· = .insert) t) : IsMain t
  | from_ {t : Tree} (ht : IsFrom t) : IsMain t

/-- A query statement: its main part, with common table expressions in front of it or without. -/
inductive IsQuery : Tree → Prop
  | plain {span : Text.Span} {text : List Char} {main : Tree} (hmain : IsMain main) :
      IsQuery (.node .queryStatement span text none [main])
  | withTables {span : Text.Span} {text : List Char} {clause main : Tree}
      (hclause : IsLeaf .withClause (· = .with_) clause) (hmain : IsMain main) :
      IsQuery (.node .queryStatement span text none [clause, main])

/-- A statement: a query statement, a utility statement, or an explanation of a statement. -/
inductive IsStatement : Tree → Prop
  | query {t : Tree} (ht : IsQuery t) : IsStatement t
  | utility {t : Tree} (ht : IsLeaf .utilityStatement (fun _ => True) t) : IsStatement t
  | explain {span : Text.Span} {text : List Char} {explained : Tree}
      (hexplained : IsStatement explained) :
      IsStatement (.node .explainStatement span text none [explained])

/-- A script: one or more statements. -/
inductive IsScript : Tree → Prop
  | mk {span : Text.Span} {text : List Char} {parts : List Tree} (some : parts ≠ [])
      (hparts : ∀ t ∈ parts, IsStatement t) : IsScript (.node .script span text none parts)

/-! ### Trees behind more text -/

section Shift

variable {t : Tree}

theorem IsLeaf.shift {p : Production} {kinds : ExpressionKind → Prop} (h : IsLeaf p kinds t)
    (n : Nat) : IsLeaf p kinds (t.shift n) := by
  obtain ⟨span, text, e, hk, rfl⟩ := h
  exact ⟨span.shift n, text, e, hk, rfl⟩

theorem IsFrom.shift (h : IsFrom t) (n : Nat) : IsFrom (t.shift n) := by
  cases h with
  | alone hsource => exact IsFrom.alone (hsource.shift n)
  | selection hsource hrest => exact IsFrom.selection (hsource.shift n) (hrest.shift n)
  | insertions hsource some hbranches =>
    rw [Tree.shift, Tree.shiftAll, Tree.shiftAll_eq_map]
    refine IsFrom.insertions (hsource.shift n) (by simpa using some) ?_
    intro branch hb
    obtain ⟨b, hmem, rfl⟩ := List.mem_map.mp hb
    exact (hbranches b hmem).shift n

theorem IsMain.shift (h : IsMain t) (n : Nat) : IsMain (t.shift n) := by
  cases h with
  | select ht => exact IsMain.select (ht.shift n)
  | insert ht => exact IsMain.insert (ht.shift n)
  | from_ ht => exact IsMain.from_ (ht.shift n)

theorem IsQuery.shift (h : IsQuery t) (n : Nat) : IsQuery (t.shift n) := by
  cases h with
  | plain hmain => exact IsQuery.plain (hmain.shift n)
  | withTables hclause hmain => exact IsQuery.withTables (hclause.shift n) (hmain.shift n)

/-- Where a statement stands makes no difference to whether it is one. -/
theorem IsStatement.shift (h : IsStatement t) (n : Nat) : IsStatement (t.shift n) := by
  induction h with
  | query ht => exact IsStatement.query (ht.shift n)
  | utility ht => exact IsStatement.utility (ht.shift n)
  | explain _ ih => exact IsStatement.explain ih

end Shift

/-! ### What a language keeps -/

/-- Tokens of a text: a run of those that the language cuts the text into. -/
def TokensIn (r : Reader) (text : List Char) (run : List Token) : Prop :=
  ∃ tokens, r.tokens text = some tokens ∧ run <:+: tokens

theorem TokensIn.of_isInfix {r : Reader} {text : List Char} {run part : List Token}
    (h : TokensIn r text run) (hpart : part <:+: run) : TokensIn r text part := by
  obtain ⟨tokens, htokens, hrun⟩ := h
  exact ⟨tokens, htokens, hpart.trans hrun⟩

/-- The texts that runs of tokens cover, where a run begins with a token of some kind. -/
def Covered (r : Reader) (kind : TokenKind) (piece : List Char) : Prop :=
  ∃ text run, TokensIn r text run ∧ BeginsWith (· = kind) run ∧ piece = textOf text run

/-- A language keeps clauses if a selection of one holds the common table expressions in front
of it, and a selection of everything the source behind it. -/
structure KeepsClauses (r : Reader) : Prop where
  tables : ∀ {clause : List Char} {e : Expression}, Covered r .with_ clause →
    r.statements (clause ++ " SELECT 1".toList) = some [e] → e.kind = .select →
      (e.find? .with_).isSome = true
  source : ∀ {source : List Char} {e : Expression}, Covered r .from_ source →
    r.statements ("SELECT * ".toList ++ source) = some [e] → e.kind = .select →
      (e.find? .from_).isSome = true

/-! ### What is laid out is derivable -/

section Derivation

variable {r : Reader} {text : List Char} {run tokens : List Token} {t : Tree}

theorem isLeaf_of_leafOver {p : Production} {wanted : ExpressionKind → Bool}
    {kinds : ExpressionKind → Prop} (hk : ∀ k, wanted k = true → kinds k)
    (h : LeafOver r text p wanted run t) : IsLeaf p kinds t := by
  obtain ⟨e, he, rfl⟩ := h
  exact ⟨_, _, e, hk _ (kind_of_fragment he), rfl⟩

/-- A clause that is looked up in a selection that holds it is a leaf. -/
theorem isLeaf_of_find? {p : Production} {kind : ExpressionKind} {e : Expression}
    (h : (e.find? kind).isSome = true) :
    IsLeaf p (· = kind) (nodeOver p text run (e.find? kind) []) := by
  obtain ⟨clause, hclause⟩ := Option.isSome_iff_exists.mp h
  rw [hclause]
  exact ⟨_, _, clause, Expression.kind_of_find? hclause, rfl⟩

/-- A source that is laid out with what stands behind it is derivable. -/
theorem isFrom_of_fromLayout (hr : KeepsClauses r) (hin : TokensIn r text tokens)
    (h : FromLayout r text tokens t) : IsFrom t := by
  obtain @⟨source, runs, parts, e, head, read, behind⟩ := h
  obtain ⟨hstatements, hselect⟩ := fragment_eq_ok.mp read
  have hcovered : Covered r .from_ (textOf text source) :=
    ⟨text, source, hin.of_isInfix (List.prefix_append _ _).isInfix, head, rfl⟩
  have hsource : IsLeaf .fromClause (· = .from_)
      (nodeOver .fromClause text source (e.find? .from_) []) :=
    isLeaf_of_find? (hr.source hcovered hstatements (eq_of_beq hselect))
  cases behind with
  | nothing => exact IsFrom.alone hsource
  | rest _ read => exact IsFrom.selection hsource (isLeaf_of_leafOver (fun _ hk => hk) read)
  | branches some _ read =>
    refine IsFrom.insertions hsource ?_ ?_
    · rintro rfl
      exact some (List.forall₂_nil_right_iff.mp read)
    · intro branch hbranch
      obtain ⟨run, -, hrun⟩ := exists_mem_of_forall₂ read hbranch
      exact isLeaf_of_leafOver (fun _ hk => eq_of_beq hk) hrun

/-- **What is laid out is derivable.** -/
theorem isStatement_of_layout (hr : KeepsClauses r) (h : Layout r text tokens t)
    (hin : TokensIn r text tokens) : IsStatement t := by
  induction h with
  | utility _ _ _ read =>
    exact IsStatement.utility (isLeaf_of_leafOver (fun _ _ => trivial) read)
  | @query text front body clauses main _ _ readFront readMain =>
    have hbody : TokensIn r text body := hin.of_isInfix (List.suffix_append _ _).isInfix
    have hmain : IsMain main := by
      cases readMain with
      | from_ read => exact IsMain.from_ (isFrom_of_fromLayout hr hbody read)
      | insert _ read =>
        exact IsMain.insert ⟨_, _, _, eq_of_beq (kind_of_fragment read), rfl⟩
      | select _ read => exact IsMain.select ⟨_, _, _, kind_of_fragment read, rfl⟩
    cases readFront with
    | nothing => exact IsStatement.query (IsQuery.plain hmain)
    | clause head _ read =>
      obtain ⟨hstatements, hselect⟩ := fragment_eq_ok.mp read
      have hcovered : Covered r .with_ (textOf text front) :=
        ⟨text, front, hin.of_isInfix (List.prefix_append _ _).isInfix, head, rfl⟩
      exact IsStatement.query (IsQuery.withTables
        (isLeaf_of_find? (hr.tables hcovered hstatements (eq_of_beq hselect))) hmain)
  | @explain text rest u us body n inner _ cut _ _ ih =>
    -- what is explained is cut into tokens afresh, so its tokens are those of its own text
    have hrest : TokensIn r rest body := ⟨body, (behindOptions_eq_ok cut).2, List.infix_refl _⟩
    exact IsStatement.explain ((ih hrest).shift _)

/-- **The tree of a script** is derivable, whatever tokens the script is cut into. -/
theorem isScript_of_script (hr : KeepsClauses r) {tree : Tree} (h : script r text = .ok tree) :
    IsScript tree := by
  obtain ⟨tokens, parts, htokens, some, layouts, rfl⟩ := layouts_of_script h
  refine IsScript.mk some ?_
  intro t ht
  obtain ⟨group, hgroup, layout⟩ := exists_mem_of_forall₂ layouts ht
  exact isStatement_of_layout hr layout
    ⟨tokens, htokens, (cut_statements tokens).isInfix_of_mem hgroup⟩

end Derivation

/-! ### The small language -/

theorem mem_of_smallReader {text : List Char} {es : List Expression}
    (h : smallReader.statements text = some es) : (text, es) ∈ smallStatements := by
  obtain ⟨front, back, heq, -⟩ := List.lookup_eq_some_iff.mp h
  rw [heq]
  simp

/-- The small language keeps clauses. -/
theorem keepsClauses_smallReader : KeepsClauses smallReader where
  tables := by
    intro clause e _ h _
    -- only the first of the texts ends in the selection of one
    have hlast : (clause ++ " SELECT 1".toList).getLast? = some '1' := by
      rw [List.getLast?_append_of_ne_nil _ (by decide)]
      rfl
    have hmem := mem_of_smallReader h
    generalize clause ++ " SELECT 1".toList = text at hlast hmem
    simp only [smallStatements, List.mem_cons, Prod.mk.injEq, List.not_mem_nil, or_false] at hmem
    rcases hmem with ⟨rfl, hes⟩ | ⟨rfl, -⟩ | ⟨rfl, -⟩
    · cases hes
      decide
    · exact absurd hlast (by decide)
    · exact absurd hlast (by decide)
  source := by
    intro source e _ h _
    have hhead : ("SELECT * ".toList ++ source).head? = some 'S' := rfl
    have hmem := mem_of_smallReader h
    generalize "SELECT * ".toList ++ source = text at hhead hmem
    simp only [smallStatements, List.mem_cons, Prod.mk.injEq, List.not_mem_nil, or_false] at hmem
    rcases hmem with ⟨rfl, -⟩ | ⟨rfl, hes⟩ | ⟨rfl, -⟩
    · exact absurd hhead (by decide)
    · cases hes
      decide
    · exact absurd hhead (by decide)

/-- The tree of an explained source is derivable. -/
theorem isScript_of_explained_source :
    KeepsClauses smallReader ∧
      ∃ tree, script smallReader "EXPLAIN WITH c AS (SELECT 1) FROM c".toList = .ok tree ∧
        IsScript tree := by
  obtain ⟨tree, h, -⟩ := exists_of_toOption_any
    (x := script smallReader "EXPLAIN WITH c AS (SELECT 1) FROM c".toList)
    (p := fun _ => true) (by decide +kernel)
  exact ⟨keepsClauses_smallReader, tree, h, isScript_of_script keepsClauses_smallReader h⟩

end StatementShape.Statement
