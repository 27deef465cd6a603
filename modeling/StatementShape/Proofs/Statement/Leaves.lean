import StatementShape.Proofs.Statement.Heads
import StatementShape.Proofs.Statement.Placement

/-!
# Leaves over tokens

The parts of a statement are cut from its tokens by three scans, and each part is read by itself.
What is cut fits together again: the leaves of the tree of a statement, from left to right, cover
runs of tokens that make up all of the tokens, none of which is lost, or covered twice. Inside
explanations these are the tokens of what is explained.

Where a statement begins with its source, the cuts are known from the tokens alone: the source is
the longest run at the front without a head outside parentheses, and each insertion outside
parentheses begins a branch.

## Main definitions

* `Tree.leaves`: the leaves of a tree, from left to right
* `Covers`, `Tile`: a tree over a run of tokens, and trees over runs that make up some tokens
* `BehindOptions`, `InnermostAt`: what stands behind option words, and inside all explanations
* `BySource`: the parts of a statement that begins with its source

## Main results

* `tile_of_statement`: the leaves of a statement tile its tokens, and are cut where its heads are
-/

namespace StatementShape.Statement

open Sql (Token TokenKind Reader Expression ExpressionKind)
open Text (Span)

/-! ### Leaves -/

namespace Tree

mutual

/-- The leaves of a tree, from left to right. -/
def leaves : Tree → List Tree
  | node p s x e [] => [node p s x e []]
  | node _ _ _ _ (c :: cs) => leaves c ++ leavesOf cs

/-- The leaves of several trees. -/
def leavesOf : List Tree → List Tree
  | [] => []
  | t :: ts => leaves t ++ leavesOf ts

end

mutual

theorem leaves_shift (n : Nat) : ∀ t : Tree, (t.shift n).leaves = t.leaves.map (·.shift n)
  | .node _ _ _ _ [] => rfl
  | .node _ _ _ _ (c :: cs) => by
    rw [shift, shiftAll, leaves, leaves, leaves_shift n c, leavesOf_shiftAll n cs, List.map_append]

theorem leavesOf_shiftAll (n : Nat) :
    ∀ ts : List Tree, leavesOf (shiftAll n ts) = (leavesOf ts).map (·.shift n)
  | [] => rfl
  | t :: ts => by
    rw [shiftAll, leavesOf, leavesOf, leaves_shift n t, leavesOf_shiftAll n ts, List.map_append]

end

theorem leavesOf_append (ts us : List Tree) : leavesOf (ts ++ us) = leavesOf ts ++ leavesOf us := by
  induction ts with
  | nil => rfl
  | cons t ts ih => rw [List.cons_append, leavesOf, leavesOf, ih, List.append_assoc]

theorem leavesOf_singleton (t : Tree) : leavesOf [t] = t.leaves := by
  rw [leavesOf, leavesOf, List.append_nil]

theorem leaves_nodeOver {text : List Char} {run : List Token} {p : Production}
    {e : Option Expression} {ts : List Tree} (some : ts ≠ []) :
    (nodeOver p text run e ts).leaves = leavesOf ts := by
  cases ts with
  | nil => exact absurd rfl some
  | cons t ts => rfl

theorem nodesOf_nodeOver {text : List Char} {run : List Token} {p q : Production}
    {e : Option Expression} {ts : List Tree} (hp : q ≠ p) :
    (nodeOver q text run e ts).nodesOf p = nodesIn p ts := by
  rw [nodeOver, nodesOf, if_neg hp]

theorem nodesIn_append (p : Production) (ts us : List Tree) :
    nodesIn p (ts ++ us) = nodesIn p ts ++ nodesIn p us := by
  induction ts with
  | nil => rfl
  | cons t ts ih => rw [List.cons_append, nodesIn, nodesIn, ih, List.append_assoc]

end Tree

/-! ### Trees over tokens -/

/-- A tree over a run of tokens of a text that lies behind `k` more characters. -/
structure Covers (text : List Char) (k : Nat) (run : List Token) (t : Tree) : Prop where
  some : run ≠ []
  span_eq : t.span = (spanOf run).shift k
  text_eq : t.text = textOf text run

/-- Trees over all of some tokens: each over a run of its own, one behind another, and none of the
tokens left out. -/
def Tile (text : List Char) (k : Nat) (tokens : List Token) (ts : List Tree) : Prop :=
  ∃ runs, runs.flatten = tokens ∧ List.Forall₂ (Covers text k) runs ts

section Covers

variable {r : Reader} {text : List Char} {k : Nat} {run tokens front back : List Token}
  {runs : List (List Token)} {p q : Production} {e : Option Expression} {t : Tree}
  {ts us : List Tree}

theorem covers_nodeOver (some : run ≠ []) : Covers text 0 run (nodeOver p text run e ts) where
  some := some
  span_eq := by simp [nodeOver, spanOf, Span.shift]
  text_eq := rfl

theorem Covers.shift (n : Nat) (h : Covers text k run t) : Covers text (n + k) run (t.shift n) where
  some := h.some
  span_eq := by
    rw [Tree.span_shift, h.span_eq]
    simp only [Span.shift, Span.mk.injEq]
    omega
  text_eq := by rw [Tree.text_shift, h.text_eq]

theorem forall₂_covers_shift (n : Nat) (h : List.Forall₂ (Covers text k) runs ts) :
    List.Forall₂ (Covers text (n + k)) runs (ts.map (·.shift n)) :=
  List.forall₂_map_right_iff.mpr (h.imp fun _ _ hc => hc.shift n)

theorem Tile.shift (n : Nat) (h : Tile text k tokens ts) :
    Tile text (n + k) tokens (ts.map (·.shift n)) := by
  obtain ⟨runs, hruns, hcovers⟩ := h
  exact ⟨runs, hruns, forall₂_covers_shift n hcovers⟩

theorem Tile.append (hfront : Tile text k front ts) (hback : Tile text k back us) :
    Tile text k (front ++ back) (ts ++ us) := by
  obtain ⟨runs, rfl, hruns⟩ := hfront
  obtain ⟨runs', rfl, hruns'⟩ := hback
  exact ⟨runs ++ runs', List.flatten_append, List.rel_append hruns hruns'⟩

/-- A tree without parts is a leaf over its tokens. -/
theorem tile_nodeOver (some : run ≠ []) :
    Tile text 0 run (nodeOver p text run e []).leaves :=
  ⟨[run], by simp, List.Forall₂.cons (covers_nodeOver some) List.Forall₂.nil⟩

/-- Fragments cover their runs. -/
theorem covers_of_leafOver {wanted : ExpressionKind → Bool} (some : ∀ run ∈ runs, run ≠ [])
    (h : List.Forall₂ (LeafOver r text p wanted) runs ts) :
    List.Forall₂ (Covers text 0) runs ts := by
  refine ((List.forall₂_and_left _ _).mpr ⟨some, h⟩).imp ?_
  rintro run t ⟨hsome, e, -, rfl⟩
  exact covers_nodeOver hsome

/-- Fragments are leaves. -/
theorem leavesOf_of_leafOver {wanted : ExpressionKind → Bool}
    (h : List.Forall₂ (LeafOver r text p wanted) runs ts) : Tree.leavesOf ts = ts := by
  induction h with
  | nil => rfl
  | @cons run t runs ts hleaf _ ih =>
    obtain ⟨e, -, rfl⟩ := hleaf
    rw [Tree.leavesOf, ih]
    rfl

theorem nodesIn_of_leafOver {wanted : ExpressionKind → Bool}
    (h : List.Forall₂ (LeafOver r text q wanted) runs ts) :
    Tree.nodesIn p ts = if q = p then ts else [] := by
  induction h with
  | nil => simp [Tree.nodesIn]
  | @cons run t runs ts hleaf _ ih =>
    obtain ⟨e, -, rfl⟩ := hleaf
    rw [Tree.nodesIn, ih]
    by_cases hq : q = p <;> simp [nodeOver, Tree.nodesOf, Tree.nodesIn, hq]

end Covers

/-! ### Sources -/

/-- Productions of a statement that begins with its source, and of its parts. -/
def sourceProductions : List Production :=
  [.fromStatement, .fromClause, .fromRest, .multiInsertBranch]

/-- The parts of a statement that begins with its source, if there is one among some tokens. Its
source is the longest prefix without a head outside parentheses, a selection takes all that follows,
and there is one insertion from each `INSERT` outside parentheses up to the next. -/
inductive BySource (text : List Char) (k : Nat) (tokens : List Token) (t : Tree) : Prop
  | without (none : ∀ p ∈ sourceProductions, t.nodesOf p = [])
  | cut {front body source : List Token} {n clause : Tree} {places : List Nat}
      (whole : front ++ body = tokens)
      (statement_eq : t.nodesOf .fromStatement = [n]) (statement_covers : Covers text k body n)
      (clause_eq : t.nodesOf .fromClause = [clause])
      (clause_covers : Covers text k source clause)
      (longest : LongestPrefix (fun ts => ∀ i, ¬ Outside isHead ts i) body source)
      (rest : t.nodesOf .fromRest = [] ∨ ∃ u, t.nodesOf .fromRest = [u] ∧
        Covers text k (body.drop source.length) u)
      (ascending : places.Pairwise (· < ·))
      (mem_iff : ∀ i, i ∈ places ↔ Outside (· = .insert) body i)
      (branches : List.Forall₂ (Covers text k) (runsFrom body places)
        (t.nodesOf .multiInsertBranch))

section Sources

variable {r : Reader} {text : List Char} {k : Nat} {front body tokens : List Token} {t u : Tree}

/-- A leaf is none of the parts of a statement that begins with its source, unless it is one of
them by its production. -/
theorem bySource_nodeOver {p : Production} {e : Option Expression} (hp : p ∉ sourceProductions) :
    BySource text k tokens (nodeOver p text tokens e []) := by
  refine .without fun q hq => ?_
  rw [Tree.nodesOf_nodeOver (ne_of_mem_of_not_mem hq hp).symm, Tree.nodesIn]

/-- A tree with the same parts of a statement that begins with its source. -/
theorem BySource.of_nodesOf (front : List Token) (h : BySource text k body t)
    (heq : ∀ p ∈ sourceProductions, u.nodesOf p = t.nodesOf p) :
    BySource text k (front ++ body) u := by
  cases h with
  | without none => exact .without fun p hp => (heq p hp).trans (none p hp)
  | @cut front' body' source n clause places whole statement_eq statement_covers clause_eq
      clause_covers longest rest ascending mem_iff branches =>
    have hstatement := heq .fromStatement (by decide)
    have hclause := heq .fromClause (by decide)
    have hrest := heq .fromRest (by decide)
    have hbranches := heq .multiInsertBranch (by decide)
    have hwhole : (front ++ front') ++ body' = front ++ body := by rw [List.append_assoc, whole]
    exact .cut hwhole (hstatement.trans statement_eq) statement_covers (hclause.trans clause_eq)
      clause_covers longest (hrest ▸ rest) ascending mem_iff (hbranches ▸ branches)

theorem BySource.shift (n : Nat) (h : BySource text k tokens t) :
    BySource text (n + k) tokens (t.shift n) := by
  cases h with
  | without none =>
    refine .without fun p hp => ?_
    rw [Tree.nodesOf_shift, none p hp, List.map_nil]
  | @cut front body source m clause places whole statement_eq statement_covers clause_eq
      clause_covers longest rest ascending mem_iff branches =>
    refine .cut whole ?_ (statement_covers.shift n) ?_ (clause_covers.shift n) longest ?_ ascending
      mem_iff ?_
    · rw [Tree.nodesOf_shift, statement_eq, List.map_singleton]
    · rw [Tree.nodesOf_shift, clause_eq, List.map_singleton]
    · rw [Tree.nodesOf_shift]
      rcases rest with hnone | ⟨u, hu, hcovers⟩
      · exact Or.inl (by rw [hnone, List.map_nil])
      · exact Or.inr ⟨u.shift n, by rw [hu, List.map_singleton], hcovers.shift n⟩
    · rw [Tree.nodesOf_shift]
      exact forall₂_covers_shift n branches

/-- A source and the fragments behind it tile the tokens that they are cut from. -/
theorem tile_of_source {q : Production} {wanted : ExpressionKind → Bool} {source : List Token}
    {runs : List (List Token)} {parts : List Tree} (tokens : List Token) (e : Option Expression)
    (hsource : source ≠ []) (some : ∀ run ∈ runs, run ≠ [])
    (h : List.Forall₂ (LeafOver r text q wanted) runs parts) :
    Tile text 0 (source ++ runs.flatten)
      (nodeOver .fromStatement text tokens none
        (nodeOver .fromClause text source e [] :: parts)).leaves := by
  have hparts : Tile text 0 runs.flatten (Tree.leavesOf parts) :=
    ⟨runs, rfl, (leavesOf_of_leafOver h).symm ▸ covers_of_leafOver some h⟩
  exact (tile_nodeOver hsource).append hparts

/-- A source and what stands behind it are the parts of a statement. -/
theorem bySource_of_parts {parts : List Tree} (e : Option Expression)
    (hfrom : BeginsWith (· = .from_) body) (hstatement : Tree.nodesIn .fromStatement parts = [])
    (hclause : Tree.nodesIn .fromClause parts = [])
    (hrest : Tree.nodesIn .fromRest parts = [] ∨ ∃ u, Tree.nodesIn .fromRest parts = [u] ∧
      Covers text 0 (body.drop (sourceLength body)) u)
    (hbranches : List.Forall₂ (Covers text 0) (runsFrom body (insertions body))
      (Tree.nodesIn .multiInsertBranch parts)) :
    BySource text 0 body (nodeOver .fromStatement text body none
      (nodeOver .fromClause text (body.take (sourceLength body)) e [] :: parts)) := by
  have hlength : (body.take (sourceLength body)).length = sourceLength body :=
    List.length_take_of_le sourceLength_le
  have hover : Covers text 0 body (nodeOver .fromStatement text body none
      (nodeOver .fromClause text (body.take (sourceLength body)) e [] :: parts)) :=
    covers_nodeOver hfrom.ne_nil
  have hcovers : Covers text 0 (body.take (sourceLength body))
      (nodeOver .fromClause text (body.take (sourceLength body)) e []) :=
    covers_nodeOver (source_ne_nil hfrom)
  have hwhole : [] ++ body = body := rfl
  refine .cut hwhole ?_ hover ?_ hcovers longestPrefix_source ?_ pairwise_insertions
    (fun i => mem_insertions_iff) ?_
  · simp [nodeOver, Tree.nodesOf, Tree.nodesIn, hstatement]
  · simp [nodeOver, Tree.nodesOf, Tree.nodesIn, hclause]
  · simpa [nodeOver, Tree.nodesOf, Tree.nodesIn, hlength] using hrest
  · simpa [nodeOver, Tree.nodesOf, Tree.nodesIn] using hbranches

/-- A statement that begins with its source is tiled by its source and what stands behind it. -/
theorem tile_of_fromStatement (hfrom : BeginsWith (· = .from_) body)
    (h : fromStatement r text body = .ok t) :
    Tile text 0 body t.leaves ∧ BySource text 0 body t := by
  have hsource := source_ne_nil hfrom
  obtain ⟨-, e, parts, -, hparts, rfl⟩ := fromStatement_eq_ok.mp h
  rcases behindSource_eq_ok.mp hparts with ⟨hselect, hnone, rest, hrest, rfl⟩ | ⟨hselect, hruns⟩
  · have hread := List.Forall₂.cons hrest List.Forall₂.nil
    have some : ∀ run ∈ [body.drop (sourceLength body)], run ≠ [] := by simpa using hselect.ne_nil
    have hcovers := (List.forall₂_cons.mp (covers_of_leafOver some hread)).1
    constructor
    · have htile := tile_of_source body (e.find? .from_) hsource some hread
      rwa [List.flatten_singleton, List.take_append_drop] at htile
    · apply bySource_of_parts _ hfrom <;> rw [nodesIn_of_leafOver hread]
      · rfl
      · rfl
      · exact Or.inr ⟨rest, rfl, hcovers⟩
      · rw [hnone]
        exact List.Forall₂.nil
  · have some : ∀ run ∈ runsFrom body (insertions body), run ≠ [] :=
      fun run hrun => (beginsWith_of_insertions hrun).ne_nil
    constructor
    · have htile := tile_of_source body (e.find? .from_) hsource some hruns
      rwa [flatten_runsFrom_insertions hselect, List.take_append_drop] at htile
    · apply bySource_of_parts _ hfrom <;> rw [nodesIn_of_leafOver hruns]
      · rfl
      · rfl
      · exact Or.inl rfl
      · exact covers_of_leafOver some hruns

end Sources

/-! ### Statements -/

/-- What stands behind the longest run of option words at the front of a text: how many
characters it lies behind, and its tokens. The text is cut into tokens afresh behind each word. -/
inductive BehindOptions (r : Reader) : List Char → Nat → List Token → Prop
  | here {text : List Char} {tokens : List Token} (read : r.tokens text = some tokens)
      (other : ∀ t ∈ tokens.head?, isExplainOption t = false) : BehindOptions r text 0 tokens
  | option {text : List Char} {t : Token} {ts tokens : List Token} {n : Nat}
      (read : r.tokens text = some (t :: ts)) (word : isExplainOption t = true)
      (more : BehindOptions r (text.drop t.stop) n tokens) :
      BehindOptions r text (t.stop + n) tokens

/-- The statement inside all explanations of a statement: how many characters of its text it lies
behind, its own text, and the tokens of that. -/
inductive InnermostAt (r : Reader) : List Char → List Token → Nat → List Char → List Token → Prop
  | here {text : List Char} {tokens : List Token} (head : ¬ Explains tokens) :
      InnermostAt r text tokens 0 text tokens
  | inside {text rest inner : List Char} {t : Token} {ts body core : List Token} {n k : Nat}
      (head : wordOf t = some "EXPLAIN")
      (rest_eq : rest = (text.take (extent (t :: ts)).2).drop t.stop)
      (options : BehindOptions r rest n body) (some : body ≠ [])
      (deeper : InnermostAt r (rest.drop n) body k inner core) :
      InnermostAt r text (t :: ts) (t.stop + n + k) inner core

section Statements

variable {r : Reader} {text : List Char} {tokens : List Token} {t : Tree}

theorem behindOptions_of_eq_ok {rest : List Char} {n : Nat} {body : List Token}
    (h : behindOptions r text = .ok (n, rest, body)) : BehindOptions r text n body := by
  fun_induction behindOptions r text generalizing n rest body with
  | case1 => cases h
  | case2 text ht =>
    cases h
    exact .here ht (by simp)
  | case3 text t ts ht hoption _ _ ih =>
    obtain ⟨⟨m, rest', body'⟩, hb, heq⟩ := map_eq_ok.mp h
    cases heq
    exact .option ht hoption (ih hb)
  | case4 => cases h
  | case5 text t ts ht hoption =>
    cases h
    exact .here ht (by simpa using hoption)

/-- The main part of a query statement is a leaf, or tiled as a statement that begins with its
source. -/
theorem tile_of_mainPart {body : List Token} (some : body ≠ [])
    (h : mainPart r text tokens body = .ok t) :
    Tile text 0 body t.leaves ∧ BySource text 0 body t := by
  unfold mainPart at h
  split at h
  · next hfrom => exact tile_of_fromStatement (beginsWith_iff_head?.mpr hfrom) h
  · split at h <;> obtain ⟨e, -, h⟩ := bind_eq_ok.mp h <;> cases pure_eq_ok.mp h
    · exact ⟨tile_nodeOver some, bySource_nodeOver (by decide)⟩
    · exact ⟨tile_nodeOver some, bySource_nodeOver (by decide)⟩

/-- What stands in front of a query is no token, or a leaf. -/
theorem tile_of_front {front body : List Token} {clauses : List Tree}
    (h : Front r text body front clauses) :
    Tile text 0 front (Tree.leavesOf clauses) ∧
      ∀ p ∈ sourceProductions, Tree.nodesIn p clauses = [] := by
  cases h with
  | nothing => exact ⟨⟨[], rfl, List.Forall₂.nil⟩, fun _ _ => rfl⟩
  | @clause run e head scan read =>
    rw [Tree.leavesOf_singleton]
    refine ⟨tile_nodeOver head.ne_nil, fun p hp => ?_⟩
    have hne : Production.withClause ≠ p := (ne_of_mem_of_not_mem hp (by decide)).symm
    rw [Tree.nodesIn, Tree.nodesOf_nodeOver hne]
    rfl

/-- A query statement is tiled by what stands in front of its query, and the query. -/
theorem tile_of_queryStatement (hquery : isQuery tokens = .ok true)
    (h : queryStatement r text tokens = .ok t) :
    Tile text 0 tokens t.leaves ∧ BySource text 0 tokens t := by
  obtain ⟨front, body, clauses, main, rfl, hfront, hhead, hmain, rfl⟩ :=
    parts_of_queryStatement hquery h
  obtain ⟨hclauses, hnone⟩ := tile_of_front hfront
  obtain ⟨htile, hsource⟩ := tile_of_mainPart hhead.ne_nil hmain
  constructor
  · rw [Tree.leaves_nodeOver (by simp), Tree.leavesOf_append, Tree.leavesOf_singleton]
    exact hclauses.append htile
  · refine hsource.of_nodesOf _ fun p hp => ?_
    have hne : Production.queryStatement ≠ p := (ne_of_mem_of_not_mem hp (by decide)).symm
    rw [Tree.nodesOf_nodeOver hne, Tree.nodesIn_append, hnone p hp, Tree.nodesIn, Tree.nodesIn,
      List.append_nil, List.nil_append]

/-- **The leaves of a statement**, from left to right, cover runs of tokens that make up all of its
tokens, or all of what is explained inside it. Where it begins with its source, the source is the
longest prefix without a head outside parentheses, and each insertion outside parentheses begins a
branch. -/
theorem tile_of_statement (h : statement r text tokens = .ok t) :
    ∃ k inner core, InnermostAt r text tokens k inner core ∧
      Tile inner k core t.leaves ∧ BySource inner k core t := by
  -- by the recursion into what is explained; without a body to explain there is no tree
  fun_induction statement r text tokens generalizing t with
  | case1 => cases h
  | case2 => cases h
  | case3 => cases h
  | case4 text u us hu start stop hextent body n rest v vs hb =>
    rename_i ih
    obtain ⟨tree, htree, rfl⟩ := map_eq_ok.mp h
    obtain ⟨k, inner, core, hinner, htile, hsource⟩ := ih htree
    obtain rfl : (extent (u :: us)).2 = stop := congrArg Prod.snd hextent
    obtain ⟨rfl, -⟩ := behindOptions_eq_ok hb
    refine ⟨u.stop + n + k, inner, core, .inside hu rfl (behindOptions_of_eq_ok hb)
      (List.cons_ne_nil v vs) hinner, ?_, ?_⟩
    · rw [Tree.leaves_nodeOver (List.cons_ne_nil _ _), Tree.leavesOf_singleton, Tree.leaves_shift]
      exact htile.shift (u.stop + n)
    · refine (hsource.shift (u.stop + n)).of_nodesOf [] fun p hp => ?_
      have hne : Production.explainStatement ≠ p := (ne_of_mem_of_not_mem hp (by decide)).symm
      rw [Tree.nodesOf_nodeOver hne, Tree.nodesIn, Tree.nodesIn, List.append_nil]
  | case5 => cases h
  | case6 text u us hu =>
    have hexplain : ¬ Explains (u :: us) := by
      rintro ⟨v, vs, heq, hv⟩
      cases heq
      exact hu hv
    refine ⟨0, text, u :: us, .here hexplain, ?_⟩
    obtain ⟨query, hq, h⟩ := bind_eq_ok.mp h
    cases query with
    | true => exact tile_of_queryStatement hq h
    | false =>
      obtain ⟨e, -, rfl⟩ := leaf_eq_ok.mp h
      exact ⟨tile_nodeOver (List.cons_ne_nil u us), bySource_nodeOver (by decide)⟩

end Statements

/-! ### Insertions from an explained source -/

/-- An explanation of two insertions from a source. -/
def explainedInsertions : List Char :=
  "EXPLAIN EXTENDED FROM t INSERT INTO a SELECT 1 INSERT INTO b SELECT 2".toList

/-- The tokens of the explanation, and of what it explains. -/
def insertionTokens : List (List Char × List Token) := [
  (explainedInsertions,
    [inLine .command "EXPLAIN" 0 7,
      inLine .string "EXTENDED FROM t INSERT INTO a SELECT 1 INSERT INTO b SELECT 2" 7 69]),
  (" EXTENDED FROM t INSERT INTO a SELECT 1 INSERT INTO b SELECT 2".toList,
    [inLine .var "EXTENDED" 1 9, inLine .from_ "FROM" 10 14, inLine .var "t" 15 16,
      inLine .insert "INSERT" 17 23, inLine .into "INTO" 24 28, inLine .var "a" 29 30,
      inLine .select "SELECT" 31 37, inLine .number "1" 38 39, inLine .insert "INSERT" 40 46,
      inLine .into "INTO" 47 51, inLine .var "b" 52 53, inLine .select "SELECT" 54 60,
      inLine .number "2" 61 62]),
  (" FROM t INSERT INTO a SELECT 1 INSERT INTO b SELECT 2".toList,
    [inLine .from_ "FROM" 1 5, inLine .var "t" 6 7, inLine .insert "INSERT" 8 14,
      inLine .into "INTO" 15 19, inLine .var "a" 20 21, inLine .select "SELECT" 22 28,
      inLine .number "1" 29 30, inLine .insert "INSERT" 31 37, inLine .into "INTO" 38 42,
      inLine .var "b" 43 44, inLine .select "SELECT" 45 51, inLine .number "2" 52 53])]

/-- The fragments that are read for them, and selections behind their source. -/
def insertionStatements : List (List Char × List Expression) := [
  ("SELECT * FROM t".toList,
    [.node .select [.node .star [], .node .from_ [.node .table [.node .identifier []]]]]),
  ("INSERT INTO a SELECT 1".toList,
    [.node .insert [.node .table [.node .identifier []], .node .select [.node .literal []]]]),
  ("INSERT INTO b SELECT 2".toList,
    [.node .insert [.node .table [.node .identifier []], .node .select [.node .literal []]]])]

/-- A language of insertions, which cuts these texts into tokens and reads them as the standard
one does, and refuses all others. -/
def insertionReader : Reader where
  tokens text := insertionTokens.lookup text
  statements text := insertionStatements.lookup text

/-- Two explained insertions and their source tile what is explained. -/
theorem tile_of_statement_explained_insertions :
    ∃ tokens t k inner core, insertionReader.tokens explainedInsertions = some tokens ∧
      statement insertionReader explainedInsertions tokens = .ok t ∧ t.leaves.length = 3 ∧
      InnermostAt insertionReader explainedInsertions tokens k inner core ∧
      Tile inner k core t.leaves ∧ BySource inner k core t := by
  obtain ⟨tokens, htokens⟩ : ∃ tokens, insertionReader.tokens explainedInsertions = some tokens :=
    ⟨_, rfl⟩
  obtain ⟨t, h, hleaves⟩ := exists_of_toOption_any
    (x := statement insertionReader explainedInsertions
      ((insertionReader.tokens explainedInsertions).getD []))
    (p := fun t => decide (t.leaves.length = 3)) (by decide +kernel)
  rw [htokens, Option.getD_some] at h
  obtain ⟨k, inner, core, hinner, htile, hsource⟩ := tile_of_statement h
  exact ⟨tokens, t, k, inner, core, htokens, h, of_decide_eq_true hleaves, hinner, htile, hsource⟩

end StatementShape.Statement
