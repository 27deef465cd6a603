import StatementShape.Proofs.Result
import StatementShape.Statement.Script

/-!
# Layouts

What the tree of a statement can be, rule by rule: which runs of tokens the parts of a statement
cover, which fragments are read for them, and which nodes they become. A script that is laid out at
all is laid out by these rules, so that every property of its tree is an induction on them.

## Main definitions

* `runsFrom`: the runs of tokens from some places on
* `Front`, `Behind`, `FromLayout`, `Main`: the parts of a query statement
* `Layout`: the layouts of statements
* `smallReader`: a language of few texts

## Main results

* `layout_of_statement`: the tree of a statement is laid out by the rules
* `layouts_of_script`: a script is its statements between semicolons, each laid out by the rules
-/

namespace StatementShape.Statement

open Sql (Token TokenKind Reader Expression ExpressionKind)

/-! ### Trees behind more text -/

namespace Tree

@[simp] theorem production_shift (n : Nat) (t : Tree) : (t.shift n).production = t.production := by
  cases t; rfl

@[simp] theorem span_shift (n : Nat) (t : Tree) : (t.shift n).span = t.span.shift n := by
  cases t; rfl

@[simp] theorem text_shift (n : Nat) (t : Tree) : (t.shift n).text = t.text := by
  cases t; rfl

@[simp] theorem expression_shift (n : Nat) (t : Tree) : (t.shift n).expression = t.expression := by
  cases t; rfl

theorem shiftAll_eq_map (n : Nat) (ts : List Tree) : shiftAll n ts = ts.map (·.shift n) := by
  induction ts with
  | nil => rfl
  | cons t ts ih => rw [shiftAll, ih, List.map_cons]

@[simp] theorem length_shiftAll (n : Nat) (ts : List Tree) :
    (shiftAll n ts).length = ts.length := by
  rw [shiftAll_eq_map, List.length_map]

@[simp] theorem children_shift (n : Nat) (t : Tree) :
    (t.shift n).children = t.children.map (·.shift n) := by
  cases t
  rw [shift, children_node, children_node, shiftAll_eq_map]

mutual

/-- Nodes of a tree behind more text are the nodes of the tree behind it. -/
theorem nodesOf_shift {p : Production} (n : Nat) :
    ∀ t : Tree, (t.shift n).nodesOf p = (t.nodesOf p).map (·.shift n)
  | .node q _ _ _ cs => by
    rw [shift, nodesOf, nodesOf, nodesIn_shiftAll n cs]
    split <;> rfl

theorem nodesIn_shiftAll {p : Production} (n : Nat) :
    ∀ ts : List Tree, nodesIn p (shiftAll n ts) = (nodesIn p ts).map (·.shift n)
  | [] => rfl
  | t :: ts => by
    rw [shiftAll, nodesIn, nodesIn, nodesOf_shift n t, nodesIn_shiftAll n ts,
      List.map_append]

end

end Tree

/-! ### Runs of tokens -/

/-- Whether the first token is of some kind. -/
def BeginsWith (kinds : TokenKind → Prop) (tokens : List Token) : Prop :=
  ∃ t ts, tokens = t :: ts ∧ kinds t.kind

theorem BeginsWith.ne_nil {kinds : TokenKind → Prop} {tokens : List Token}
    (h : BeginsWith kinds tokens) : tokens ≠ [] := by
  obtain ⟨t, ts, rfl, -⟩ := h
  exact List.cons_ne_nil t ts

theorem BeginsWith.imp {kinds kinds' : TokenKind → Prop} (hk : ∀ k, kinds k → kinds' k)
    {tokens : List Token} (h : BeginsWith kinds tokens) : BeginsWith kinds' tokens := by
  obtain ⟨t, ts, rfl, ht⟩ := h
  exact ⟨t, ts, rfl, hk _ ht⟩

theorem beginsWith_drop {kinds : TokenKind → Prop} {tokens : List Token} {i : Nat} {t : Token}
    (ht : tokens[i]? = some t) (hk : kinds t.kind) : BeginsWith kinds (tokens.drop i) := by
  obtain ⟨hi, rfl⟩ := List.getElem?_eq_some_iff.mp ht
  exact ⟨tokens[i], tokens.drop (i + 1), List.drop_eq_getElem_cons hi, hk⟩

theorem beginsWith_iff_head? {k : TokenKind} {tokens : List Token} :
    BeginsWith (· = k) tokens ↔ tokens.head?.any (·.kind = k) = true := by
  cases tokens with
  | nil => simp [BeginsWith]
  | cons t ts => simp [BeginsWith]

/-- The runs of tokens from each place up to the next, the last one up to the end. -/
def runsFrom (tokens : List Token) : List Nat → List (List Token)
  | [] => []
  | i :: more =>
    ((tokens.take (more.head?.getD tokens.length)).drop i) :: runsFrom tokens more

theorem length_runsFrom {tokens : List Token} {places : List Nat} :
    (runsFrom tokens places).length = places.length := by
  induction places with
  | nil => rfl
  | cons i more ih => rw [runsFrom, List.length_cons, List.length_cons, ih]

/-- A run from a place up to the next has a token. -/
theorem run_ne_nil {tokens : List Token} {i : Nat} {more : List Nat}
    (hlt : (i :: more).Pairwise (· < ·)) (hi : i < tokens.length) :
    (tokens.take (more.head?.getD tokens.length)).drop i ≠ [] := by
  have hnext : i < more.head?.getD tokens.length := by
    cases more with
    | nil => exact hi
    | cons j more => exact (List.pairwise_cons.mp hlt).1 j List.mem_cons_self
  rw [ne_eq, List.drop_eq_nil_iff, List.length_take]
  omega

/-- The runs from ascending places are all the tokens from the first place on. -/
theorem flatten_runsFrom {tokens : List Token} {i : Nat} {more : List Nat}
    (hlt : (i :: more).Pairwise (· < ·)) : (runsFrom tokens (i :: more)).flatten = tokens.drop i := by
  induction more generalizing i with
  | nil => simp [runsFrom]
  | cons j more ih =>
    have hij : i < j := (List.pairwise_cons.mp hlt).1 j (by simp)
    have hrest := ih (List.pairwise_cons.mp hlt).2
    rw [runsFrom, List.flatten_cons, hrest, List.head?_cons, Option.getD_some]
    conv_rhs => rw [← List.take_append_drop j tokens]
    rcases Nat.le_total j tokens.length with hj | hj
    · rw [List.drop_append_of_le_length (by rw [List.length_take]; omega)]
    · simp [List.take_of_length_le hj, List.drop_eq_nil_of_le hj]

/-- Each run begins with the token at its place. -/
theorem beginsWith_of_mem_runsFrom {kinds : TokenKind → Prop} {tokens : List Token}
    {places : List Nat} (hlt : places.Pairwise (· < ·))
    (hk : ∀ i ∈ places, ∃ t, tokens[i]? = some t ∧ kinds t.kind) {run : List Token}
    (hrun : run ∈ runsFrom tokens places) : BeginsWith kinds run := by
  induction places with
  | nil => simp [runsFrom] at hrun
  | cons i more ih =>
    rcases List.mem_cons.mp hrun with rfl | hrun
    · obtain ⟨t, ht, htk⟩ := hk i (by simp)
      have hi : i < more.head?.getD tokens.length := by
        cases more with
        | nil => exact (List.getElem?_eq_some_iff.mp ht).1
        | cons j more => exact (List.pairwise_cons.mp hlt).1 j (by simp)
      exact beginsWith_drop (by rw [List.getElem?_take_of_lt hi, ht]) htk
    · exact ih (List.pairwise_cons.mp hlt).2 (fun j hj => hk j (List.mem_cons_of_mem _ hj)) hrun

/-! ### Runs between semicolons -/

/-- Tokens cut at semicolons into the runs between them, the empty ones left out. -/
inductive Cut : List Token → List (List Token) → Prop
  | nil : Cut [] []
  | last {run : List Token} (some : run ≠ []) (inside : ∀ t ∈ run, t.kind ≠ .semicolon) :
      Cut run [run]
  | empty {t : Token} {rest : List Token} {runs : List (List Token)} (ht : t.kind = .semicolon)
      (cut : Cut rest runs) : Cut (t :: rest) runs
  | more {t : Token} {run rest : List Token} {runs : List (List Token)} (some : run ≠ [])
      (inside : ∀ t ∈ run, t.kind ≠ .semicolon) (ht : t.kind = .semicolon) (cut : Cut rest runs) :
      Cut (run ++ t :: rest) (run :: runs)

/-- Statements are the runs between semicolons. -/
theorem cut_statements (tokens : List Token) : Cut tokens (statements tokens) := by
  induction hlen : tokens.length using Nat.strongRecOn generalizing tokens with
  | ind len ih =>
  cases h : tokens.find? fun t => decide (t.kind = .semicolon) with
  | none =>
    have inside : ∀ t ∈ tokens, t.kind ≠ .semicolon := by simpa using h
    have hsplit := List.splitOnP_eq_singleton (p := fun t : Token => decide (t.kind = .semicolon))
      fun t ht => decide_eq_false (inside t ht)
    unfold statements
    rw [hsplit]
    cases tokens with
    | nil => exact Cut.nil
    | cons t ts => exact Cut.last (List.cons_ne_nil t ts) inside
  | some t =>
    obtain ⟨ht, run, rest, rfl, inside⟩ := List.find?_eq_some_iff_append.mp h
    have ht : t.kind = .semicolon := of_decide_eq_true ht
    have inside : ∀ u ∈ run, u.kind ≠ .semicolon := by simpa using inside
    have ih := ih rest.length (by simp only [← hlen, List.length_append, List.length_cons]; omega)
      rest rfl
    have hsplit := List.splitOnP_append_cons_of_forall_mem
      (p := fun t : Token => decide (t.kind = .semicolon))
      (fun u hu => decide_eq_false (inside u hu)) t (decide_eq_true ht) rest
    unfold statements at ih ⊢
    rw [hsplit]
    cases run with
    | nil => exact Cut.empty ht ih
    | cons u us => exact Cut.more (List.cons_ne_nil u us) inside ht ih

theorem Cut.isInfix_of_mem {tokens run : List Token} {runs : List (List Token)}
    (h : Cut tokens runs) (hrun : run ∈ runs) : run <:+: tokens := by
  induction h with
  | nil => cases hrun
  | last => exact List.mem_singleton.mp hrun ▸ List.infix_refl _
  | empty ht cut ih => exact (ih hrun).trans (List.suffix_cons _ _).isInfix
  | @more t run' rest runs some inside ht cut ih =>
    rcases List.mem_cons.mp hrun with rfl | hrun
    · exact (List.prefix_append _ _).isInfix
    · exact (ih hrun).trans ⟨run' ++ [t], [], by simp⟩

/-! ### Places outside parentheses -/

/-- A place outside parentheses holds a token of a wanted kind. -/
theorem getElem?_of_mem_topLevelFrom {wanted : TokenKind → Bool} {ts : List Token} {depth : Int}
    {i j : Nat} (h : j ∈ topLevelFrom wanted ts depth i) :
    ∃ k t, j = i + k ∧ ts[k]? = some t ∧ wanted t.kind = true := by
  induction ts generalizing depth i with
  | nil => simp [topLevelFrom] at h
  | cons t ts ih =>
    have later : ∀ {d : Int}, j ∈ topLevelFrom wanted ts d (i + 1) →
        ∃ k u, j = i + k ∧ (t :: ts)[k]? = some u ∧ wanted u.kind = true := by
      intro d hj
      obtain ⟨k, u, rfl, hu, hw⟩ := ih hj
      exact ⟨k + 1, u, by omega, by simpa using hu, hw⟩
    unfold topLevelFrom at h
    split at h
    · exact later h
    · split at h
      · exact later h
      · split at h
        · next hw =>
          rcases List.mem_cons.mp h with rfl | h
          · exact ⟨0, t, by simp, by simp, hw.2⟩
          · exact later h
        · exact later h

/-- Places outside parentheses are found in ascending order. -/
theorem pairwise_topLevelFrom {wanted : TokenKind → Bool} {ts : List Token} {depth : Int}
    {i : Nat} : (topLevelFrom wanted ts depth i).Pairwise (· < ·) := by
  induction ts generalizing depth i with
  | nil => simp [topLevelFrom]
  | cons t ts ih =>
    unfold topLevelFrom
    split
    · exact ih
    · split
      · exact ih
      · split
        · refine List.pairwise_cons.mpr ⟨?_, ih⟩
          intro j hj
          obtain ⟨k, -, rfl, -, -⟩ := getElem?_of_mem_topLevelFrom hj
          omega
        · exact ih

theorem getElem?_of_mem_topLevel {wanted : TokenKind → Bool} {ts : List Token} {i : Nat}
    (h : i ∈ topLevel wanted ts) : ∃ t, ts[i]? = some t ∧ wanted t.kind = true := by
  obtain ⟨k, t, rfl, ht, hw⟩ := getElem?_of_mem_topLevelFrom h
  exact ⟨t, by simpa using ht, hw⟩

/-! ### Parts of statements -/

section Parts

variable (r : Reader) (text : List Char)

/-- A run is a leaf of a production if its text spells a fragment of a wanted kind. -/
def LeafOver (p : Production) (wanted : ExpressionKind → Bool) (run : List Token) (t : Tree) :
    Prop :=
  ∃ e, fragment r wanted (textOf text run) = .ok e ∧ t = nodeOver p text run (some e) []

/-- What stands behind a source, run by run: nothing, one selection, or insertions. -/
inductive Behind : List (List Token) → List Tree → Prop
  | nothing : Behind [] []
  | rest {run : List Token} {t : Tree} (head : BeginsWith (· = .select) run)
      (read : LeafOver r text .fromRest (·.isQuery) run t) : Behind [run] [t]
  | branches {runs : List (List Token)} {parts : List Tree} (some : runs ≠ [])
      (heads : ∀ run ∈ runs, BeginsWith (· = .insert) run)
      (read : List.Forall₂ (LeafOver r text .multiInsertBranch (· == .insert)) runs parts) :
      Behind runs parts

/-- A statement that begins with its source: the source, read behind `SELECT *`, and what stands
behind it. -/
inductive FromLayout : List Token → Tree → Prop
  | mk {source : List Token} {runs : List (List Token)} {parts : List Tree} {e : Expression}
      (head : BeginsWith (· = .from_) source)
      (read : fragment r (· == .select) ("SELECT * ".toList ++ textOf text source) = .ok e)
      (behind : Behind r text runs parts) :
      FromLayout (source ++ runs.flatten)
        (nodeOver .fromStatement text (source ++ runs.flatten) none
          (nodeOver .fromClause text source (e.find? .from_) [] :: parts))

/-- What stands in front of a query: nothing, or common table expressions, read in front of a
selection of one. -/
inductive Front (body : List Token) : List Token → List Tree → Prop
  | nothing (head : ¬ BeginsWith (· = .with_) body) : Front body [] []
  | clause {run : List Token} {e : Expression} (head : BeginsWith (· = .with_) run)
      (scan : withEnd (run ++ body) = .ok run.length)
      (read : fragment r (· == .select) (textOf text run ++ " SELECT 1".toList) = .ok e) :
      Front body run [nodeOver .withClause text run (e.find? .with_) []]

/-- The main part of a query statement: a statement that begins with its source, or an insertion
or a selection, which are read together with what stands in front of them. -/
inductive Main (whole body : List Token) : Tree → Prop
  | from_ {t : Tree} (read : FromLayout r text body t) : Main whole body t
  | insert {e : Expression} (head : BeginsWith (· = .insert) body)
      (read : fragment r (· == .insert) (textOf text whole) = .ok e) :
      Main whole body (nodeOver .insertStatement text body (some e) [])
  | select {e : Expression} (head : BeginsWith (fun k => k = .select ∨ k = .lParen) body)
      (read : fragment r (·.isQuery) (textOf text whole) = .ok e) :
      Main whole body (nodeOver .selectQueryStatement text body (some e) [])

end Parts

/-! ### Statements -/

/-- Whether tokens begin with `EXPLAIN`. -/
def Explains (tokens : List Token) : Prop :=
  ∃ t ts, tokens = t :: ts ∧ wordOf t = some "EXPLAIN"

/-- The layouts of statements. What an explanation explains is cut into tokens afresh, behind
the word and its options, and laid out in that text. -/
inductive Layout (r : Reader) : List Char → List Token → Tree → Prop
  | utility {text : List Char} {tokens : List Token} {t : Tree} (some : tokens ≠ [])
      (head : ¬ Explains tokens) (root : isQuery tokens = .ok false)
      (read : LeafOver r text .utilityStatement (fun _ => true) tokens t) : Layout r text tokens t
  | query {text : List Char} {front body : List Token} {clauses : List Tree} {main : Tree}
      (head : ¬ Explains (front ++ body)) (root : isQuery (front ++ body) = .ok true)
      (readFront : Front r text body front clauses)
      (readMain : Main r text (front ++ body) body main) :
      Layout r text (front ++ body)
        (nodeOver .queryStatement text (front ++ body) none (clauses ++ [main]))
  | explain {text rest : List Char} {t : Token} {ts body : List Token} {n : Nat} {inner : Tree}
      (head : wordOf t = some "EXPLAIN")
      (cut : behindOptions r ((text.take (extent (t :: ts)).2).drop t.stop) = .ok (n, rest, body))
      (some : body ≠ []) (explained : Layout r rest body inner) :
      Layout r text (t :: ts)
        (nodeOver .explainStatement text (t :: ts) none [inner.shift (t.stop + n)])

/-! ### Every statement is laid out by the rules -/

section Soundness

variable {r : Reader} {text : List Char} {tokens : List Token} {t : Tree}

theorem fragment_eq_ok {wanted : ExpressionKind → Bool} {e : Expression} :
    fragment r wanted text = .ok e ↔ r.statements text = some [e] ∧ wanted e.kind = true := by
  unfold fragment
  split
  · next h => simp [h]
  · next e' h =>
    simp only [h, Option.some.injEq, List.cons.injEq, and_true]
    split
    · next hw =>
      constructor
      · intro he
        cases he
        exact ⟨rfl, hw⟩
      · rintro ⟨rfl, -⟩
        rfl
    · next hw =>
      constructor
      · intro he
        cases he
      · rintro ⟨rfl, hk⟩
        exact absurd hk hw
  · next hmore heq =>
    constructor
    · intro he
      cases he
    · rintro ⟨hs, -⟩
      exact absurd (heq.symm.trans hs) (by simpa using hmore e)

theorem leaf_eq_ok {p : Production} {wanted : ExpressionKind → Bool} :
    leaf r p wanted text tokens = .ok t ↔ LeafOver r text p wanted tokens t := by
  simp only [leaf, bind_eq_ok, pure_eq_ok, LeafOver]
  exact exists_congr fun e => and_congr_right fun _ => eq_comm

theorem branches_eq_ok {places : List Nat} {parts : List Tree} :
    branches r text tokens places = .ok parts ↔
      List.Forall₂ (LeafOver r text .multiInsertBranch (· == .insert)) (runsFrom tokens places)
        parts := by
  induction places generalizing parts with
  | nil =>
    rw [runsFrom, List.forall₂_nil_left_iff, branches]
    exact ⟨fun h => (Except.ok.inj h).symm, fun h => congrArg Except.ok h.symm⟩
  | cons i more ih =>
    simp only [branches, runsFrom, bind_eq_ok, pure_eq_ok, leaf_eq_ok, ih,
      List.forall₂_cons_left_iff]
    constructor
    · rintro ⟨b, hb, bs, hbs, rfl⟩
      exact ⟨b, bs, hb, hbs, rfl⟩
    · rintro ⟨b, bs, hb, hbs, rfl⟩
      exact ⟨b, hb, bs, hbs, rfl⟩

/-- Behind a source stands what the first place outside parentheses begins. -/
theorem behind_of_branches {heads : List Nat} (hasc : heads.Pairwise (· < ·))
    (hmem : ∀ i ∈ heads, ∃ u, tokens[i]? = some u ∧ (u.kind = .select ∨ u.kind = .insert))
    (hhead : ¬ BeginsWith (· = .select) (tokens.drop (heads.head?.getD tokens.length)))
    {parts : List Tree}
    (h : branches r text tokens
      (heads.filter fun i => tokens[i]?.any fun u => decide (u.kind = .insert)) = .ok parts) :
    ∃ runs, tokens.drop (heads.head?.getD tokens.length) = runs.flatten ∧
      Behind r text runs parts := by
  cases heads with
  | nil =>
    obtain rfl : parts = [] := by simpa [branches, eq_comm] using h
    exact ⟨[], by simp, Behind.nothing⟩
  | cons i more =>
    obtain ⟨u, hu, hk⟩ := hmem i (by simp)
    have hinsert : u.kind = .insert :=
      hk.resolve_left fun hs => hhead (beginsWith_drop hu hs)
    rw [List.filter_cons_of_pos (by simp [hu, hinsert])] at h
    -- the first place begins an insertion, and among the others only insertions are kept
    set later := more.filter fun i => tokens[i]?.any fun u => decide (u.kind = .insert)
    have hlt : (i :: later).Pairwise (· < ·) :=
      hasc.sublist (List.Sublist.cons_cons i List.filter_sublist)
    refine ⟨runsFrom tokens (i :: later), (flatten_runsFrom hlt).symm, Behind.branches ?_ ?_
      (branches_eq_ok.mp h)⟩
    · simp [runsFrom]
    · intro run hrun
      apply beginsWith_of_mem_runsFrom hlt _ hrun
      intro j hj
      rcases List.mem_cons.mp hj with rfl | hj
      · exact ⟨u, hu, hinsert⟩
      · simpa [Option.any_eq_true] using (List.mem_filter.mp hj).2

theorem FromLayout.of_drop {cut : Nat} {runs : List (List Token)} {parts : List Tree}
    {e : Expression} (head : BeginsWith (· = .from_) (tokens.take cut))
    (read : fragment r (· == .select) ("SELECT * ".toList ++ textOf text (tokens.take cut)) = .ok e)
    (hruns : tokens.drop cut = runs.flatten) (behind : Behind r text runs parts) :
    FromLayout r text tokens (nodeOver .fromStatement text tokens none
      (nodeOver .fromClause text (tokens.take cut) (e.find? .from_) [] :: parts)) := by
  have whole : tokens.take cut ++ runs.flatten = tokens := by
    rw [← hruns, List.take_append_drop]
  have layout := FromLayout.mk head read behind
  rwa [whole] at layout

/-- A source has at least its own first token, since no place of a head is the first. -/
theorem beginsWith_source {heads : List Nat} (hfrom : BeginsWith (· = .from_) tokens)
    (hmem : ∀ i ∈ heads, ∃ u, tokens[i]? = some u ∧ (u.kind = .select ∨ u.kind = .insert)) :
    BeginsWith (· = .from_) (tokens.take (heads.head?.getD tokens.length)) := by
  obtain ⟨u, us, rfl, hu⟩ := hfrom
  cases heads with
  | nil => exact ⟨u, us, by simp, hu⟩
  | cons i more =>
    cases i with
    | zero =>
      obtain ⟨v, hv, hk⟩ := hmem 0 (by simp)
      obtain rfl : u = v := by simpa using hv
      simp [hu] at hk
    | succ i => exact ⟨u, us.take i, by simp, hu⟩

/-- A source ends at the first selection or insertion outside parentheses. -/
theorem fromLayout_of_fromStatement (hfrom : BeginsWith (· = .from_) tokens)
    (h : fromStatement r text tokens = .ok t) : FromLayout r text tokens t := by
  unfold fromStatement at h
  dsimp only at h
  set heads := topLevel (fun k => decide (k = .select) || decide (k = .insert)) tokens with hheads
  have hasc : heads.Pairwise (· < ·) := pairwise_topLevelFrom
  have hmem : ∀ i ∈ heads, ∃ u, tokens[i]? = some u ∧ (u.kind = .select ∨ u.kind = .insert) := by
    intro i hi
    simpa using getElem?_of_mem_topLevel hi
  clear_value heads
  have hsource := beginsWith_source hfrom hmem
  split at h
  · obtain ⟨-, h, -⟩ := bind_eq_ok.mp h
    cases h
  · obtain ⟨e, he, h⟩ := bind_eq_ok.mp h
    split at h
    · next hselect =>
      split at h
      · obtain ⟨-, h, -⟩ := bind_eq_ok.mp h
        cases h
      · obtain ⟨rest, hrest, h⟩ := bind_eq_ok.mp h
        obtain ⟨parts, hparts, h⟩ := bind_eq_ok.mp h
        cases pure_eq_ok.mp hparts
        cases pure_eq_ok.mp h
        exact FromLayout.of_drop hsource he (by simp)
          (Behind.rest (beginsWith_iff_head?.mpr hselect) (leaf_eq_ok.mp hrest))
    · next hselect =>
      obtain ⟨parts, hparts, h⟩ := bind_eq_ok.mp h
      cases pure_eq_ok.mp h
      obtain ⟨runs, hruns, hbehind⟩ :=
        behind_of_branches hasc hmem (fun hs => hselect (beginsWith_iff_head?.mp hs)) hparts
      exact FromLayout.of_drop hsource he hruns hbehind

/-- The main part is what its first token says. -/
theorem main_of_mainPart {whole body : List Token} (hhead : BeginsWith (isQueryHead · = true) body)
    (h : mainPart r text whole body = .ok t) : Main r text whole body t := by
  unfold mainPart at h
  split at h
  · next hfrom => exact Main.from_ (fromLayout_of_fromStatement (beginsWith_iff_head?.mpr hfrom) h)
  · next hfrom =>
    split at h
    · next hinsert =>
      obtain ⟨e, he, h⟩ := bind_eq_ok.mp h
      cases pure_eq_ok.mp h
      exact Main.insert (beginsWith_iff_head?.mpr hinsert) he
    · next hinsert =>
      obtain ⟨e, he, h⟩ := bind_eq_ok.mp h
      cases pure_eq_ok.mp h
      refine Main.select ?_ he
      obtain ⟨u, us, rfl, hu⟩ := hhead
      refine ⟨u, us, rfl, ?_⟩
      cases hk : u.kind <;> simp_all [isQueryHead]

/-- Common table expressions take more than the token in front of them. -/
theorem lt_of_withEndFrom {before : Token} {ts : List Token} {i n : Nat}
    (h : withEndFrom before ts i = .ok n) : i < n := by
  fun_induction withEndFrom before ts i with
  | case1 => cases h
  | case2 => cases h
  | case3 before i t ts hopen k hclose =>
    cases h
    exact Nat.lt_add_of_pos_right (closing_pos hclose).1
  | case4 => cases h
  | case5 before i t ts hopen k hclose c rest hr hb _ hcomma ih =>
    have hlt := ih h
    omega
  | case6 before i t ts hopen k hclose =>
    cases h
    exact Nat.lt_add_of_pos_right (closing_pos hclose).1
  | case7 before i t ts hopen k hclose c rest hr hb _ last ih =>
    have hlt := ih h
    omega
  | case8 before i t ts hopen ih =>
    have hlt := ih h
    omega

/-- Behind the common table expressions of a query stands its head. -/
theorem beginsWith_of_isQuery {cut : Nat} (hquery : isQuery tokens = .ok true)
    (hwith : BeginsWith (· = .with_) tokens) (hcut : withEnd tokens = .ok cut) :
    tokens.take cut ≠ [] ∧ BeginsWith (isQueryHead · = true) (tokens.drop cut) := by
  obtain ⟨u, us, rfl, hu⟩ := hwith
  have hpos : 0 < cut := Nat.zero_lt_of_lt (lt_of_withEndFrom hcut)
  have hroot : (u :: us)[cut]?.any (fun v => isQueryHead v.kind) = true := by
    simpa [isQuery, hu, hcut, Except.map] using hquery
  obtain ⟨v, hv, hk⟩ := (Option.any_eq_true _ _).mp hroot
  refine ⟨?_, beginsWith_drop hv hk⟩
  rw [ne_eq, List.take_eq_nil_iff, not_or]
  exact ⟨Nat.ne_of_gt hpos, List.cons_ne_nil u us⟩

/-- Common table expressions that a query head follows stand in front of a query. -/
theorem front_of_withClause {u : Token} {us : List Token} {cut : Nat} (hu : u.kind = .with_)
    (hcut : withEnd (u :: us) = .ok cut)
    (hhead : BeginsWith (isQueryHead · = true) ((u :: us).drop cut))
    (h : withClause r text ((u :: us).take cut) = .ok t) :
    Front r text ((u :: us).drop cut) ((u :: us).take cut) [t] := by
  obtain ⟨e, he, h⟩ := bind_eq_ok.mp h
  cases pure_eq_ok.mp h
  have hpos : 0 < cut := Nat.zero_lt_of_lt (lt_of_withEndFrom hcut)
  have hlen : ((u :: us).take cut).length = cut := by
    refine List.length_take_of_le ?_
    by_contra hlt
    exact hhead.ne_nil (List.drop_eq_nil_of_le (by omega))
  refine Front.clause ⟨u, us.take (cut - 1), ?_, hu⟩ ?_ he
  · rw [← List.take_succ_cons, Nat.sub_add_cancel hpos]
  · rw [List.take_append_drop, hlen, hcut]

/-- The parts of a query statement: what stands in front of it, and its main part, which begins
with the head of a query. -/
theorem parts_of_queryStatement (hquery : isQuery tokens = .ok true)
    (h : queryStatement r text tokens = .ok t) :
    ∃ front body clauses main, tokens = front ++ body ∧ Front r text body front clauses ∧
      BeginsWith (isQueryHead · = true) body ∧ mainPart r text tokens body = .ok main ∧
      t = nodeOver .queryStatement text tokens none (clauses ++ [main]) := by
  obtain ⟨u, us, rfl⟩ : ∃ u us, tokens = u :: us := by
    cases tokens with
    | nil => simp [isQuery] at hquery
    | cons u us => exact ⟨u, us, rfl⟩
  unfold queryStatement at h
  split at h
  · next hwith =>
    have hu : u.kind = .with_ := by simpa using hwith
    obtain ⟨cut, hcut, h⟩ := bind_eq_ok.mp h
    obtain ⟨clause, hclause, h⟩ := bind_eq_ok.mp h
    obtain ⟨main, hmain, h⟩ := bind_eq_ok.mp h
    cases pure_eq_ok.mp h
    -- the scan stops at the head that makes the statement a query
    have hhead := (beginsWith_of_isQuery hquery ⟨u, us, rfl, hu⟩ hcut).2
    exact ⟨_, _, [clause], main, (List.take_append_drop cut (u :: us)).symm,
      front_of_withClause hu hcut hhead hclause, hhead, hmain, rfl⟩
  · next hwith =>
    have hu : u.kind ≠ .with_ := by simpa using hwith
    obtain ⟨main, hmain, h⟩ := bind_eq_ok.mp h
    cases pure_eq_ok.mp h
    have hhead : BeginsWith (isQueryHead · = true) (u :: us) :=
      ⟨u, us, rfl, by simpa [isQuery, hu] using hquery⟩
    exact ⟨[], u :: us, [], main, rfl, Front.nothing (by simpa [BeginsWith] using hu), hhead,
      hmain, rfl⟩

/-- A query statement is laid out by the rules. -/
theorem layout_of_queryStatement (hexplain : ¬ Explains tokens) (hquery : isQuery tokens = .ok true)
    (h : queryStatement r text tokens = .ok t) : Layout r text tokens t := by
  obtain ⟨front, body, clauses, main, rfl, hfront, hhead, hmain, rfl⟩ :=
    parts_of_queryStatement hquery h
  exact Layout.query hexplain hquery hfront (main_of_mainPart hhead hmain)

/-- Behind option words stands a rest of the text, cut into tokens by itself. -/
theorem behindOptions_eq_ok {rest : List Char} {n : Nat} {body : List Token}
    (h : behindOptions r text = .ok (n, rest, body)) :
    rest = text.drop n ∧ r.tokens rest = some body := by
  fun_induction behindOptions r text generalizing n rest body with
  | case1 => cases h
  | case2 text ht => cases h; exact ⟨rfl, ht⟩
  | case3 text t ts _ _ _ _ ih =>
    obtain ⟨⟨m, rest', body'⟩, hb, heq⟩ := map_eq_ok.mp h
    cases heq
    obtain ⟨rfl, hbody⟩ := ih hb
    exact ⟨List.drop_drop, hbody⟩
  | case4 => cases h
  | case5 text t ts ht => cases h; exact ⟨rfl, ht⟩

/-- **The tree of a statement** is laid out by the rules. -/
theorem layout_of_statement (h : statement r text tokens = .ok t) : Layout r text tokens t := by
  fun_induction statement r text tokens generalizing t with
  | case1 => cases h
  | case2 => cases h
  | case3 => cases h
  | case4 text u us hu start stop hextent body n rest v vs hb =>
    rename_i ih
    obtain ⟨inner, hinner, rfl⟩ := map_eq_ok.mp h
    obtain rfl : (extent (u :: us)).2 = stop := congrArg Prod.snd hextent
    exact Layout.explain hu hb (List.cons_ne_nil v vs) (ih hinner)
  | case5 => cases h
  | case6 text u us hu =>
    have hexplain : ¬ Explains (u :: us) := by
      rintro ⟨v, vs, heq, hv⟩
      cases heq
      exact hu hv
    obtain ⟨query, hq, h⟩ := bind_eq_ok.mp h
    cases query with
    | true => exact layout_of_queryStatement hexplain hq h
    | false => exact Layout.utility (List.cons_ne_nil u us) hexplain hq (leaf_eq_ok.mp h)

/-- **A script** has a statement for each run of tokens between its semicolons, each laid out by the
rules, and at least one. -/
theorem layouts_of_script {tree : Tree} (h : script r text = .ok tree) :
    ∃ tokens parts, r.tokens text = some tokens ∧ parts ≠ [] ∧
      List.Forall₂ (Layout r text) (statements tokens) parts ∧
      tree = .node .script { start := 0, stop := text.length } text none parts := by
  unfold script at h
  split at h
  · cases h
  · next tokens htokens =>
    obtain ⟨parts, hparts, h⟩ := bind_eq_ok.mp h
    split at h
    · cases h
    · next hsome =>
      cases h
      refine ⟨tokens, parts, htokens, by simpa using hsome, ?_, rfl⟩
      exact (mapM_eq_ok.mp hparts).imp fun _ _ => layout_of_statement

end Soundness

/-! ### A small language -/

/-- A token in the first line of a text. -/
def inLine (kind : TokenKind) (text : String) (start stop : Nat) : Token where
  kind := kind
  text := text
  start := start
  stop := stop
  line := 1
  column := stop

/-- The tokens of an explanation of a source, of what it explains, and of a utility statement. -/
def smallTokens : List (List Char × List Token) := [
  ("EXPLAIN WITH c AS (SELECT 1) FROM c".toList,
    [inLine .command "EXPLAIN" 0 7, inLine .string "WITH c AS (SELECT 1) FROM c" 7 35]),
  (" WITH c AS (SELECT 1) FROM c".toList,
    [inLine .with_ "WITH" 1 5, inLine .var "c" 6 7, inLine .as_ "AS" 8 10, inLine .lParen "(" 11 12,
      inLine .select "SELECT" 12 18, inLine .number "1" 19 20, inLine .rParen ")" 20 21,
      inLine .from_ "FROM" 22 26, inLine .var "c" 27 28]),
  ("DROP TABLE t".toList,
    [inLine .drop "DROP" 0 4, inLine .table "TABLE" 5 10, inLine .var "t" 11 12])]

/-- The fragments that are read for them. -/
def smallStatements : List (List Char × List Expression) := [
  ("WITH c AS (SELECT 1) SELECT 1".toList,
    [.node .select [.node .with_ [.node .cte [.node .select [.node .literal []],
      .node .identifier []]], .node .literal []]]),
  ("SELECT * FROM c".toList,
    [.node .select [.node .star [], .node .from_ [.node .table [.node .identifier []]]]]),
  ("DROP TABLE t".toList, [.node .drop [.node .table [.node .identifier []]]])]

/-- A small language, which cuts these texts into tokens and reads them as the standard one
does, and refuses all others. -/
def smallReader : Reader where
  tokens text := smallTokens.lookup text
  statements text := smallStatements.lookup text

end StatementShape.Statement
