import StatementShape.Proofs.Statement.Layout

/-!
# Rooted statements

Whether a statement is a query is decided by a scan of its tokens, before any of its SQL is read.
Here is the grammar that the scan recognises: a query head, or common table expressions and a query
head behind them. A statement of this form is laid out as a query statement, in any language and
inside any number of explanations. A utility statement is therefore none of this form, whichever
expression it is read as.

The scan finds the body of a common table expression by the word in front of its parenthesis. Any
other parentheses enclose names of columns, and are stepped over.

## Main definitions

* `Balanced`, `Group`: tokens whose parentheses match, and tokens in parentheses
* `Table`, `Tables`: common table expressions
* `Rooted`: the statements that begin with a query head or with common table expressions
* `Innermost`: the statement inside all explanations
* `ByRoot`: the layouts of statements that go by their root

## Main results

* `withEndFrom_tables`: the scan stops behind the common table expressions
* `isQuery_of_rooted`: a rooted statement is a query
* `byRoot_of_script`: no utility statement is rooted, and a rooted statement is a query statement
-/

namespace StatementShape.Statement

open Sql (Token TokenKind Reader Expression ExpressionKind)

/-! ### Parentheses -/

/-- Tokens whose parentheses match. -/
inductive Balanced : List Token → Prop
  | nil : Balanced []
  | plain {t : Token} {rest : List Token} (hopen : t.kind ≠ .lParen) (hclose : t.kind ≠ .rParen)
      (hrest : Balanced rest) : Balanced (t :: rest)
  | nested {l r : Token} {inside rest : List Token} (hl : l.kind = .lParen) (hr : r.kind = .rParen)
      (hinside : Balanced inside) (hrest : Balanced rest) : Balanced (l :: inside ++ r :: rest)

/-- Tokens in parentheses, the last of which is `r`. -/
def Group (r : Token) (tokens : List Token) : Prop :=
  ∃ l inside, tokens = l :: inside ++ [r] ∧ l.kind = .lParen ∧ r.kind = .rParen ∧ Balanced inside

section Parentheses

variable {inside rest : List Token} {l r : Token}

theorem closing_plain {t : Token} (hopen : t.kind ≠ .lParen) (hclose : t.kind ≠ .rParen)
    (depth : Nat) (rest : List Token) :
    closing depth (t :: rest) = (closing depth rest).map (· + 1) := by
  rw [closing, if_neg hopen, if_neg hclose]

theorem closing_open (hl : l.kind = .lParen) (depth : Nat) (rest : List Token) :
    closing depth (l :: rest) = (closing (depth + 1) rest).map (· + 1) := by
  rw [closing, if_pos hl]

theorem closing_close (hr : r.kind = .rParen) (depth : Nat) (rest : List Token) :
    closing (depth + 2) (r :: rest) = (closing (depth + 1) rest).map (· + 1) := by
  rw [closing, if_neg (by rw [hr]; decide), if_pos hr, if_neg (by omega)]
  rfl

theorem closing_last (hr : r.kind = .rParen) (rest : List Token) :
    closing 1 (r :: rest) = some 1 := by
  rw [closing, if_neg (by rw [hr]; decide), if_pos hr, if_pos (Nat.le_refl 1)]

/-- Matching parentheses inside open ones are stepped over. -/
theorem closing_balanced (h : Balanced inside) (depth : Nat) (rest : List Token) :
    closing (depth + 1) (inside ++ rest) =
      (closing (depth + 1) rest).map (· + inside.length) := by
  induction h generalizing depth rest with
  | nil => simp
  | plain hopen hclose _ ih =>
    rw [List.cons_append, closing_plain hopen hclose, ih, Option.map_map]
    rfl
  | @nested l r inside more hl hr _ _ ihInside ihMore =>
    rw [List.append_assoc, List.cons_append, List.cons_append, closing_open hl, ihInside,
      closing_close hr, ihMore]
    simp only [Option.map_map, List.length_append, List.length_cons]
    congr 1
    funext n
    simp only [Function.comp_apply]
    omega

/-- The parenthesis that closes a group is its last token. -/
theorem closing_group {group : List Token} (h : Group r group) (rest : List Token) :
    closing 0 (group ++ rest) = some group.length := by
  obtain ⟨l, inside, rfl, hl, hr, hinside⟩ := h
  rw [List.append_assoc, List.cons_append, List.singleton_append, closing_open hl,
    closing_balanced hinside, closing_last hr]
  simp [Nat.add_comm]

end Parentheses

/-! ### Common table expressions -/

/-- A common table expression behind a token: names, and lists of columns in parentheses, up to
the parentheses behind `AS` or `MATERIALIZED`. -/
inductive Table : Token → List Token → Prop
  | word {before t : Token} {rest : List Token} (ht : t.kind ≠ .lParen) (hrest : Table t rest) :
      Table before (t :: rest)
  | columns {before last : Token} {group rest : List Token} (hbefore : opensTable before = false)
      (hgroup : Group last group) (hrest : Table last rest) :
      Table before (group ++ rest)
  | body {before last : Token} {group : List Token} (hbefore : opensTable before = true)
      (hgroup : Group last group) : Table before group

/-- Common table expressions behind a token, with commas between them. -/
inductive Tables : Token → List Token → Prop
  | one {before : Token} {table : List Token} (htable : Table before table) : Tables before table
  | more {before comma : Token} {table rest : List Token} (htable : Table before table)
      (hcomma : comma.kind = .comma) (hrest : Tables comma rest) :
      Tables before (table ++ comma :: rest)

section Tables

variable {before : Token} {tables rest : List Token} {i : Nat}

theorem withEndFrom_word {t : Token} (ht : t.kind ≠ .lParen) :
    withEndFrom before (t :: rest) i = withEndFrom t rest (i + 1) := by
  rw [withEndFrom, if_neg ht]

/-- Behind parentheses that are closed by the last of some tokens, the scan goes on, stops or
fails, as the token in front of them says. -/
theorem withEndFrom_closing {group : List Token} {last : Token}
    (hopen : BeginsWith (· = .lParen) group) (hlast : group.getLast? = some last) :
    closing 0 (group ++ rest) = some group.length → withEndFrom before (group ++ rest) i =
      match rest with
      | [] => if opensTable before then .ok (i + group.length) else .error .withAlone
      | c :: more =>
        if opensTable before then
          if c.kind = .comma then withEndFrom c more (i + group.length + 1)
          else .ok (i + group.length)
        else withEndFrom last (c :: more) (i + group.length) := by
  intro hclosing
  have hdrop : (group ++ rest).drop group.length = rest := List.drop_left
  have htake : (group ++ rest).take group.length = group := List.take_left
  obtain ⟨l, inside, hg, hl⟩ := hopen
  obtain ⟨ts, hts⟩ : ∃ ts, group ++ rest = l :: ts := ⟨inside ++ rest, by rw [hg]; rfl⟩
  rw [hts] at hclosing hdrop htake ⊢
  rw [withEndFrom, if_pos hl]
  split
  · next h => rw [hclosing] at h; cases h
  · next n h =>
    obtain rfl : group.length = n := Option.some.inj (hclosing.symm.trans h)
    split
    · next hr =>
      obtain rfl : rest = [] := hdrop.symm.trans hr
      rfl
    · next c more hr =>
      obtain rfl : rest = c :: more := hdrop.symm.trans hr
      simp only [htake, hlast, Option.getD_some]

/-- Behind a group the scan goes on, stops or fails, as the token in front of it says. -/
theorem withEndFrom_group {group : List Token} {last : Token} (hgroup : Group last group) :
    withEndFrom before (group ++ rest) i =
      match rest with
      | [] => if opensTable before then .ok (i + group.length) else .error .withAlone
      | c :: more =>
        if opensTable before then
          if c.kind = .comma then withEndFrom c more (i + group.length + 1)
          else .ok (i + group.length)
        else withEndFrom last (c :: more) (i + group.length) := by
  have hclosing := closing_group hgroup rest
  obtain ⟨l, inside, rfl, hl, -, -⟩ := hgroup
  have hlast : (l :: inside ++ [last]).getLast? = some last := List.getLast?_concat
  exact withEndFrom_closing ⟨l, inside ++ [last], rfl, hl⟩ hlast hclosing

theorem Table.ne_nil {table : List Token} (h : Table before table) : table ≠ [] := by
  cases h with
  | word => exact List.cons_ne_nil _ _
  | columns _ hgroup | body _ hgroup =>
    obtain ⟨l, inside, rfl, -⟩ := hgroup
    exact List.cons_ne_nil l _

/-- Behind a common table expression a comma leads to the next one, and nothing else does. -/
theorem withEndFrom_table {table : List Token} (h : Table before table) :
    withEndFrom before (table ++ rest) i =
      match rest with
      | [] => .ok (i + table.length)
      | c :: more =>
        if c.kind = .comma then withEndFrom c more (i + table.length + 1)
        else .ok (i + table.length) := by
  induction h generalizing i with
  | word ht _ ih =>
    rw [List.cons_append, withEndFrom_word ht, ih]
    simp only [List.length_cons, Nat.add_assoc, Nat.add_comm 1]
  | @columns before last group table hbefore hgroup hrest ih =>
    -- behind the columns something follows, for a table ends in its body
    obtain ⟨u, us, rfl⟩ := List.exists_cons_of_ne_nil hrest.ne_nil
    rw [List.append_assoc, withEndFrom_group hgroup]
    simp only [List.cons_append, hbefore, Bool.false_eq_true, if_false]
    rw [← List.cons_append, ih]
    simp only [List.length_append, Nat.add_assoc]
  | body hbefore hgroup =>
    rw [withEndFrom_group hgroup]
    simp only [hbefore, if_true]

/-- **The scan stops** behind common table expressions that no comma follows. -/
theorem withEndFrom_tables (h : Tables before tables) (hrest : ¬ BeginsWith (· = .comma) rest) :
    withEndFrom before (tables ++ rest) i = .ok (i + tables.length) := by
  induction h generalizing i with
  | one htable =>
    rw [withEndFrom_table htable]
    cases rest with
    | nil => rfl
    | cons c more => exact if_neg fun hc => hrest ⟨c, more, rfl, hc⟩
  | more htable hcomma _ ih =>
    rw [List.append_assoc, withEndFrom_table htable]
    simp only [List.cons_append, hcomma, if_true, List.length_append, List.length_cons]
    rw [ih]
    congr 1
    omega

end Tables

/-! ### Rooted statements -/

/-- A rooted statement begins with a query head, or with common table expressions and a query
head behind them. -/
inductive Rooted : List Token → Prop
  | head {tokens : List Token} (hhead : BeginsWith (isQueryHead · = true) tokens) : Rooted tokens
  | tables {w : Token} {tables body : List Token} (hw : w.kind = .with_) (htables : Tables w tables)
      (hbody : BeginsWith (isQueryHead · = true) body) : Rooted (w :: tables ++ body)

/-- **A rooted statement is a query.** -/
theorem isQuery_of_rooted {tokens : List Token} (h : Rooted tokens) : isQuery tokens = .ok true := by
  cases h with
  | head hhead =>
    obtain ⟨t, ts, rfl, ht⟩ := hhead
    have hne : t.kind ≠ .with_ := by
      intro hw
      rw [hw] at ht
      cases ht
    simp [isQuery, hne, ht]
  | @tables w tables body hw htables hbody =>
    obtain ⟨u, us, rfl, hu⟩ := hbody
    -- a query head is no comma, so the scan stops in front of it
    have hcomma : ¬ BeginsWith (· = .comma) (u :: us) := by
      rintro ⟨v, vs, heq, hv⟩
      cases heq
      rw [hv] at hu
      cases hu
    have hend : withEnd (w :: tables ++ u :: us) = .ok (1 + tables.length) :=
      withEndFrom_tables htables hcomma
    rw [List.cons_append] at hend ⊢
    simp [isQuery, hw, hend, Except.map, Nat.add_comm 1, hu]

/-! ### Inside explanations -/

/-- The statement inside all explanations of a statement: its text and its tokens. -/
inductive Innermost (r : Reader) : List Char → List Token → List Char → List Token → Prop
  | here {text : List Char} {tokens : List Token} (head : ¬ Explains tokens) :
      Innermost r text tokens text tokens
  | inside {text rest inner : List Char} {t : Token} {ts body core : List Token} {n : Nat}
      (head : wordOf t = some "EXPLAIN")
      (cut : behindOptions r ((text.take (extent (t :: ts)).2).drop t.stop) = .ok (n, rest, body))
      (deeper : Innermost r rest body inner core) : Innermost r text (t :: ts) inner core

/-- The tree inside all explanations. -/
def innermostTree : Tree → Tree
  | .node .explainStatement _ _ _ [explained] => innermostTree explained
  | t => t

/-! ### Utility statements of a tree -/

section Nodes

variable {r : Reader} {text : List Char} {p q : Production} {t : Tree}

theorem innermostTree_shift (n : Nat) :
    ∀ t : Tree, innermostTree (t.shift n) = (innermostTree t).shift n
  | .node q _ _ _ [] => by cases q <;> rfl
  | .node q _ _ _ [t] => by
    have ih := innermostTree_shift n t
    cases q <;> simp only [Tree.shift, Tree.shiftAll, innermostTree, ih]
  | .node q _ _ _ (t :: u :: ts) => by cases q <;> rfl

theorem nodesOf_leafOver {wanted : ExpressionKind → Bool} {run : List Token}
    (h : LeafOver r text q wanted run t) (hp : q ≠ p) : t.nodesOf p = [] := by
  obtain ⟨e, -, rfl⟩ := h
  simp [nodeOver, Tree.nodesOf, Tree.nodesIn, hp]

theorem nodesIn_behind {runs : List (List Token)} {parts : List Tree}
    (h : Behind r text runs parts) : Tree.nodesIn .utilityStatement parts = [] := by
  cases h with
  | nothing => rfl
  | rest _ read =>
    rw [Tree.nodesIn, nodesOf_leafOver read (by decide)]
    rfl
  | branches some heads read =>
    clear some heads
    induction read with
    | nil => rfl
    | cons leaf _ ih => rw [Tree.nodesIn, nodesOf_leafOver leaf (by decide), ih, List.nil_append]

/-- The main part of a query statement holds no utility statement. -/
theorem nodesOf_main {whole body : List Token} (h : Main r text whole body t) :
    t.nodesOf .utilityStatement = [] := by
  cases h with
  | from_ read =>
    obtain ⟨head, read, behind⟩ := read
    simp [nodeOver, Tree.nodesOf, Tree.nodesIn, nodesIn_behind behind]
  | insert => simp [nodeOver, Tree.nodesOf, Tree.nodesIn]
  | select => simp [nodeOver, Tree.nodesOf, Tree.nodesIn]

end Nodes

/-! ### Layouts by root -/

/-- A statement is laid out by its root: a rooted one as a query statement, and a utility
statement covers one that is not rooted, and carries what its text is read as. -/
def ByRoot (r : Reader) (text : List Char) (tokens : List Token) (t : Tree) : Prop :=
  ∃ inner core, Innermost r text tokens inner core ∧
    (Rooted core → (innermostTree t).production = .queryStatement) ∧
    ∀ n ∈ t.nodesOf .utilityStatement, ¬ Rooted core ∧ n.text = textOf inner core ∧
      ∃ e, n.expression = some e ∧ r.statements n.text = some [e]

section Layouts

variable {r : Reader} {text : List Char} {tokens : List Token} {t : Tree}

theorem byRoot_of_layout (h : Layout r text tokens t) : ByRoot r text tokens t := by
  induction h with
  | @utility text tokens t some head root read =>
    -- the root was looked at before, and no query was found
    have hrooted : ¬ Rooted tokens := by
      intro h
      rw [isQuery_of_rooted h] at root
      cases root
    obtain ⟨e, he, rfl⟩ := read
    refine ⟨text, tokens, Innermost.here head, fun h => absurd h hrooted, ?_⟩
    intro n hn
    obtain rfl : n = nodeOver .utilityStatement text tokens (.some e) [] := by
      simpa [nodeOver, Tree.nodesOf, Tree.nodesIn] using hn
    exact ⟨hrooted, rfl, e, rfl, (fragment_eq_ok.mp he).1⟩
  | @query text front body clauses main head root readFront readMain =>
    refine ⟨text, front ++ body, Innermost.here head, fun _ => rfl, ?_⟩
    intro n hn
    have hmain := nodesOf_main readMain
    cases readFront <;> simp [nodeOver, Tree.nodesOf, Tree.nodesIn, hmain] at hn
  | explain head cut some explained ih =>
    obtain ⟨inner, core, hinner, hquery, hutility⟩ := ih
    refine ⟨inner, core, Innermost.inside head cut hinner, ?_, ?_⟩
    · intro h
      rw [nodeOver, innermostTree, innermostTree_shift, Tree.production_shift]
      exact hquery h
    · intro n hn
      obtain ⟨m, hm, rfl⟩ : ∃ m ∈ Tree.nodesOf .utilityStatement _, m.shift _ = n := by
        simpa [nodeOver, Tree.nodesOf, Tree.nodesIn, Tree.nodesOf_shift] using hn
      rw [Tree.text_shift, Tree.expression_shift]
      exact hutility m hm

/-- **No utility statement is rooted**, inside any number of explanations, and a rooted statement is
laid out as a query statement. -/
theorem byRoot_of_script {tree : Tree} (h : script r text = .ok tree) :
    ∃ tokens, r.tokens text = some tokens ∧
      List.Forall₂ (ByRoot r text) (statements tokens) tree.children := by
  obtain ⟨tokens, parts, htokens, -, layouts, rfl⟩ := layouts_of_script h
  exact ⟨tokens, htokens, layouts.imp fun _ _ => byRoot_of_layout⟩

/-- The common table expression of the small explanation. -/
def smallTable : List Token :=
  [inLine .var "c" 6 7, inLine .as_ "AS" 8 10, inLine .lParen "(" 11 12, inLine .select "SELECT" 12 18,
    inLine .number "1" 19 20, inLine .rParen ")" 20 21]

theorem table_smallTable (before : Token) : Table before smallTable := by
  have hgroup : Group (inLine .rParen ")" 20 21) (smallTable.drop 2) :=
    ⟨inLine .lParen "(" 11 12, [inLine .select "SELECT" 12 18, inLine .number "1" 19 20], rfl, rfl,
      rfl, .plain (by decide) (by decide) (.plain (by decide) (by decide) .nil)⟩
  exact .word (by decide) (.word (by decide) (.body (by decide) hgroup))

/-- What the small explanation explains is rooted: it begins with a common table expression. -/
theorem exists_rooted_explained :
    ∃ tokens, smallReader.tokens " WITH c AS (SELECT 1) FROM c".toList = some tokens ∧
      Rooted tokens :=
  ⟨inLine .with_ "WITH" 1 5 :: smallTable ++ [inLine .from_ "FROM" 22 26, inLine .var "c" 27 28],
    rfl, .tables rfl (.one (table_smallTable _)) ⟨_, _, rfl, rfl⟩⟩

/-- A removal of a table is laid out as a utility statement, since it is not rooted. What the small
explanation explains is rooted in a common table expression, and laid out as a query statement. -/
theorem byRoot_of_drop :
    (∃ tree, script smallReader "DROP TABLE t".toList = .ok tree ∧
      tree.nodesOf .utilityStatement ≠ [] ∧
      ∃ tokens, smallReader.tokens "DROP TABLE t".toList = some tokens ∧
        List.Forall₂ (ByRoot smallReader "DROP TABLE t".toList) (statements tokens)
          tree.children) ∧
    (∃ tokens, smallReader.tokens " WITH c AS (SELECT 1) FROM c".toList = some tokens ∧
      Rooted tokens) ∧
    ∃ tree, script smallReader "EXPLAIN WITH c AS (SELECT 1) FROM c".toList = .ok tree ∧
      tree.children.map (fun t => (innermostTree t).production) = [.queryStatement] ∧
      ∃ tokens, smallReader.tokens "EXPLAIN WITH c AS (SELECT 1) FROM c".toList = some tokens ∧
        List.Forall₂ (ByRoot smallReader "EXPLAIN WITH c AS (SELECT 1) FROM c".toList)
          (statements tokens) tree.children := by
  refine ⟨?_, exists_rooted_explained, ?_⟩
  · obtain ⟨tree, h, hutility⟩ := exists_of_toOption_any
      (x := script smallReader "DROP TABLE t".toList)
      (p := fun tree => !(tree.nodesOf .utilityStatement).isEmpty) (by decide +kernel)
    exact ⟨tree, h, by simpa using hutility, byRoot_of_script h⟩
  · obtain ⟨tree, h, hquery⟩ := exists_of_toOption_any
      (x := script smallReader "EXPLAIN WITH c AS (SELECT 1) FROM c".toList)
      (p := fun tree => tree.children.map (fun t => (innermostTree t).production) ==
        [.queryStatement]) (by decide +kernel)
    exact ⟨tree, h, by simpa using hquery, byRoot_of_script h⟩

set_option maxRecDepth 100000 in
/-- **What a utility statement is read as** may be a query, where its first word is not the head of
one: rows of values that are put together with a selection. -/
theorem exists_query_in_utility_statement :
    ¬ ∀ (d : Sql.Dialect) (text : List Char) (tree : Tree), script d.reader text = .ok tree →
      ∀ n ∈ tree.nodesOf .utilityStatement, ∀ e, n.expression = some e →
        e.kind.isQuery = false ∧ e.kind ≠ .insert := by
  intro hall
  obtain ⟨tree, h, hquery⟩ := exists_of_toOption_any
    (x := script Sql.Dialect.standard.reader "VALUES (1) UNION SELECT 2".toList)
    (p := fun tree => (tree.nodesOf .utilityStatement).any fun n =>
      n.expression.any fun e => e.kind.isQuery) (by decide +kernel)
  obtain ⟨n, hn, hquery⟩ := List.any_eq_true.mp hquery
  obtain ⟨e, he, hquery⟩ := (Option.any_eq_true _ _).mp hquery
  have hnot := (hall _ _ tree h n hn e he).1
  rw [hquery] at hnot
  cases hnot

end Layouts

end StatementShape.Statement
