import StatementShape.Proofs.Statement.Access
import StatementShape.Proofs.Statement.Heads
import StatementShape.Proofs.Statement.Placement

/-!
# Statements in a stretch of a text

A statement is laid out where it stands, from tokens with offsets in the whole text. What an
explanation explains is cut into tokens from the stretch behind the explaining words, and may be
laid out where it stands as well. Either way the same comes about as if the stretch were a text of
its own: the same error, or the same tree with every offset moved by the start of the stretch. So
nothing around a statement makes a difference to its tree.

Of the language only one thing is used, that the tokens of a text stop inside it.

## Main definitions

* `Token.shift`: a token behind some more text
* `stretch`, `Inside`: a stretch of a text, and tokens that stop inside a text
* `InPlace.statement`: the layout of a statement where it stands, explanations included

## Main results

* `InPlace.statement_map_shift`: in place, a statement in a stretch is laid out as in the text of the
  stretch
* `InPlace.statement_eq`: in place, and in a text of its own, what is explained is laid out the same
* `statement_of_slice`: a stretch is laid out in place as it is by itself
-/

namespace StatementShape

/-- A token behind `n` more characters of text. Its line and column stay as they are. -/
def Sql.Token.shift (n : Nat) (t : Sql.Token) : Sql.Token :=
  { t with start := n + t.start, stop := n + t.stop }

namespace Statement

open Sql (Token TokenKind Reader Expression ExpressionKind)
open Text (Span)

/-! ### Trees and tokens behind more text -/

namespace Tree

mutual

/-- Text is put in front once or twice. -/
theorem shift_shift (m n : Nat) : ∀ t : Tree, (t.shift m).shift n = t.shift (n + m)
  | .node _ s _ _ cs => by
    have hspan : (s.shift m).shift n = s.shift (n + m) := by
      simp only [Span.shift, Span.mk.injEq]
      omega
    simp only [shift, shiftAll_shiftAll m n cs, hspan]

theorem shiftAll_shiftAll (m n : Nat) :
    ∀ ts : List Tree, shiftAll n (shiftAll m ts) = shiftAll (n + m) ts
  | [] => rfl
  | t :: ts => by simp only [shiftAll, shift_shift m n t, shiftAll_shiftAll m n ts]

end

mutual

theorem shift_zero : ∀ t : Tree, t.shift 0 = t
  | .node _ s _ _ cs => by
    have hspan : s.shift 0 = s := by simp [Span.shift]
    simp only [shift, shiftAll_zero cs, hspan]

theorem shiftAll_zero : ∀ ts : List Tree, shiftAll 0 ts = ts
  | [] => rfl
  | t :: ts => by simp only [shiftAll, shift_zero t, shiftAll_zero ts]

end

end Tree

section Tokens

variable {t : Token} {tokens : List Token} (n : Nat)

@[simp] theorem kind_shift : (t.shift n).kind = t.kind := rfl

@[simp] theorem start_shift : (t.shift n).start = n + t.start := rfl

@[simp] theorem stop_shift : (t.shift n).stop = n + t.stop := rfl

@[simp] theorem line_shift : (t.shift n).line = t.line := rfl

@[simp] theorem column_shift : (t.shift n).column = t.column := rfl

@[simp] theorem wordOf_shift : wordOf (t.shift n) = wordOf t := rfl

@[simp] theorem isExplainOption_shift : isExplainOption (t.shift n) = isExplainOption t := rfl

@[simp] theorem opensTable_shift : opensTable (t.shift n) = opensTable t := rfl

theorem map_shift_zero (tokens : List Token) : tokens.map (·.shift 0) = tokens := by
  have hzero : (fun t : Token => t.shift 0) = id := by
    funext t
    simp [Sql.Token.shift]
  rw [hzero, List.map_id]

theorem extent_map_shift (some : tokens ≠ []) :
    extent (tokens.map (·.shift n)) = (n + (extent tokens).1, n + (extent tokens).2) := by
  obtain ⟨t, ht⟩ := Option.isSome_iff_exists.mp (List.isSome_head?.mpr some)
  obtain ⟨u, hu⟩ := Option.isSome_iff_exists.mp (List.getLast?_isSome.mpr some)
  simp only [extent, List.head?_map, List.getLast?_map, ht, hu, Option.map_some, Option.getD_some,
    start_shift, stop_shift]

/-! ### Scans go by kinds and words -/

theorem head?_any_map_shift (k : TokenKind) (tokens : List Token) :
    (tokens.map (·.shift n)).head?.any (·.kind = k) = tokens.head?.any (·.kind = k) := by
  cases tokens <;> rfl

theorem closing_map_shift (depth : Nat) (tokens : List Token) :
    closing depth (tokens.map (·.shift n)) = closing depth tokens := by
  induction tokens generalizing depth with
  | nil => rfl
  | cons t ts ih => simp only [List.map_cons, closing, kind_shift, ih]

theorem topLevelFrom_map_shift (wanted : TokenKind → Bool) (tokens : List Token) (depth : Int)
    (i : Nat) :
    topLevelFrom wanted (tokens.map (·.shift n)) depth i = topLevelFrom wanted tokens depth i := by
  induction tokens generalizing depth i with
  | nil => rfl
  | cons t ts ih => simp only [List.map_cons, topLevelFrom, kind_shift, ih]

theorem heads_map_shift (tokens : List Token) : heads (tokens.map (·.shift n)) = heads tokens :=
  topLevelFrom_map_shift n isHead tokens 0 0

theorem sourceLength_map_shift (tokens : List Token) :
    sourceLength (tokens.map (·.shift n)) = sourceLength tokens := by
  rw [sourceLength, sourceLength, heads_map_shift, List.length_map]

theorem insertions_map_shift (tokens : List Token) :
    insertions (tokens.map (·.shift n)) = insertions tokens := by
  simp only [insertions, heads_map_shift, List.getElem?_map, Option.any_map, kind_shift]
  rfl

/-- A parenthesis that is closed ends a common table expression, or columns of one. -/
theorem withEndFrom_closed {before t : Token} {ts : List Token} {i k : Nat}
    (ht : t.kind = .lParen) (hclose : closing 0 (t :: ts) = some k) :
    withEndFrom before (t :: ts) i =
      match (t :: ts).drop k with
      | [] => if opensTable before then .ok (i + k) else .error .withAlone
      | c :: rest =>
        if opensTable before then
          if c.kind = .comma then withEndFrom c rest (i + k + 1) else .ok (i + k)
        else withEndFrom (((t :: ts).take k).getLast?.getD t) (c :: rest) (i + k) := by
  rw [withEndFrom, if_pos ht]
  split
  · next h => rw [h] at hclose; cases hclose
  · next m h =>
    obtain rfl : m = k := Option.some.inj (h.symm.trans hclose)
    split <;> next hr => simp only [hr]

theorem withEndFrom_unclosed {before t : Token} {ts : List Token} {i : Nat}
    (ht : t.kind = .lParen) (hclose : closing 0 (t :: ts) = none) :
    withEndFrom before (t :: ts) i = .error (.unclosed t.line t.column) := by
  rw [withEndFrom, if_pos ht]
  split
  · rfl
  · next m h => rw [h] at hclose; cases hclose

theorem withEndFrom_map_shift (before : Token) (tokens : List Token) (i : Nat) :
    withEndFrom (before.shift n) (tokens.map (·.shift n)) i = withEndFrom before tokens i := by
  induction hlen : tokens.length using Nat.strongRecOn generalizing before tokens i with
  | ind len ih =>
  cases tokens with
  | nil => rw [List.map_nil, withEndFrom, withEndFrom]
  | cons t ts =>
    rw [List.length_cons] at hlen
    by_cases ht : t.kind = .lParen
    · have hmoved := closing_map_shift n 0 (t :: ts)
      rw [List.map_cons] at hmoved ⊢
      cases hclose : closing 0 (t :: ts) with
      | none =>
        rw [withEndFrom_unclosed ht hclose, withEndFrom_unclosed (t := t.shift n) ht
          (hmoved.trans hclose)]
        rfl
      | some k =>
        have hpos := (closing_pos hclose).1
        rw [withEndFrom_closed ht hclose, withEndFrom_closed (t := t.shift n) ht
          (hmoved.trans hclose), ← List.map_cons, ← List.map_drop, ← List.map_take,
          List.getLast?_map, Option.getD_map]
        -- behind the parenthesis fewer tokens are left, with the last one stepped over before them
        cases hdrop : (t :: ts).drop k with
        | nil => rfl
        | cons c rest =>
          have hshort := congrArg List.length hdrop
          simp only [List.length_drop, List.length_cons] at hshort
          have htable := ih rest.length (by omega) c rest (i + k + 1) rfl
          have hcolumns := ih (c :: rest).length (by rw [List.length_cons]; omega)
            (((t :: ts).take k).getLast?.getD t) (c :: rest) (i + k) rfl
          rw [List.map_cons] at hcolumns
          simp only [List.map_cons, opensTable_shift, kind_shift, htable, hcolumns]
    · have hmoved : (t.shift n).kind ≠ .lParen := ht
      rw [List.map_cons, withEndFrom, if_neg hmoved, withEndFrom, if_neg ht]
      exact ih ts.length (by omega) t ts (i + 1) rfl

theorem withEnd_map_shift (tokens : List Token) :
    withEnd (tokens.map (·.shift n)) = withEnd tokens := by
  cases tokens with
  | nil => rfl
  | cons t ts => exact withEndFrom_map_shift n t ts 1

theorem isQuery_map_shift (tokens : List Token) :
    isQuery (tokens.map (·.shift n)) = isQuery tokens := by
  cases tokens with
  | nil => rfl
  | cons t ts =>
    simp only [isQuery, withEnd_map_shift, List.head?_map, List.head?_cons, Option.map_some,
      kind_shift, List.getElem?_map, Option.any_map]

end Tokens

/-! ### Stretches -/

/-- The stretch of a text from one offset up to another. -/
def stretch (text : List Char) (start stop : Nat) : List Char := (text.take stop).drop start

/-- Tokens inside a text: they stop behind its start, and not behind its end. -/
def Inside (text : List Char) (tokens : List Token) : Prop :=
  ∀ t ∈ tokens, 0 < t.stop ∧ t.stop ≤ text.length

section Stretches

variable {text : List Char} {a b p q : Nat} {run tokens : List Token}

theorem Inside.of_sublist (h : Inside text tokens) (hrun : run.Sublist tokens) :
    Inside text run :=
  fun t ht => h t (hrun.subset ht)

theorem stretch_length : stretch text 0 text.length = text := by
  rw [stretch, List.take_length, List.drop_zero]

theorem length_stretch : (stretch text start stop).length = min stop text.length - start := by
  rw [stretch, List.length_drop, List.length_take]

/-- Tokens of a stretch stop inside the text as well. -/
theorem Inside.map_shift (h : Inside (stretch text a b) tokens) :
    Inside text (tokens.map (·.shift a)) := by
  intro u hu
  obtain ⟨t, ht, rfl⟩ := List.mem_map.mp hu
  obtain ⟨hpos, hle⟩ := h t ht
  rw [length_stretch] at hle
  rw [stop_shift]
  omega

/-- Tokens inside a text stop inside it all together. -/
theorem Inside.extent (h : Inside text tokens) (some : tokens ≠ []) :
    0 < (extent tokens).2 ∧ (extent tokens).2 ≤ text.length := by
  obtain ⟨u, hu⟩ := Option.isSome_iff_exists.mp (List.getLast?_isSome.mpr some)
  simpa [Statement.extent, hu] using h u (List.mem_of_getLast? hu)

/-- A stretch of a stretch is one of the text. -/
theorem stretch_stretch (hpos : 0 < q) (hq : q ≤ (stretch text a b).length) :
    stretch (stretch text a b) p q = stretch text (a + p) (a + q) := by
  simp only [stretch, List.length_drop, List.length_take] at hq ⊢
  rw [List.take_drop, List.take_take, List.drop_drop, Nat.min_eq_left (by omega)]

/-- The text of tokens from a stretch is the same in the whole text. -/
theorem textOf_map_shift (h : Inside (stretch text a b) tokens) :
    textOf text (tokens.map (·.shift a)) = textOf (stretch text a b) tokens := by
  cases tokens with
  | nil => simp [textOf, extent]
  | cons t ts =>
    have some := List.cons_ne_nil t ts
    obtain ⟨hpos, hle⟩ := h.extent some
    rw [textOf, extent_map_shift a some]
    exact (stretch_stretch hpos hle).symm

theorem nodeOver_map_shift (h : Inside (stretch text a b) tokens) (some : tokens ≠ [])
    (p : Production) (e : Option Expression) (children : List Tree) :
    nodeOver p text (tokens.map (·.shift a)) e (children.map (·.shift a)) =
      (nodeOver p (stretch text a b) tokens e children).shift a := by
  have hspan : (Span.mk (extent (tokens.map (·.shift a))).1 (extent (tokens.map (·.shift a))).2) =
      (Span.mk (extent tokens).1 (extent tokens).2).shift a := by
    rw [extent_map_shift a some, Span.shift, Span.mk.injEq]
    dsimp only
    omega
  simp only [nodeOver, textOf_map_shift h, hspan, Tree.shift, Tree.shiftAll_eq_map]

end Stretches

/-! ### Parts of statements -/

section Parts

variable {r : Reader} {text : List Char} {a b : Nat} {tokens : List Token}

theorem leaf_map_shift (h : Inside (stretch text a b) tokens) (some : tokens ≠ [])
    (p : Production) (wanted : ExpressionKind → Bool) :
    leaf r p wanted text (tokens.map (·.shift a)) =
      (leaf r p wanted (stretch text a b) tokens).map (·.shift a) := by
  rw [leaf, leaf, textOf_map_shift h, map_bind]
  congr 1
  funext e
  exact congrArg Except.ok (nodeOver_map_shift h some p (.some e) [])

theorem withClause_map_shift (h : Inside (stretch text a b) tokens) (some : tokens ≠ []) :
    withClause r text (tokens.map (·.shift a)) =
      (withClause r (stretch text a b) tokens).map (·.shift a) := by
  rw [withClause, withClause, textOf_map_shift h, map_bind]
  congr 1
  funext e
  exact congrArg Except.ok (nodeOver_map_shift h some .withClause (e.find? .with_) [])

/-- Insertions reach from each place to the next, wherever their tokens stand. -/
theorem branches_map_shift (h : Inside (stretch text a b) tokens) {places : List Nat}
    (hasc : places.Pairwise (· < ·)) (hin : ∀ i ∈ places, i < tokens.length) :
    branches r text (tokens.map (·.shift a)) places =
      (branches r (stretch text a b) tokens places).map (List.map (·.shift a)) := by
  induction places with
  | nil => rfl
  | cons i more ih =>
    have hmore := ih (List.pairwise_cons.mp hasc).2 fun j hj => hin j (List.mem_cons_of_mem i hj)
    have hrun : Inside (stretch text a b)
        ((tokens.take (more.head?.getD tokens.length)).drop i) :=
      h.of_sublist ((List.drop_sublist _ _).trans (List.take_sublist _ _))
    have some := run_ne_nil hasc (hin i List.mem_cons_self)
    rw [branches, branches, List.length_map, ← List.map_take, ← List.map_drop,
      leaf_map_shift hrun some, hmore, map_bind, bind_map]
    congr 1
    funext branch
    rw [map_bind, bind_map]
    rfl

/-- What stands behind a source is laid out in place. -/
theorem behindSource_map_shift (h : Inside (stretch text a b) tokens) :
    behindSource r text (tokens.map (·.shift a)) =
      (behindSource r (stretch text a b) tokens).map (List.map (·.shift a)) := by
  have hrest := h.of_sublist (tokens.drop_sublist (sourceLength tokens))
  simp only [behindSource, sourceLength_map_shift, insertions_map_shift, ← List.map_drop,
    head?_any_map_shift]
  split
  · next hselect =>
    split
    · rw [leaf_map_shift hrest (beginsWith_iff_head?.mpr hselect).ne_nil, map_map, map_map]
      rfl
    · rw [textOf_map_shift h]
      rfl
  · exact branches_map_shift h pairwise_insertions fun i => lt_of_mem_insertions

/-- A statement that begins with its source is laid out in place. -/
theorem fromStatement_map_shift (h : Inside (stretch text a b) tokens)
    (hfrom : BeginsWith (· = .from_) tokens) :
    fromStatement r text (tokens.map (·.shift a)) =
      (fromStatement r (stretch text a b) tokens).map (·.shift a) := by
  have some := hfrom.ne_nil
  have hsource := h.of_sublist (tokens.take_sublist (sourceLength tokens))
  have hsome := source_ne_nil hfrom
  rw [fromStatement_eq, fromStatement_eq]
  simp only [sourceLength_map_shift, ← List.map_take, textOf_map_shift h,
    textOf_map_shift hsource, behindSource_map_shift h]
  split
  · rfl
  · rw [map_bind]
    congr 1
    funext e
    rw [map_bind, bind_map]
    congr 1
    funext behind
    have hclause := nodeOver_map_shift hsource hsome .fromClause (e.find? .from_) []
    have hwhole := nodeOver_map_shift h some .fromStatement none
      (nodeOver .fromClause (stretch text a b) (tokens.take (sourceLength tokens))
        (e.find? .from_) [] :: behind)
    rw [List.map_cons, ← hclause] at hwhole
    exact congrArg Except.ok hwhole

/-- The main part of a query statement is laid out in place. -/
theorem mainPart_map_shift {body : List Token} (h : Inside (stretch text a b) tokens)
    (hbody : body.Sublist tokens) (some : body ≠ []) :
    mainPart r text (tokens.map (·.shift a)) (body.map (·.shift a)) =
      (mainPart r (stretch text a b) tokens body).map (·.shift a) := by
  have hinside := h.of_sublist hbody
  simp only [mainPart, head?_any_map_shift, textOf_map_shift h]
  split
  · next hfrom => exact fromStatement_map_shift hinside (beginsWith_iff_head?.mpr hfrom)
  · split
    · rw [map_bind]
      congr 1
      funext e
      exact congrArg Except.ok (nodeOver_map_shift hinside some .insertStatement (.some e) [])
    · rw [map_bind]
      congr 1
      funext e
      exact congrArg Except.ok (nodeOver_map_shift hinside some .selectQueryStatement (.some e) [])

/-- A query statement is laid out in place. -/
theorem queryStatement_map_shift (h : Inside (stretch text a b) tokens)
    (hquery : isQuery tokens = .ok true) :
    queryStatement r text (tokens.map (·.shift a)) =
      (queryStatement r (stretch text a b) tokens).map (·.shift a) := by
  have some : tokens ≠ [] := by
    rintro rfl
    cases hquery
  simp only [queryStatement, head?_any_map_shift, withEnd_map_shift]
  split
  · next hwith =>
    cases hcut : withEnd tokens with
    | error e => rfl
    | ok cut =>
      obtain ⟨hfront, hhead⟩ :=
        beginsWith_of_isQuery hquery (beginsWith_iff_head?.mpr hwith) hcut
      rw [ok_bind, ok_bind, ← List.map_take, ← List.map_drop,
        withClause_map_shift (h.of_sublist (tokens.take_sublist cut)) hfront,
        mainPart_map_shift h (tokens.drop_sublist cut) hhead.ne_nil, map_bind, bind_map]
      congr 1
      funext clause
      rw [map_bind, bind_map]
      congr 1
      funext main
      exact congrArg Except.ok (nodeOver_map_shift h some .queryStatement none [clause, main])
  · rw [mainPart_map_shift h (List.Sublist.refl tokens) some, map_bind, bind_map]
    congr 1
    funext main
    exact congrArg Except.ok (nodeOver_map_shift h some .queryStatement none [main])

end Parts

/-! ### Layouts in place -/

namespace InPlace

/-- The tokens of a stretch of a text, with offsets in the whole text. -/
def tokensOf (r : Reader) (text : List Char) (start stop : Nat) :
    Except SyntaxError (List Token) :=
  match r.tokens (stretch text start stop) with
  | none => .error (.unreadable (stretch text start stop))
  | some tokens => .ok (tokens.map (·.shift start))

/-- The tokens behind the option words that stand in a text between two offsets. -/
def behindOptions (r : Reader) (text : List Char) (stop start : Nat) :
    Except SyntaxError (List Token) :=
  match tokensOf r text start stop with
  | .error e => .error e
  | .ok [] => .ok []
  | .ok (t :: ts) =>
    if isExplainOption t then
      if start < t.stop ∧ t.stop ≤ stop then behindOptions r text stop t.stop
      else .error (.unreadable (stretch text start stop))
    else .ok (t :: ts)
termination_by stop - start

/-- The tree of one statement, given by its tokens in a text, where it stands. What it explains is
laid out where it stands as well. -/
def statement (r : Reader) (text : List Char) (tokens : List Token) : Except SyntaxError Tree :=
  match tokens with
  | [] => .error (.unreadable [])
  | t :: ts =>
    if wordOf t = some "EXPLAIN" then
      match behindOptions r text (extent (t :: ts)).2 t.stop with
      | .error e => .error e
      | .ok [] => .error (.nothingExplained (textOf text (t :: ts)))
      | .ok (u :: us) =>
        if t.stop < u.stop ∧ u.stop ≤ text.length then
          (statement r text (u :: us)).map fun inner =>
            nodeOver .explainStatement text (t :: ts) none [inner]
        else .error (.unreadable text)
    else
      (isQuery (t :: ts)).bind fun query =>
        if query then queryStatement r text (t :: ts)
        else leaf r .utilityStatement (fun _ => true) text (t :: ts)
termination_by text.length - (tokens.head?.map (·.stop)).getD 0

section InPlace

variable {r : Reader} {text : List Char} {a b start stop : Nat} {tokens : List Token}

/-- Behind option words the same tokens stand in place as in the text of the stretch. -/
theorem behindOptions_eq (hr : r.StopsInside) :
    behindOptions r text stop start =
      (Statement.behindOptions r (stretch text start stop)).map fun x =>
        x.2.2.map (·.shift (start + x.1)) := by
  generalize hs : stretch text start stop = s
  fun_induction Statement.behindOptions r s generalizing start with
  | case1 s htokens =>
    rw [behindOptions, tokensOf, hs, htokens]
    rfl
  | case2 s htokens =>
    rw [behindOptions, tokensOf, hs, htokens]
    rfl
  | case3 s t ts htokens hoption hpos shorter ih =>
    obtain ⟨hstop, hle⟩ := hr s _ htokens t List.mem_cons_self
    rw [← hs, length_stretch] at hle
    have hrest : stretch text (start + t.stop) stop = s.drop t.stop := by
      rw [← hs, stretch, stretch, List.drop_drop]
    have hguard : start < (t.shift start).stop ∧ (t.shift start).stop ≤ stop := by
      rw [stop_shift]
      omega
    rw [behindOptions, tokensOf, hs, htokens]
    simp only [List.map_cons, isExplainOption_shift, hoption, if_true, if_pos hguard]
    rw [stop_shift, ih hrest, map_map]
    simp only [Nat.add_assoc]
  | case4 s t ts htokens hoption hpos =>
    exact absurd (Careful.inside_of_stopsInside hr htokens) hpos
  | case5 s t ts htokens hoption =>
    rw [behindOptions, tokensOf, hs, htokens]
    simp only [List.map_cons, isExplainOption_shift, hoption]
    rfl

/-- What is explained in a stretch stands in a stretch of the text. -/
theorem explained_eq_stretch {u : Token} {us body : List Token} {n : Nat} {rest : List Char}
    (h : Inside (stretch text a b) (u :: us))
    (hb : Statement.behindOptions r
      (((stretch text a b).take (extent (u :: us)).2).drop u.stop) = .ok (n, rest, body)) :
    stretch text (a + u.stop + n) (a + (extent (u :: us)).2) = rest ∧ r.tokens rest = some body := by
  obtain ⟨hpos, hle⟩ := h.extent (List.cons_ne_nil u us)
  obtain ⟨rfl, htokens⟩ := behindOptions_eq_ok hb
  refine ⟨?_, htokens⟩
  rw [Nat.add_assoc, ← stretch_stretch hpos hle, stretch, List.drop_drop]

/-- An explanation in a stretch has the same options and the same body in place as in the text of
the stretch. -/
theorem statement_of_explains (hr : r.StopsInside) {u : Token} {us : List Token}
    (hu : wordOf u = some "EXPLAIN") (h : Inside (stretch text a b) (u :: us)) :
    statement r text ((u :: us).map (·.shift a)) =
      match Statement.behindOptions r
        (((stretch text a b).take (extent (u :: us)).2).drop u.stop) with
      | .error e => .error e
      | .ok (_, _, []) => .error (.nothingExplained (textOf (stretch text a b) (u :: us)))
      | .ok (n, _, v :: vs) =>
        (statement r text ((v :: vs).map (·.shift (a + u.stop + n)))).map fun inner =>
          nodeOver .explainStatement text ((u :: us).map (·.shift a)) none [inner] := by
  obtain ⟨hpos, hle⟩ := h.extent (List.cons_ne_nil u us)
  have hstop := congrArg Prod.snd (extent_map_shift a (List.cons_ne_nil u us))
  have hbehind : behindOptions r text (a + (extent (u :: us)).2) (a + u.stop) = _ :=
    behindOptions_eq hr
  rw [← stretch_stretch hpos hle, stretch] at hbehind
  rw [← textOf_map_shift h]
  rw [List.map_cons] at hstop ⊢
  rw [statement, if_pos (by rwa [wordOf_shift]), hstop, stop_shift, hbehind]
  cases hb : Statement.behindOptions r
    (((stretch text a b).take (extent (u :: us)).2).drop u.stop) with
  | error e => rfl
  | ok x =>
    obtain ⟨n, rest, _ | ⟨v, vs⟩⟩ := x
    · rfl
    · -- what is explained lies behind the word that explains it, and inside the text
      obtain ⟨hrest, htokens⟩ := explained_eq_stretch h hb
      have hinside := hr rest _ htokens
      rw [← hrest] at hinside
      obtain ⟨hlater, -⟩ := hinside v List.mem_cons_self
      have hwithin := (Inside.map_shift hinside (v.shift (a + u.stop + n)) (by simp)).2
      have hbehind : a + u.stop < a + u.stop + n + v.stop := by omega
      exact if_pos ⟨hbehind, hwithin⟩

/-- **A statement in a stretch** is laid out in place as in the text of the stretch. -/
theorem statement_map_shift (hr : r.StopsInside) (some : tokens ≠ [])
    (h : Inside (stretch text a b) tokens) :
    statement r text (tokens.map (·.shift a)) =
      (Statement.statement r (stretch text a b) tokens).map (·.shift a) := by
  -- what is explained stands in a stretch of its own, so the offsets change with every step
  generalize hs : stretch text a b = s at h ⊢
  fun_induction Statement.statement r s tokens generalizing a b with
  | case1 => exact absurd rfl some
  | case2 s u us hu start stop hextent body e =>
    rename_i hb
    subst hs
    rw [statement_of_explains hr hu h, hextent, hb]
    rfl
  | case3 s u us hu start stop hextent body n rest =>
    rename_i hb
    subst hs
    rw [statement_of_explains hr hu h, hextent, hb]
    rfl
  | case4 s u us hu start stop hextent body n rest v vs hb hlt shorter =>
    rename_i ih
    subst hs
    obtain rfl : (extent (u :: us)).2 = stop := congrArg Prod.snd hextent
    rw [statement_of_explains hr hu h, hb]
    obtain ⟨hrest, htokens⟩ := explained_eq_stretch h hb
    have hinner := ih (List.cons_ne_nil v vs) hrest (hr rest _ htokens)
    dsimp only
    rw [hinner, map_map, map_map]
    congr 1
    funext inner
    have hnode := nodeOver_map_shift h (List.cons_ne_nil u us) .explainStatement none
      [inner.shift (u.stop + n)]
    rwa [List.map_singleton, Tree.shift_shift, ← Nat.add_assoc] at hnode
  | case5 s u us hu start stop hextent body n rest v vs hb =>
    rename_i hlt
    obtain ⟨hpos, hle⟩ := h u List.mem_cons_self
    exact absurd ⟨hpos, List.length_pos_iff.mp (Nat.lt_of_lt_of_le hpos hle)⟩ hlt
  | case6 s u us hu =>
    subst hs
    rw [List.map_cons, statement, if_neg (by rwa [wordOf_shift]), ← List.map_cons,
      isQuery_map_shift]
    cases hquery : isQuery (u :: us) with
    | error e => rfl
    | ok query =>
      cases query with
      | true => exact queryStatement_map_shift h hquery
      | false => exact leaf_map_shift h some _ _

/-- **The layout in place** comes to the same as the layout. -/
theorem statement_eq (hr : r.StopsInside) (some : tokens ≠ []) (h : Inside text tokens) :
    statement r text tokens = Statement.statement r text tokens := by
  have hplace : statement r text (tokens.map (·.shift 0)) = _ :=
    statement_map_shift (b := text.length) hr some (by rwa [stretch_length])
  rw [map_shift_zero, stretch_length] at hplace
  rw [hplace]
  cases Statement.statement r text tokens with
  | error e => rfl
  | ok t => exact congrArg Except.ok t.shift_zero

end InPlace

end InPlace

/-! ### Stretches by themselves -/

section Slices

variable {r : Reader} {text : List Char} {a b : Nat} {tokens : List Token}

/-- **A statement in a stretch** is laid out as in the text of the stretch. -/
theorem statement_map_shift (hr : r.StopsInside) (some : tokens ≠ [])
    (h : Inside (stretch text a b) tokens) :
    statement r text (tokens.map (·.shift a)) =
      (statement r (stretch text a b) tokens).map (·.shift a) := by
  have hmap : tokens.map (·.shift a) ≠ [] := by simpa using some
  rw [← InPlace.statement_eq hr hmap h.map_shift, InPlace.statement_map_shift hr some h]

/-- **What surrounds a statement** makes no difference to its tree: the tokens of a stretch are laid
out in place, explanations included, as they are in the text of the stretch, with all offsets moved
by where it starts; and where that text is refused, they are refused for the same reason. -/
theorem statement_of_slice (hr : r.StopsInside)
    (htokens : InPlace.tokensOf r (stretch text a b) 0 (stretch text a b).length = .ok tokens)
    (some : tokens ≠ []) :
    ∃ inPlace, InPlace.tokensOf r text a b = .ok inPlace ∧
      inPlace = tokens.map (·.shift a) ∧
      InPlace.statement r text inPlace =
        (InPlace.statement r (stretch text a b) tokens).map (·.shift a) ∧
      statement r text inPlace = (statement r (stretch text a b) tokens).map (·.shift a) := by
  rw [InPlace.tokensOf, stretch_length] at htokens
  cases halone : r.tokens (stretch text a b) with
  | none => simp [halone] at htokens
  | some alone =>
    obtain rfl : alone = tokens := by simpa [halone, map_shift_zero] using htokens
    have h : Inside (stretch text a b) alone := hr _ alone halone
    refine ⟨alone.map (·.shift a), ?_, rfl, ?_, statement_map_shift hr some h⟩
    · rw [InPlace.tokensOf, halone]
    · rw [InPlace.statement_map_shift hr some h, InPlace.statement_eq hr some h]

/-- An explanation between other statements has the tree that it has by itself. -/
theorem statement_of_slice_explained_source :
    smallReader.StopsInside ∧
      ∃ tokens t, InPlace.tokensOf smallReader "EXPLAIN WITH c AS (SELECT 1) FROM c".toList 0 35 =
          .ok tokens ∧ tokens ≠ [] ∧
        InPlace.statement smallReader "EXPLAIN WITH c AS (SELECT 1) FROM c".toList tokens = .ok t ∧
        InPlace.statement smallReader
          "DROP TABLE t; EXPLAIN WITH c AS (SELECT 1) FROM c; DROP TABLE c".toList
          (tokens.map (·.shift 14)) = .ok (t.shift 14) := by
  have hr : smallReader.StopsInside := keepsOrder_smallReader.stopsInside
  have hstretch : stretch "DROP TABLE t; EXPLAIN WITH c AS (SELECT 1) FROM c; DROP TABLE c".toList
      14 49 = "EXPLAIN WITH c AS (SELECT 1) FROM c".toList := by decide
  obtain ⟨tokens, htokens, hlaid⟩ := exists_of_toOption_any
    (x := InPlace.tokensOf smallReader "EXPLAIN WITH c AS (SELECT 1) FROM c".toList 0 35)
    (p := fun tokens => !tokens.isEmpty && ((InPlace.statement smallReader
      "EXPLAIN WITH c AS (SELECT 1) FROM c".toList tokens).toOption.any fun _ => true))
    (by decide +kernel)
  rw [Bool.and_eq_true] at hlaid
  obtain ⟨t, ht, -⟩ := exists_of_toOption_any hlaid.2
  have some : tokens ≠ [] := by simpa using hlaid.1
  obtain ⟨inPlace, -, rfl, hplace, -⟩ := statement_of_slice hr (hstretch.symm ▸ htokens) some
  rw [hstretch, ht] at hplace
  exact ⟨hr, tokens, t, htokens, some, ht, hplace⟩

end Slices

end Statement

end StatementShape
