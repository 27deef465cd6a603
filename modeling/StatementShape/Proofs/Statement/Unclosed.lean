import StatementShape.Proofs.Sql.Counted
import StatementShape.Proofs.Statement.Leaves
import StatementShape.Proofs.Statement.Root

/-!
# Parentheses that are never closed

A script is refused for a parenthesis that is never closed only where the end of common table
expressions is looked for. The parenthesis is the first one of its statement that is left open. The
statement may be explained, and then its text has been cut into tokens afresh: the offset of the
parenthesis in the script is known, but its line and column are counted from where that text begins.
So the place that is reported is that of the parenthesis if the statement is not explained. If it
is, the place is right only where that text begins the script, or begins in its first line and has
the parenthesis in a later one.

## Main definitions

* `LeftOpen`, `FirstOpen`: tokens whose first parenthesis is left open, and the first such of some
* `Silent`: results that do not complain of a parenthesis
* `Reports`: what a reported place says about a parenthesis

## Main results

* `leftOpen_of_closing`, `allClosed_of_closing`: what it means that a closing is found, or none
* `firstOpen_of_withEndFrom`: what the scan for the end of common table expressions complains of
* `firstOpen_of_statement`, `firstOpen_of_script`: what a statement, and a script, complains of
* `place_of_unclosed`: what is reported, and where that is right
* `exists_wrong_place`: a place at which there is no parenthesis
-/

namespace StatementShape.Statement

open Sql (Token TokenKind Reader Expression ExpressionKind Dialect Unbroken placeOf countedOn)

/-! ### Parentheses that are left open -/

/-- Tokens that leave their first one open: behind every one of them there is something to
close. -/
def LeftOpen (tokens : List Token) : Prop :=
  ∀ front, front <+: tokens → front ≠ [] → 0 < openBehind front

/-- The first parenthesis that is left open among some tokens: those in front are closed. -/
def FirstOpen (tokens : List Token) (t : Token) : Prop :=
  ∃ before after, tokens = before ++ t :: after ∧ t.kind = .lParen ∧ LeftOpen (t :: after) ∧
    ∀ front u back, before = front ++ u :: back → u.kind = .lParen →
      ¬ LeftOpen (u :: (back ++ t :: after))

/-- Tokens whose parentheses are all closed among them. -/
def AllClosed (tokens : List Token) : Prop :=
  ∀ front u back, tokens = front ++ u :: back → u.kind = .lParen → ¬ LeftOpen (u :: back)

section Parentheses

variable {tokens front back : List Token} {t u : Token} {depth k n : Nat}

theorem LeftOpen.of_prefix (h : LeftOpen tokens) (hfront : front <+: tokens) : LeftOpen front :=
  fun part hpart => h part (hpart.trans hfront)

/-- Behind tokens that are closed stands every parenthesis that is left open. -/
theorem AllClosed.exists_behind {a b : List Token} (hfront : AllClosed front)
    (heq : front ++ back = a ++ u :: b) (hu : u.kind = .lParen) (hleft : LeftOpen (u :: b)) :
    ∃ c, a = front ++ c ∧ back = c ++ u :: b := by
  rcases List.append_eq_append_iff.mp heq with ⟨c, rfl, hc⟩ | ⟨c, rfl, hc⟩
  · exact ⟨c, rfl, hc⟩
  · cases c with
    | nil => exact ⟨[], by rw [List.append_nil, List.append_nil], hc.symm⟩
    | cons v c =>
      rw [List.cons_append, List.cons.injEq] at hc
      obtain ⟨rfl, rfl⟩ := hc
      exact absurd (hleft.of_prefix (List.prefix_append (u :: c) back)) (hfront a u c rfl hu)

theorem AllClosed.append (hfront : AllClosed front) (hback : AllClosed back) :
    AllClosed (front ++ back) := by
  intro a u b heq hu hleft
  obtain ⟨c, -, hc⟩ := hfront.exists_behind heq hu hleft
  exact hback c u b hc hu hleft

/-- Behind tokens that are closed the first parenthesis that is left open stays the first. -/
theorem FirstOpen.append_left (h : FirstOpen tokens t) (hfront : AllClosed front) :
    FirstOpen (front ++ tokens) t := by
  obtain ⟨before, after, rfl, ht, hopen, hclosed⟩ := h
  refine ⟨front ++ before, after, (List.append_assoc _ _ _).symm, ht, hopen, ?_⟩
  intro a u b heq hu hleft
  have hwhole : front ++ (before ++ t :: after) = a ++ u :: (b ++ t :: after) := by
    rw [← List.append_assoc, heq, List.append_assoc, List.cons_append]
  obtain ⟨c, rfl, -⟩ := hfront.exists_behind hwhole hu hleft
  rw [List.append_assoc, List.append_cancel_left_eq] at heq
  exact hclosed c u b heq hu hleft

theorem FirstOpen.not_allClosed (h : FirstOpen tokens t) : ¬ AllClosed tokens := by
  obtain ⟨before, after, rfl, ht, hopen, -⟩ := h
  exact fun hall => hall before t after rfl ht hopen

/-- There is only one first parenthesis that is left open. -/
theorem FirstOpen.unique (h : FirstOpen tokens t) (h' : FirstOpen tokens u) : t = u := by
  obtain ⟨before, after, rfl, ht, hopen, hclosed⟩ := h
  obtain ⟨before', after', heq, hu, hopen', hclosed'⟩ := h'
  -- one that stood behind the other would not be the first
  rcases List.append_eq_append_iff.mp heq with ⟨c, rfl, hc⟩ | ⟨c, rfl, hc⟩
  · cases c with
    | nil => exact (List.cons.inj hc).1
    | cons v c =>
      rw [List.cons_append, List.cons.injEq] at hc
      obtain ⟨rfl, rfl⟩ := hc
      exact absurd hopen (hclosed' before t c rfl ht)
  · cases c with
    | nil => exact (List.cons.inj hc).1.symm
    | cons v c =>
      rw [List.cons_append, List.cons.injEq] at hc
      obtain ⟨rfl, rfl⟩ := hc
      exact absurd hopen' (hclosed before' u c rfl hu)

theorem AllClosed.singleton (ht : t.kind ≠ .lParen) : AllClosed [t] := by
  intro front u back heq hu
  cases front with
  | nil => exact absurd ((List.cons.inj heq).1 ▸ hu) ht
  | cons v front => simp at heq

theorem openBehind_cons (t : Token) (ts : List Token) :
    openBehind (t :: ts) = openBehind [t] + openBehind ts :=
  openBehind_append [t] ts

/-- One token closes the last of the open parentheses, or leaves as many open as it says. -/
theorem closing_cons (depth : Nat) (t : Token) (ts : List Token) :
    (openBehind [t] = -1 ∧ depth = 0 ∧ closing (depth + 1) (t :: ts) = some 1) ∨
      ∃ depth' : Nat, (depth' : Int) = depth + openBehind [t] ∧
        closing (depth + 1) (t :: ts) = (closing (depth' + 1) ts).map (· + 1) := by
  by_cases hopen : t.kind = .lParen
  · refine .inr ⟨depth + 1, ?_, closing_open hopen _ ts⟩
    rw [openBehind_singleton_of_lParen hopen]
    omega
  by_cases hclose : t.kind = .rParen
  · have hone := openBehind_singleton_of_rParen hclose
    cases depth with
    | zero => exact .inl ⟨hone, rfl, closing_last hclose ts⟩
    | succ depth =>
      refine .inr ⟨depth, ?_, closing_close hclose depth ts⟩
      rw [hone]
      omega
  · refine .inr ⟨depth, ?_, closing_plain hopen hclose _ ts⟩
    rw [openBehind_cons_of_plain hopen hclose, openBehind_nil]
    omega

/-- In front of the closing of open parentheses some are open behind every token. -/
theorem neg_lt_openBehind (h : ∀ n, closing (depth + 1) tokens = some n → k < n) :
    -(depth + 1 : Int) < openBehind (tokens.take k) := by
  induction tokens generalizing depth k with
  | nil =>
    rw [List.take_nil, openBehind_nil]
    omega
  | cons t ts ih =>
    cases k with
    | zero =>
      rw [List.take_zero, openBehind_nil]
      omega
    | succ k =>
      rcases closing_cons depth t ts with ⟨-, -, hlast⟩ | ⟨depth', hdepth, hmore⟩
      · exact absurd (h 1 hlast) (by omega)
      · have hlater : -(depth' + 1 : Int) < openBehind (ts.take k) := by
          refine ih fun n hn => ?_
          have := h (n + 1) (by rw [hmore, hn, Option.map_some])
          omega
        rw [List.take_succ_cons, openBehind_cons]
        omega

/-- At their closing all open parentheses have been closed. -/
theorem openBehind_take_of_closing (h : closing (depth + 1) tokens = some n) :
    openBehind (tokens.take n) = -(depth + 1 : Int) := by
  induction tokens generalizing depth n with
  | nil => cases h
  | cons t ts ih =>
    rcases closing_cons depth t ts with ⟨hone, rfl, hlast⟩ | ⟨depth', hdepth, hmore⟩
    · obtain rfl : 1 = n := Option.some.inj (hlast.symm.trans h)
      rw [List.take_succ_cons, List.take_zero, hone]
      rfl
    · obtain ⟨m, hm, rfl⟩ := Option.map_eq_some_iff.mp (hmore.symm.trans h)
      rw [List.take_succ_cons, openBehind_cons, ih hm]
      omega

/-- **A parenthesis that nothing closes** is left open. -/
theorem leftOpen_of_closing (ht : t.kind = .lParen) (h : closing 0 (t :: tokens) = none) :
    LeftOpen (t :: tokens) := by
  rw [closing_open ht, Option.map_eq_none_iff] at h
  intro front hfront hsome
  cases front with
  | nil => exact absurd rfl hsome
  | cons u front =>
    obtain ⟨rfl, hrest⟩ := List.cons_prefix_cons.mp hfront
    have hopen : -((0 : Nat) + 1 : Int) < openBehind (tokens.take front.length) :=
      neg_lt_openBehind fun n hn => nomatch h.symm.trans hn
    rw [← List.prefix_iff_eq_take.mp hrest] at hopen
    rw [openBehind_cons_of_lParen ht]
    omega

/-- **Tokens up to the closing** of the first one are all closed. -/
theorem allClosed_of_closing (ht : t.kind = .lParen) (h : closing 0 (t :: tokens) = some n) :
    AllClosed ((t :: tokens).take n) := by
  rw [closing_open ht] at h
  obtain ⟨m, hm, rfl⟩ := Option.map_eq_some_iff.mp h
  rw [List.take_succ_cons]
  intro front u back heq hu hleft
  -- what is open in front of a parenthesis is closed behind it, and the parenthesis with it
  have hpart := hleft (u :: back) (List.prefix_refl _) (List.cons_ne_nil u back)
  have hwhole : openBehind front + openBehind (u :: back) = 0 := by
    rw [← openBehind_append, ← heq, openBehind_cons_of_lParen ht, openBehind_take_of_closing hm]
    rfl
  have hfront : 0 ≤ openBehind front := by
    cases front with
    | nil => exact Int.le_refl 0
    | cons v front =>
      rw [List.cons_append, List.cons.injEq] at heq
      obtain ⟨rfl, hrest⟩ := heq
      have hlength : front.length < m := by
        have hlength := congrArg List.length hrest
        rw [List.length_take, List.length_append, List.length_cons] at hlength
        omega
      have htaken : tokens.take front.length = front := by
        have htake := congrArg (List.take front.length) hrest
        rwa [List.take_take, Nat.min_eq_left hlength.le, List.take_left] at htake
      have hopen : -((0 : Nat) + 1 : Int) < openBehind (tokens.take front.length) :=
        neg_lt_openBehind fun n hn => by
          obtain rfl : m = n := Option.some.inj (hm.symm.trans hn)
          exact hlength
      rw [htaken] at hopen
      rw [openBehind_cons_of_lParen ht]
      omega
  omega

end Parentheses

/-! ### Where it is complained of -/

section Scan

variable {before : Token} {tokens : List Token} {i line column : Nat}

/-- **The scan for the end of common table expressions** complains of the first parenthesis that is
left open. -/
theorem firstOpen_of_withEndFrom
    (h : withEndFrom before tokens i = .error (.unclosed line column)) :
    ∃ t, FirstOpen tokens t ∧ t.line = line ∧ t.column = column := by
  fun_induction withEndFrom before tokens i with
  | case1 => cases h
  | case2 before i t ts ht hclose =>
    cases h
    refine ⟨t, ⟨[], ts, rfl, ht, leftOpen_of_closing ht hclose, ?_⟩, rfl, rfl⟩
    intro front u back heq
    simp at heq
  | case3 => cases h
  | case4 => cases h
  | case5 before i t ts ht n hclose c rest hr hb _ hcomma ih =>
    obtain ⟨u, hu, hplace⟩ := ih h
    have hplain : c.kind ≠ .lParen := by rw [hcomma]; decide
    rw [← List.take_append_drop n (t :: ts), hr]
    exact ⟨u, (hu.append_left (.singleton hplain)).append_left (allClosed_of_closing ht hclose),
      hplace⟩
  | case6 => cases h
  | case7 before i t ts ht n hclose c rest hr hb _ last ih =>
    obtain ⟨u, hu, hplace⟩ := ih h
    rw [← List.take_append_drop n (t :: ts), hr]
    exact ⟨u, hu.append_left (allClosed_of_closing ht hclose), hplace⟩
  | case8 before i t ts ht ih =>
    obtain ⟨u, hu, hplace⟩ := ih h
    exact ⟨u, hu.append_left (.singleton ht), hplace⟩

theorem firstOpen_of_isQuery (h : isQuery tokens = .error (.unclosed line column)) :
    ∃ t, FirstOpen tokens t ∧ t.line = line ∧ t.column = column := by
  cases tokens with
  | nil => cases h
  | cons t ts =>
    simp only [isQuery, List.head?_cons] at h
    split at h
    · next hwith =>
      obtain ⟨u, hu, hplace⟩ := firstOpen_of_withEndFrom (map_eq_error.mp h)
      have hplain : t.kind ≠ .lParen := by rw [hwith]; decide
      exact ⟨u, hu.append_left (.singleton hplain), hplace⟩
    · cases h

end Scan

/-- Results that do not complain of a parenthesis. -/
def Silent {α : Type} (x : Except SyntaxError α) : Prop :=
  ∀ line column, x ≠ .error (.unclosed line column)

section Complaints

variable {α β : Type} {x : Except SyntaxError α} {r : Reader} {text : List Char}
  {tokens body : List Token} {p : Production} {wanted : ExpressionKind → Bool}

theorem Silent.bind {f : α → Except SyntaxError β} (hx : Silent x)
    (hf : ∀ a, x = .ok a → Silent (f a)) : Silent (x >>= f) := by
  intro line column h
  rcases bind_eq_error.mp h with h | ⟨a, ha, h⟩
  · exact hx line column h
  · exact hf a ha line column h

theorem Silent.map {f : α → β} (hx : Silent x) : Silent (x.map f) :=
  fun line column h => hx line column (map_eq_error.mp h)

theorem silent_ok (a : α) : Silent (.ok a) := nofun

theorem silent_fragment : Silent (fragment r wanted text) := by
  unfold fragment
  split
  · exact nofun
  · split <;> exact nofun
  · exact nofun

theorem silent_leaf : Silent (leaf r p wanted text tokens) :=
  silent_fragment.bind fun _ _ => silent_ok _

theorem silent_branches {places : List Nat} : Silent (branches r text tokens places) := by
  induction places with
  | nil => exact silent_ok _
  | cons i more ih => exact silent_leaf.bind fun _ _ => ih.bind fun _ _ => silent_ok _

theorem silent_fromStatement : Silent (fromStatement r text tokens) := by
  unfold fromStatement
  dsimp only
  split
  · exact Silent.bind nofun fun _ => nofun
  refine silent_fragment.bind fun e _ => ?_
  split
  · split
    · exact Silent.bind nofun fun _ => nofun
    · exact silent_leaf.bind fun _ _ => silent_ok _
  · exact silent_branches.bind fun _ _ => silent_ok _

theorem silent_mainPart : Silent (mainPart r text tokens body) := by
  unfold mainPart
  split
  · exact silent_fromStatement
  split
  · exact silent_fragment.bind fun _ _ => silent_ok _
  · exact silent_fragment.bind fun _ _ => silent_ok _

/-- A statement that is a query has no parenthesis to complain of: the end of its common table
expressions has been found. -/
theorem silent_queryStatement (hquery : isQuery tokens = .ok true) :
    Silent (queryStatement r text tokens) := by
  unfold queryStatement
  split
  · next hwith =>
    have hend : Silent (withEnd tokens) := by
      intro line column h
      obtain ⟨t, ts, rfl, ht⟩ := beginsWith_iff_head?.mpr hwith
      simp [isQuery, ht, h, Except.map] at hquery
    refine hend.bind fun cut _ => ?_
    have hclause : Silent (withClause r text (tokens.take cut)) :=
      silent_fragment.bind fun _ _ => silent_ok _
    exact hclause.bind fun _ _ => silent_mainPart.bind fun _ _ => silent_ok _
  · exact silent_mainPart.bind fun _ _ => silent_ok _

theorem silent_behindOptions : Silent (behindOptions r text) := by
  fun_induction behindOptions r text with
  | case1 =>
    intro line column h
    cases h
  | case2 => exact silent_ok _
  | case3 text t ts _ _ _ _ ih => exact ih.map
  | case4 =>
    intro line column h
    cases h
  | case5 => exact silent_ok _

end Complaints

/-! ### Inside explanations -/

section Inside

variable {r : Reader} {text inner : List Char} {tokens core : List Token} {n line column : Nat}

theorem InnermostAt.eq_of_not_explains (h : InnermostAt r text tokens n inner core)
    (head : ¬ Explains tokens) : n = 0 ∧ inner = text ∧ core = tokens := by
  cases h with
  | here => exact ⟨rfl, rfl, rfl⟩
  | inside head' => exact absurd ⟨_, _, rfl, head'⟩ head

/-- What stands behind option words has been cut into tokens by itself. -/
theorem BehindOptions.tokens_drop (h : BehindOptions r text n tokens) :
    r.tokens (text.drop n) = some tokens := by
  induction h with
  | here read other => exact read
  | option read word more ih => rwa [← List.drop_drop]

/-- The text of the statement inside is found at its offset. -/
theorem InnermostAt.prefix_drop (h : InnermostAt r text tokens n inner core) :
    inner <+: text.drop n := by
  induction h with
  | here => exact List.prefix_refl _
  | @inside text rest inner t ts body core n k head rest_eq options some deeper ih =>
    subst rest_eq
    rw [← List.drop_drop, ← List.drop_drop]
    exact ih.trans ((((List.take_prefix _ text).drop t.stop).drop n).drop k)

/-- The tokens of the statement inside are tokens of its text. -/
theorem InnermostAt.exists_tokens (h : InnermostAt r text tokens n inner core)
    {whole : List Token} (hwhole : r.tokens text = some whole) (hmem : ∀ t ∈ tokens, t ∈ whole) :
    ∃ whole, r.tokens inner = some whole ∧ ∀ t ∈ core, t ∈ whole := by
  induction h generalizing whole with
  | here => exact ⟨whole, hwhole, hmem⟩
  | inside head rest_eq options some deeper ih => exact ih options.tokens_drop fun _ ht => ht

/-- **A statement complains** of the first parenthesis that is left open inside all explanations. -/
theorem firstOpen_of_statement (h : statement r text tokens = .error (.unclosed line column)) :
    ∃ n inner core t, InnermostAt r text tokens n inner core ∧ FirstOpen core t ∧
      t.line = line ∧ t.column = column := by
  fun_induction statement r text tokens with
  | case1 => cases h
  | case2 text u us hu start stop hextent body e hb =>
    cases h
    exact absurd hb (silent_behindOptions line column)
  | case3 => cases h
  | case4 text u us hu start stop hextent body n rest v vs hb =>
    rename_i ih
    obtain ⟨k, inner, core, t, hinner, hopen⟩ := ih (map_eq_error.mp h)
    obtain rfl : (extent (u :: us)).2 = stop := congrArg Prod.snd hextent
    obtain ⟨rfl, -⟩ := behindOptions_eq_ok hb
    exact ⟨_, inner, core, t, .inside hu rfl (behindOptions_of_eq_ok hb) (List.cons_ne_nil v vs)
      hinner, hopen⟩
  | case5 => cases h
  | case6 text u us hu =>
    have hexplain : ¬ Explains (u :: us) := by
      rintro ⟨v, vs, heq, hv⟩
      cases heq
      exact hu hv
    rcases bind_eq_error.mp h with h | ⟨query, hquery, h⟩
    · obtain ⟨t, hopen⟩ := firstOpen_of_isQuery h
      exact ⟨0, text, u :: us, t, .here hexplain, hopen⟩
    cases query with
    | true => exact absurd h (silent_queryStatement hquery line column)
    | false => exact absurd h (silent_leaf line column)

theorem firstOpen_of_script (h : script r text = .error (.unclosed line column)) :
    ∃ tokens, r.tokens text = some tokens ∧ ∃ run ∈ statements tokens, ∃ n inner core t,
      InnermostAt r text run n inner core ∧ FirstOpen core t ∧ t.line = line ∧
        t.column = column := by
  unfold script at h
  split at h
  · cases h
  · next tokens htokens =>
    rcases bind_eq_error.mp h with h | ⟨parts, -, h⟩
    · obtain ⟨run, hrun, h⟩ := exists_mem_of_mapM_eq_error h
      exact ⟨tokens, htokens, run, hrun, firstOpen_of_statement h⟩
    · split at h <;> cases h

end Inside

/-! ### What is reported, and what is right -/

/-- A reported place for a token over a left parenthesis of a text. The token is one of a part
of the text, `inner`, that begins at an offset, and its place is counted there. In a part without
broken spellings it is the place of the parenthesis there; the place in the text is counted on from
where the part begins. -/
structure Reports (d : Dialect) (text inner : List Char) (offset : Nat) (t : Token)
    (line column : Nat) : Prop where
  counted : ∃ tokens, d.reader.tokens inner = some tokens ∧ t ∈ tokens
  line_eq : t.line = line
  column_eq : t.column = column
  char : text[offset + t.start]? = some '('
  inside : Unbroken d.lexical inner → placeOf inner t.start = (line, column)
  place : Unbroken d.lexical inner →
    placeOf text (offset + t.start) = countedOn (placeOf text offset) (line, column)
  right_iff : Unbroken d.lexical inner →
    (placeOf text (offset + t.start) = (line, column) ↔
      placeOf text offset = (1, 1) ∨ (placeOf text offset).1 = 1 ∧ line ≠ 1)

section Place

variable {d : Dialect} {text inner : List Char} {tokens : List Token} {t : Token}
  {n line column : Nat}

/-- The place of a left parenthesis of a part is reported. -/
theorem reports_of_mem (hinner : inner <+: text.drop n)
    (htokens : d.reader.tokens inner = some tokens) (ht : t ∈ tokens) (hkind : t.kind = .lParen) :
    Reports d text inner n t t.line t.column := by
  obtain ⟨hchar, hplace⟩ := Sql.isParenthesis_of_tokenize htokens ht hkind
  have hlt : t.start < inner.length := (List.getElem?_eq_some_iff.mp hchar).1
  have hwhole : text[n + t.start]? = some '(' := by
    obtain ⟨back, hback⟩ := hinner
    rw [← List.getElem?_drop, ← hback, List.getElem?_append_left hlt, hchar]
  have hbound : n + t.start < text.length := (List.getElem?_eq_some_iff.mp hwhole).1
  have hon : Unbroken d.lexical inner →
      placeOf text (n + t.start) = countedOn (placeOf text n) (t.line, t.column) := by
    intro hunbroken
    rw [Sql.placeOf_add hbound, ← Sql.placeOf_of_prefix hinner hlt, hplace hunbroken]
  refine ⟨⟨tokens, htokens, ht⟩, rfl, rfl, hwhole, hplace, hon, fun hunbroken => ?_⟩
  have hfirst := Sql.le_placeOf hlt
  rw [hplace hunbroken] at hfirst
  rw [hon hunbroken, Sql.countedOn_eq_self_iff hfirst (Sql.le_placeOf (by omega))]

/-- **What is reported**: inside all explanations of a statement, the first parenthesis that is left
open. The part of the text is the whole of it, unless the statement is explained. -/
theorem place_of_unclosed (h : script d.reader text = .error (.unclosed line column)) :
    ∃ tokens, d.reader.tokens text = some tokens ∧ ∃ run ∈ statements tokens, ∃ n inner core t,
      InnermostAt d.reader text run n inner core ∧ FirstOpen core t ∧
        Reports d text inner n t line column ∧
        (¬ Explains run → n = 0 ∧ inner = text ∧ core = run) := by
  obtain ⟨tokens, htokens, run, hrun, n, inner, core, t, hinner, hopen, rfl, rfl⟩ :=
    firstOpen_of_script h
  have hmem : ∀ u ∈ run, u ∈ tokens := ((cut_statements tokens).isInfix_of_mem hrun).subset
  obtain ⟨whole, hwhole, hcore⟩ := hinner.exists_tokens htokens hmem
  obtain ⟨before, after, rfl, hkind, -⟩ := id hopen
  refine ⟨tokens, htokens, run, hrun, n, inner, _, t, hinner, hopen, ?_,
    hinner.eq_of_not_explains⟩
  exact reports_of_mem hinner.prefix_drop hwhole (hcore t (by simp)) hkind

end Place

/-! ### A place on a second line, and a wrong one -/

/-- Whether a result complains of a parenthesis at a place. -/
def complainsAt (line column : Nat) : Except SyntaxError Tree → Bool
  | .error (.unclosed l c) => l == line && c == column
  | _ => false

theorem eq_of_complainsAt {line column : Nat} {x : Except SyntaxError Tree}
    (h : complainsAt line column x = true) : x = .error (.unclosed line column) := by
  unfold complainsAt at h
  split at h
  · rw [Bool.and_eq_true, beq_iff_eq, beq_iff_eq] at h
    rw [h.1, h.2]
  · cases h

/-- A parenthesis on a second line that is never closed. -/
def sampleOpen : List Char := "WITH c AS\n(SELECT 1".toList

/-- A parenthesis that is never closed in a statement that is explained. -/
def sampleExplained : List Char := "EXPLAIN WITH c AS (SELECT 1".toList

set_option maxRecDepth 100000 in
/-- What is complained of in both texts. They are read in one go, as the spellings of a dialect
are costly to look through. -/
theorem complaints :
    (complainsAt 2 1 (script Dialect.standard.reader sampleOpen) &&
      decide (Unbroken Dialect.standard.lexical sampleOpen) &&
      ((Dialect.standard.reader.tokens sampleOpen).all fun tokens =>
        (statements tokens).all fun run => run.head?.bind wordOf != some "EXPLAIN") &&
      complainsAt 1 12 (script Dialect.standard.reader sampleExplained)) = true := by
  decide +kernel

/-- A parenthesis on a second line is found where it is reported. -/
theorem place_of_unclosed_second_line :
    script Dialect.standard.reader sampleOpen = .error (.unclosed 2 1) ∧
      ∃ tokens, Dialect.standard.reader.tokens sampleOpen = some tokens ∧
        ∃ run ∈ statements tokens, ∃ t, FirstOpen run t ∧ sampleOpen[t.start]? = some '(' ∧
          placeOf sampleOpen t.start = (2, 1) := by
  have hall := complaints
  rw [Bool.and_eq_true, Bool.and_eq_true, Bool.and_eq_true] at hall
  obtain ⟨⟨⟨hopen, hunbroken⟩, hplain⟩, -⟩ := hall
  have h := eq_of_complainsAt hopen
  obtain ⟨tokens, htokens, run, hrun, n, inner, core, t, -, hfirst, hreports, hwhole⟩ :=
    place_of_unclosed h
  have hexplain : ¬ Explains run := by
    rintro ⟨u, us, rfl, hu⟩
    rw [htokens, Option.all_some, List.all_eq_true] at hplain
    simpa [hu] using hplain _ hrun
  obtain ⟨rfl, rfl, rfl⟩ := hwhole hexplain
  refine ⟨h, tokens, htokens, _, hrun, t, hfirst, ?_, hreports.inside (of_decide_eq_true hunbroken)⟩
  simpa using hreports.char

/-- **The place that is reported** need not be that of a parenthesis: in an explanation it is
counted from behind the word. -/
theorem exists_wrong_place :
    ¬ ∀ (d : Dialect) (text : List Char) (line column : Nat),
      script d.reader text = .error (.unclosed line column) →
        ∃ i, placeOf text i = (line, column) ∧ text[i]? = some '(' := by
  intro hall
  have hall' := complaints
  rw [Bool.and_eq_true] at hall'
  obtain ⟨i, hplace, hchar⟩ := hall .standard sampleExplained 1 12 (eq_of_complainsAt hall'.2)
  have hlt : i < sampleExplained.length := (List.getElem?_eq_some_iff.mp hchar).1
  have honly : ∀ i < sampleExplained.length, sampleExplained[i]? = some '(' → i = 18 := by decide
  obtain rfl := honly i hlt hchar
  exact absurd hplace (by decide)

end StatementShape.Statement
