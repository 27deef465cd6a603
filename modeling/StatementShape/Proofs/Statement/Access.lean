import StatementShape.Classify.Examine
import StatementShape.Proofs.Sql.Order
import StatementShape.Proofs.Statement.Layout

/-!
# Accesses

A script is laid out by looking at its tokens: by their places, and at the first and the last of a
run of them. Scans go on from place to place, and what is explained is cut into tokens again and
again. Here the same steps are taken with care: no place is used before it is looked up, the turns
of every loop are counted, and a place that is not there, or a loop that takes more turns than it is
allowed, ends the run with a mishap of its own.

Neither mishap ever comes about, if only the tokens of each text stop inside it. What a careful run
comes to is then what the layout comes to: a tree, or the error for which the text is refused.

## Main definitions

* `Mishap`: what ends a run
* `itemAt`, `bounds`: the accesses
* `Careful.script`: a script, laid out with care

## Main results

* `Careful.withEnd_eq`, `Careful.statement_eq`: the scan for the end of common table expressions and
  the layout of a statement never come to a mishap
* `Careful.script_eq`: nor does the layout of a script
-/

namespace StatementShape.Statement

open Sql (Token Reader Expression ExpressionKind)

/-! ### Mishaps and accesses -/

/-- What ends a run in the middle: an error for which the text is refused, a place outside of a
list, or more turns of a loop than it is allowed. -/
inductive Mishap where
  | refused (e : SyntaxError)
  | outside
  | endless
  deriving DecidableEq, Repr

section Accesses

variable {α β : Type}

/-- The item at a place, which must be one of the list. -/
def itemAt (xs : List α) (i : Nat) : Except Mishap α :=
  match xs[i]? with
  | some x => .ok x
  | none => .error .outside

/-- Where some tokens start and stop in their text, by the first and the last of them. -/
def bounds (tokens : List Token) : Except Mishap (Nat × Nat) := do
  let first ← itemAt tokens 0
  let last ← itemAt tokens (tokens.length - 1)
  return (first.start, last.stop)

/-- A result that is no mishap, but for the error for which a text is refused. -/
def refusing (x : Except SyntaxError α) : Except Mishap α := x.mapError .refused

theorem itemAt_eq {xs : List α} {i : Nat} {x : α} (h : xs[i]? = some x) : itemAt xs i = .ok x := by
  rw [itemAt, h]

theorem bounds_eq {tokens : List Token} (h : tokens ≠ []) :
    bounds tokens = .ok (extent tokens) := by
  obtain ⟨first, rest, rfl⟩ := List.exists_cons_of_ne_nil h
  have hlast : (first :: rest)[(first :: rest).length - 1]? = some ((first :: rest).getLast h) := by
    rw [← List.getLast?_eq_getElem?, List.getLast?_eq_some_getLast h]
  rw [bounds, itemAt_eq (x := first) rfl, itemAt_eq hlast]
  simp only [bind, Except.bind, pure, Except.pure, extent, List.head?_cons, Option.map_some,
    Option.getD_some, List.getLast?_eq_some_getLast h]

@[simp] theorem refusing_ok (a : α) : refusing (.ok a) = .ok a := rfl

@[simp] theorem refusing_error (e : SyntaxError) :
    refusing (.error e : Except SyntaxError α) = .error (.refused e) := rfl

theorem refusing_bind (x : Except SyntaxError α) (f : α → Except SyntaxError β) :
    refusing (x >>= f) = refusing x >>= fun a => refusing (f a) := by
  cases x <;> rfl

theorem ok_bind {ε : Type} (a : α) (f : α → Except ε β) : (Except.ok a >>= f) = f a := rfl

end Accesses

/-! ### Layouts with care -/

namespace Careful

/-- The place behind the parenthesis that closes `depth` open ones, among the next `n` tokens
from place `j` on, if there is one. -/
def closing (tokens : List Token) : Nat → Int → Nat → Except Mishap (Option Nat)
  | 0, _, _ => .ok none
  | n + 1, depth, j => do
    let t ← itemAt tokens j
    if t.kind = .lParen then closing tokens n (depth + 1) (j + 1)
    else if t.kind = .rParen then
      if depth - 1 = 0 then return some (j + 1) else closing tokens n (depth - 1) (j + 1)
    else closing tokens n depth (j + 1)

/-- The place behind the parenthesis that closes the one at place `i`. -/
def closeParen (tokens : List Token) (i : Nat) : Except Mishap Nat := do
  match ← closing tokens (tokens.length - i) 0 i with
  | some j => return j
  | none =>
    let t ← itemAt tokens i
    throw (.refused (.unclosed t.line t.column))

/-- The end of common table expressions from place `i` on, in a number of turns. -/
def withEndFrom (tokens : List Token) : Nat → Nat → Except Mishap Nat
  | 0, _ => .error .endless
  | turns + 1, i =>
    if i < tokens.length then do
      let t ← itemAt tokens i
      if t.kind ≠ .lParen then withEndFrom tokens turns (i + 1)
      else
        let before ← itemAt tokens (i - 1)
        let j ← closeParen tokens i
        if !opensTable before then withEndFrom tokens turns j
        else if j < tokens.length then
          let next ← itemAt tokens j
          if next.kind = .comma then withEndFrom tokens turns (j + 1) else return j
        else return j
    else .error (.refused .withAlone)

/-- How many tokens the common table expressions take at the front of a statement. -/
def withEnd (tokens : List Token) : Except Mishap Nat := withEndFrom tokens (tokens.length + 1) 1

/-- The one statement that a text spells, if it is of the kinds that are wanted. -/
def fragment (r : Reader) (wanted : ExpressionKind → Bool) (text : List Char) :
    Except Mishap Expression :=
  match r.statements text with
  | none => .error (.refused (.unreadable text))
  | some es =>
    if es.length ≠ 1 then .error (.refused (.misplaced text))
    else do
      let e ← itemAt es 0
      if wanted e.kind then return e else throw (.refused (.misplaced text))

/-- The text of some tokens. -/
def textOf (text : List Char) (tokens : List Token) : Except Mishap (List Char) := do
  let (start, stop) ← bounds tokens
  return (text.take stop).drop start

/-- A node over some tokens. -/
def nodeOver (p : Production) (text : List Char) (tokens : List Token)
    (expression : Option Expression) (children : List Tree) : Except Mishap Tree := do
  let (start, stop) ← bounds tokens
  return .node p { start, stop } ((text.take stop).drop start) expression children

/-- A leaf over some tokens. -/
def leaf (r : Reader) (p : Production) (wanted : ExpressionKind → Bool) (text : List Char)
    (tokens : List Token) : Except Mishap Tree := do
  let e ← fragment r wanted (← textOf text tokens)
  nodeOver p text tokens (some e) []

/-- Common table expressions. -/
def withClause (r : Reader) (text : List Char) (tokens : List Token) : Except Mishap Tree := do
  let e ← fragment r (· == .select) ((← textOf text tokens) ++ " SELECT 1".toList)
  nodeOver .withClause text tokens (e.find? .with_) []

/-- The places among some that hold an insertion. -/
def inserts (tokens : List Token) : List Nat → Except Mishap (List Nat)
  | [] => .ok []
  | i :: more => do
    let t ← itemAt tokens i
    let rest ← inserts tokens more
    return if t.kind = .insert then i :: rest else rest

/-- Insertions behind a source, each between two neighbouring places. -/
def branches (r : Reader) (text : List Char) (tokens : List Token) (places : List Nat) :
    Except Mishap (List Tree) :=
  (places.zip places.tail).mapM fun (start, stop) =>
    leaf r .multiInsertBranch (· == .insert) text ((tokens.take stop).drop start)

/-- The end of a source: the first of the heads behind it, or the end of the tokens. -/
def sourceEnd (tokens : List Token) (heads : List Nat) : Except Mishap Nat :=
  if heads.isEmpty then .ok tokens.length else itemAt heads 0

/-- Whether there is a selection at a place. -/
def selectsAt (tokens : List Token) (i : Nat) : Except Mishap Bool :=
  if i < tokens.length then (itemAt tokens i).map fun t => t.kind == .select else .ok false

/-- What stands behind a source that ends at place `cut`. -/
def behindSource (r : Reader) (text : List Char) (tokens : List Token) (cut : Nat)
    (places : List Nat) : Except Mishap (List Tree) := do
  if ← selectsAt tokens cut then
    if places.isEmpty then
      (leaf r .fromRest (·.isQuery) text (tokens.drop cut)).map fun rest => [rest]
    else throw (.refused (.mixedBranches (← textOf text tokens)))
  else branches r text tokens (places ++ [tokens.length])

/-- A statement that begins with its source. -/
def fromStatement (r : Reader) (text : List Char) (tokens : List Token) : Except Mishap Tree := do
  let heads := topLevel (fun k => k = .select || k = .insert) tokens
  let cut ← sourceEnd tokens heads
  if cut = 1 then throw (.refused (.noSource (← textOf text tokens)))
  else
    let source := tokens.take cut
    let e ← fragment r (· == .select) ("SELECT * ".toList ++ (← textOf text source))
    let clause ← nodeOver .fromClause text source (e.find? .from_) []
    let behind ← behindSource r text tokens cut (← inserts tokens heads)
    nodeOver .fromStatement text tokens none (clause :: behind)

/-- Whether a statement is rooted in a query. -/
def isQuery (tokens : List Token) : Except Mishap Bool := do
  let first ← itemAt tokens 0
  if first.kind = .with_ then
    let cut ← withEnd tokens
    if cut < tokens.length then (itemAt tokens cut).map fun t => isQueryHead t.kind
    else return false
  else return isQueryHead first.kind

/-- The main part of a query statement. -/
def mainPart (r : Reader) (text : List Char) (tokens body : List Token) : Except Mishap Tree := do
  let head ← itemAt body 0
  if head.kind = .from_ then fromStatement r text body
  else if head.kind = .insert then
    let e ← fragment r (· == .insert) (← textOf text tokens)
    nodeOver .insertStatement text body (some e) []
  else
    let e ← fragment r (·.isQuery) (← textOf text tokens)
    nodeOver .selectQueryStatement text body (some e) []

/-- A query statement. -/
def queryStatement (r : Reader) (text : List Char) (tokens : List Token) : Except Mishap Tree := do
  let first ← itemAt tokens 0
  if first.kind = .with_ then
    let cut ← withEnd tokens
    let clause ← withClause r text (tokens.take cut)
    let main ← mainPart r text tokens (tokens.drop cut)
    nodeOver .queryStatement text tokens none [clause, main]
  else
    let main ← mainPart r text tokens tokens
    nodeOver .queryStatement text tokens none [main]

/-- What stands behind the option words at the front of a text, in a number of turns. -/
def behindOptions (r : Reader) : Nat → List Char → Except Mishap (Nat × List Char × List Token)
  | 0, _ => .error .endless
  | turns + 1, text =>
    match r.tokens text with
    | none => .error (.refused (.unreadable text))
    | some tokens =>
      if tokens.isEmpty then .ok (0, text, [])
      else do
        let first ← itemAt tokens 0
        if isExplainOption first then
          let (n, rest, body) ← behindOptions r turns (text.drop first.stop)
          return (first.stop + n, rest, body)
        else return (0, text, tokens)

/-- The tree of one statement, in a number of turns. A turn is taken for each explanation, and
the turns of an explanation for its options are counted anew. -/
def statement (r : Reader) : Nat → List Char → List Token → Except Mishap Tree
  | 0, _, _ => .error .endless
  | turns + 1, text, tokens => do
    let first ← itemAt tokens 0
    if wordOf first = some "EXPLAIN" then
      let (_, stop) ← bounds tokens
      let body := (text.take stop).drop first.stop
      let (n, rest, explained) ← behindOptions r (body.length + 1) body
      if explained.isEmpty then throw (.refused (.nothingExplained (← textOf text tokens)))
      else
        let inner ← statement r turns rest explained
        nodeOver .explainStatement text tokens none [inner.shift (first.stop + n)]
    else
      let query ← isQuery tokens
      if query then queryStatement r text tokens
      else leaf r .utilityStatement (fun _ => true) text tokens

/-- The tree of a script. No statement of it takes more turns than its text has characters, and
one more. -/
def script (r : Reader) (text : List Char) : Except Mishap Tree :=
  match r.tokens text with
  | none => .error (.refused (.unreadable text))
  | some tokens => do
    let parts ← (statements tokens).mapM (statement r (text.length + 1) text)
    if parts.isEmpty then throw (.refused (.noStatement text))
    else return .node .script { start := 0, stop := text.length } text none parts

/-! ### No mishap comes about -/

section Scans

variable {tokens : List Token}

/-- Closing parentheses stand at the places that the rest of the tokens gives them. -/
theorem closing_eq (n depth j : Nat) (hn : n = tokens.length - j) :
    closing tokens n ((depth + 1 : Nat) : Int) j =
      .ok ((Statement.closing (depth + 1) (tokens.drop j)).map (j + ·)) := by
  induction n generalizing depth j with
  | zero =>
    rw [List.drop_eq_nil_of_le (by omega)]
    rfl
  | succ n ih =>
    have hj : j < tokens.length := by omega
    have later : ∀ d, closing tokens n ((d + 1 : Nat) : Int) (j + 1) =
        .ok (((Statement.closing (d + 1) (tokens.drop (j + 1))).map (· + 1)).map (j + ·)) := by
      intro d
      rw [ih d (j + 1) (by omega), Option.map_map]
      congr 2
      funext m
      simp only [Function.comp_apply]
      omega
    rw [closing, itemAt_eq (List.getElem?_eq_getElem hj), ok_bind, List.drop_eq_getElem_cons hj,
      Statement.closing]
    split
    · exact later (depth + 1)
    · split
      · cases depth with
        | zero => rfl
        | succ d =>
          rw [if_neg (by omega), if_neg (by omega)]
          have hd : ((d + 1 + 1 : Nat) : Int) - 1 = ((d + 1 : Nat) : Int) := by omega
          rw [hd, later d]
          rfl
      · exact later depth

/-- The first token of a rest stands at its place. -/
theorem drop_eq_cons {i : Nat} {t : Token} {ts : List Token} (h : tokens.drop i = t :: ts) :
    i < tokens.length ∧ tokens[i]? = some t ∧ tokens.drop (i + 1) = ts := by
  have hi : tokens[i]? = some t := by rw [← List.head?_drop, h, List.head?_cons]
  refine ⟨(List.getElem?_eq_some_iff.mp hi).1, hi, ?_⟩
  rw [← List.drop_drop, h, List.drop_succ_cons, List.drop_zero]

/-- A parenthesis that is closed is closed at its place, and one that is not is reported. -/
theorem closeParen_eq {i : Nat} {t : Token} {ts : List Token} (hrest : tokens.drop i = t :: ts)
    (ht : t.kind = .lParen) :
    closeParen tokens i =
      match Statement.closing 0 (t :: ts) with
      | some n => .ok (i + n)
      | none => .error (.refused (.unclosed t.line t.column)) := by
  obtain ⟨-, hi, hts⟩ := drop_eq_cons hrest
  have hlen : tokens.length - i = ts.length + 1 := by
    rw [← List.length_drop, hrest, List.length_cons]
  -- the parenthesis itself is the first that is open
  have hscan : closing tokens (tokens.length - i) 0 i =
      .ok ((Statement.closing 0 (t :: ts)).map (i + ·)) := by
    have hinside := @closing_eq tokens ts.length 0 (i + 1) (by omega)
    rw [hts] at hinside
    rw [hlen, closing, itemAt_eq hi, ok_bind, if_pos ht, Statement.closing, if_pos ht]
    refine hinside.trans ?_
    rw [Option.map_map]
    congr 2
    funext m
    simp only [Function.comp_apply]
    omega
  rw [closeParen, hscan, ok_bind]
  cases Statement.closing 0 (t :: ts) with
  | none => rw [Option.map_none]; simp only [itemAt_eq hi, ok_bind]; rfl
  | some n => rfl

/-- Behind the end of the tokens there are no common table expressions. -/
theorem withEndFrom_nil {i turns : Nat} (hi : tokens.drop i = []) :
    withEndFrom tokens (turns + 1) i = .error (.refused .withAlone) := by
  rw [withEndFrom, if_neg (by rw [List.drop_eq_nil_iff] at hi; omega)]

/-- Behind a group the scan goes on or stops, as the token in front of it and the one behind it
say. -/
theorem withEndFrom_group {before t : Token} {ts : List Token} {i n turns : Nat}
    (hbefore : tokens[i - 1]? = some before) (hrest : tokens.drop i = t :: ts)
    (ht : t.kind = .lParen) (hclose : Statement.closing 0 (t :: ts) = some n) :
    withEndFrom tokens (turns + 1) i =
      if opensTable before = false then withEndFrom tokens turns (i + n)
      else match (t :: ts).drop n with
        | [] => .ok (i + n)
        | c :: _ =>
          if c.kind = .comma then withEndFrom tokens turns (i + n + 1) else .ok (i + n) := by
  obtain ⟨hlt, hi, -⟩ := drop_eq_cons hrest
  have hbehind : tokens.drop (i + n) = (t :: ts).drop n := by rw [← List.drop_drop, hrest]
  rw [withEndFrom, if_pos hlt, itemAt_eq hi, ok_bind, if_neg (by simp [ht]), itemAt_eq hbefore,
    ok_bind, closeParen_eq hrest ht, hclose]
  simp only [ok_bind, Bool.not_eq_eq_eq_not, Bool.not_true]
  split
  · rfl
  · cases hdrop : (t :: ts).drop n with
    | nil =>
      rw [if_neg (by rw [hdrop, List.drop_eq_nil_iff] at hbehind; omega)]
      rfl
    | cons c rest =>
      obtain ⟨hlt, hc, -⟩ := drop_eq_cons (hbehind.trans hdrop)
      rw [if_pos hlt, itemAt_eq hc, ok_bind]
      rfl

/-- Behind a group stands its last token. -/
theorem getElem?_behind_group {t : Token} {ts : List Token} {i n : Nat}
    (hrest : tokens.drop i = t :: ts) (hclose : Statement.closing 0 (t :: ts) = some n) :
    tokens[i + n - 1]? = some (((t :: ts).take n).getLast?.getD t) := by
  obtain ⟨hpos, hle⟩ := closing_pos hclose
  have hlast : (t :: ts)[n - 1]? = some (t :: ts)[n - 1] := List.getElem?_eq_getElem (by omega)
  have hplace : tokens[i + n - 1]? = (t :: ts)[n - 1]? := by
    rw [← hrest, List.getElem?_drop, Nat.add_sub_assoc hpos]
  rw [hplace, List.getLast?_take, if_neg (by omega), hlast, Option.some_or, Option.getD_some]

/-- The scan for the end of common table expressions comes to no mishap, if it may take more
turns than there are tokens left. -/
theorem withEndFrom_eq {before : Token} {rest : List Token} {i turns : Nat} (hi : 0 < i)
    (hbefore : tokens[i - 1]? = some before) (hrest : tokens.drop i = rest)
    (hturns : rest.length < turns) :
    withEndFrom tokens turns i = refusing (Statement.withEndFrom before rest i) := by
  obtain ⟨turns, rfl⟩ := Nat.exists_eq_add_one_of_ne_zero (Nat.ne_zero_of_lt hturns)
  fun_induction Statement.withEndFrom before rest i generalizing turns with
  | case1 => exact withEndFrom_nil hrest
  | case2 before i t ts ht hclose =>
    obtain ⟨hlt, hi', -⟩ := drop_eq_cons hrest
    rw [withEndFrom, if_pos hlt, itemAt_eq hi', ok_bind, if_neg (by simp [ht]), itemAt_eq hbefore,
      ok_bind, closeParen_eq hrest ht, hclose]
    rfl
  | case3 before i t ts ht n hclose hdrop hopens =>
    rw [withEndFrom_group hbefore hrest ht hclose, if_neg (by simp [hopens]), hdrop]
    rfl
  | case4 before i t ts ht n hclose hdrop hopens =>
    obtain ⟨turns, rfl⟩ : ∃ k, turns = k + 1 := ⟨turns - 1, by simp at hturns; omega⟩
    rw [withEndFrom_group hbefore hrest ht hclose, if_pos (by simpa using hopens)]
    exact withEndFrom_nil (by rw [← List.drop_drop, hrest, hdrop])
  | case5 before i t ts ht n hclose c rest hdrop shorter hopens hcomma ih =>
    obtain ⟨turns, rfl⟩ : ∃ k, turns = k + 1 := ⟨turns - 1, by simp at hturns; omega⟩
    rw [withEndFrom_group hbefore hrest ht hclose, if_neg (by simp [hopens]), hdrop]
    simp only [hcomma, if_true]
    have hnext : tokens.drop (i + n) = c :: rest := by rw [← List.drop_drop, hrest, hdrop]
    obtain ⟨-, hc, hbehind⟩ := drop_eq_cons hnext
    exact ih (Nat.succ_pos _) hc hbehind turns (by rw [List.length_cons] at hturns; omega)
  | case6 before i t ts ht n hclose c rest hdrop shorter hopens hcomma =>
    rw [withEndFrom_group hbefore hrest ht hclose, if_neg (by simp [hopens]), hdrop]
    simp only [hcomma, if_false]
    rfl
  | case7 before i t ts ht n hclose c rest hdrop shorter hopens last =>
    rename_i ih
    -- a list of columns: the token behind it comes next, with the end of the list in front of it
    obtain ⟨turns, rfl⟩ : ∃ k, turns = k + 1 := ⟨turns - 1, by simp at hturns; omega⟩
    rw [withEndFrom_group hbefore hrest ht hclose, if_pos (by simpa using hopens)]
    have hnext : tokens.drop (i + n) = c :: rest := by rw [← List.drop_drop, hrest, hdrop]
    have hshort : (c :: rest).length < turns + 1 := by
      simp only [List.length_cons] at hturns ⊢
      omega
    exact ih (by omega) (getElem?_behind_group hrest hclose) hnext turns hshort
  | case8 before i t ts ht ih =>
    obtain ⟨turns, rfl⟩ : ∃ k, turns = k + 1 := ⟨turns - 1, by simp at hturns; omega⟩
    obtain ⟨hlt, hi', hts⟩ := drop_eq_cons hrest
    rw [withEndFrom, if_pos hlt, itemAt_eq hi', ok_bind, if_pos ht]
    exact ih (Nat.succ_pos i) hi' hts turns (by simpa using hturns)

end Scans

section Parts

variable {r : Reader} {text : List Char} {tokens : List Token}

/-- **How many tokens** the common table expressions take is found without a mishap. -/
theorem withEnd_eq (some : tokens ≠ []) : withEnd tokens = refusing (Statement.withEnd tokens) := by
  obtain ⟨t, ts, rfl⟩ := List.exists_cons_of_ne_nil some
  have hturns : ts.length < (t :: ts).length + 1 := by rw [List.length_cons]; omega
  exact withEndFrom_eq Nat.one_pos rfl rfl hturns

theorem fragment_eq (wanted : ExpressionKind → Bool) :
    fragment r wanted text = refusing (Statement.fragment r wanted text) := by
  unfold fragment Statement.fragment
  rcases r.statements text with _ | (_ | ⟨e, _ | ⟨e', es⟩⟩)
  · rfl
  · rfl
  · simp only [List.length_singleton, ne_eq, not_true_eq_false, if_false]
    rw [itemAt_eq (x := e) rfl, ok_bind]
    split <;> rfl
  · rfl

theorem textOf_eq (some : tokens ≠ []) :
    textOf text tokens = .ok (Statement.textOf text tokens) := by
  rw [textOf, bounds_eq some]
  rfl

theorem nodeOver_eq (some : tokens ≠ []) (p : Production) (e : Option Expression)
    (children : List Tree) :
    nodeOver p text tokens e children = .ok (Statement.nodeOver p text tokens e children) := by
  rw [nodeOver, bounds_eq some]
  rfl

theorem leaf_eq (some : tokens ≠ []) (p : Production) (wanted : ExpressionKind → Bool) :
    leaf r p wanted text tokens = refusing (Statement.leaf r p wanted text tokens) := by
  simp only [leaf, Statement.leaf, textOf_eq some, ok_bind, fragment_eq, nodeOver_eq some,
    refusing_bind]
  rfl

theorem withClause_eq (some : tokens ≠ []) :
    withClause r text tokens = refusing (Statement.withClause r text tokens) := by
  simp only [withClause, Statement.withClause, textOf_eq some, ok_bind, fragment_eq,
    nodeOver_eq some, refusing_bind]
  rfl

theorem inserts_eq {places : List Nat} (h : ∀ i ∈ places, i < tokens.length) :
    inserts tokens places =
      .ok (places.filter fun i => tokens[i]?.any fun t => decide (t.kind = .insert)) := by
  induction places with
  | nil => rfl
  | cons i more ih =>
    have hi := List.getElem?_eq_getElem (h i List.mem_cons_self)
    rw [inserts, itemAt_eq hi, ok_bind, ih fun j hj => h j (List.mem_cons_of_mem i hj), ok_bind,
      List.filter_cons, hi, Option.any_some]
    simp only [decide_eq_true_eq]
    rfl

/-- Insertions reach from each place to the next, so that none is without tokens. -/
theorem branches_eq {places : List Nat} (hasc : places.Pairwise (· < ·))
    (hin : ∀ i ∈ places, i < tokens.length) :
    branches r text tokens (places ++ [tokens.length]) =
      refusing (Statement.branches r text tokens places) := by
  induction places with
  | nil => rfl
  | cons i more ih =>
    have some := run_ne_nil hasc (hin i List.mem_cons_self)
    have hzip : (i :: more ++ [tokens.length]).zip (i :: more ++ [tokens.length]).tail =
        (i, more.head?.getD tokens.length) ::
          (more ++ [tokens.length]).zip (more ++ [tokens.length]).tail := by
      cases more <;> rfl
    have ih := ih (List.pairwise_cons.mp hasc).2 fun j hj => hin j (List.mem_cons_of_mem i hj)
    unfold branches at ih ⊢
    rw [hzip, List.mapM_cons, ih]
    dsimp only
    rw [leaf_eq some, Statement.branches]
    simp only [refusing_bind]
    rfl

theorem sourceEnd_eq (heads : List Nat) :
    sourceEnd tokens heads = .ok (heads.head?.getD tokens.length) := by
  cases heads <;> rfl

theorem selectsAt_eq (i : Nat) :
    selectsAt tokens i = .ok ((tokens.drop i).head?.any fun t => decide (t.kind = .select)) := by
  rw [selectsAt, List.head?_drop]
  split
  · next hi =>
    rw [itemAt_eq (List.getElem?_eq_getElem hi), List.getElem?_eq_getElem hi, Option.any_some]
    simp only [Except.map, beq_eq_decide]
  · next hi =>
    rw [List.getElem?_eq_none (by omega)]
    rfl

/-- A statement that begins with its source is laid out without a mishap, since no head is its
first token. -/
theorem fromStatement_eq (hfrom : BeginsWith (· = .from_) tokens) :
    fromStatement r text tokens = refusing (Statement.fromStatement r text tokens) := by
  unfold fromStatement Statement.fromStatement
  dsimp only
  set heads := topLevel (fun k => decide (k = .select) || decide (k = .insert)) tokens with hheads
  -- the places ascend, so that each branch has a token, and none of them is that of the source
  have hasc : heads.Pairwise (· < ·) := pairwise_topLevelFrom
  have hmem : ∀ i ∈ heads, ∃ u, tokens[i]? = some u ∧ (u.kind = .select ∨ u.kind = .insert) := by
    intro i hi
    simpa using getElem?_of_mem_topLevel hi
  clear_value heads
  have hin : ∀ i ∈ heads, i < tokens.length := by
    intro i hi
    obtain ⟨u, hu, -⟩ := hmem i hi
    exact (List.getElem?_eq_some_iff.mp hu).1
  have hsource := (beginsWith_source hfrom hmem).ne_nil
  simp only [sourceEnd_eq, ok_bind, textOf_eq hfrom.ne_nil, textOf_eq hsource, nodeOver_eq hsource,
    fragment_eq, inserts_eq hin, behindSource, selectsAt_eq]
  split
  · rfl
  · rw [refusing_bind]
    congr 1
    funext e
    set places := heads.filter fun i => tokens[i]?.any fun t => decide (t.kind = .insert)
      with hplaces
    split
    · next hselect =>
      have hrest := (beginsWith_iff_head?.mpr hselect).ne_nil
      rw [leaf_eq hrest]
      cases hempty : places.isEmpty with
      | true =>
        simp only [if_true, Bool.not_true, Bool.false_eq_true, if_false, refusing_bind]
        cases Statement.leaf r .fromRest (·.isQuery) text
            (tokens.drop (heads.head?.getD tokens.length)) with
        | error e => rfl
        | ok rest => exact nodeOver_eq hfrom.ne_nil _ _ _
      | false => rfl
    · rw [branches_eq (hasc.sublist List.filter_sublist)
        fun i hi => hin i (List.mem_of_mem_filter hi), refusing_bind]
      congr 1
      funext behind
      exact nodeOver_eq hfrom.ne_nil _ _ _

/-- Whether a statement is a query is found without a mishap. -/
theorem isQuery_eq (some : tokens ≠ []) : isQuery tokens = refusing (Statement.isQuery tokens) := by
  obtain ⟨t, ts, rfl⟩ := List.exists_cons_of_ne_nil some
  rw [isQuery, itemAt_eq (x := t) rfl, ok_bind, Statement.isQuery, List.head?_cons]
  dsimp only
  split
  · rw [withEnd_eq some]
    cases Statement.withEnd (t :: ts) with
    | error e => rfl
    | ok cut =>
      rw [refusing_ok, ok_bind]
      split
      · next hcut =>
        rw [itemAt_eq (List.getElem?_eq_getElem hcut)]
        simp only [Except.map, refusing_ok, List.getElem?_eq_getElem hcut, Option.any_some]
      · next hcut =>
        simp only [Except.map, refusing_ok, List.getElem?_eq_none (Nat.le_of_not_lt hcut),
          Option.any_none]
        rfl
  · rfl

/-- The main part of a query statement is laid out without a mishap. -/
theorem mainPart_eq {body : List Token} (some : tokens ≠ []) (hbody : body ≠ []) :
    mainPart r text tokens body = refusing (Statement.mainPart r text tokens body) := by
  obtain ⟨u, us, rfl⟩ := List.exists_cons_of_ne_nil hbody
  rw [mainPart, itemAt_eq (x := u) rfl, ok_bind, Statement.mainPart]
  simp only [List.head?_cons, Option.any_some, decide_eq_true_eq, textOf_eq some, ok_bind,
    fragment_eq, nodeOver_eq hbody]
  split
  · next hfrom => exact fromStatement_eq ⟨u, us, rfl, hfrom⟩
  · split
    · rw [refusing_bind]
      rfl
    · rw [refusing_bind]
      rfl

/-- A query statement is laid out without a mishap: its root has been found before, so that
something stands behind its common table expressions. -/
theorem queryStatement_eq (hquery : Statement.isQuery tokens = .ok true) :
    queryStatement r text tokens = refusing (Statement.queryStatement r text tokens) := by
  obtain ⟨t, ts, rfl⟩ : ∃ t ts, tokens = t :: ts := by
    cases tokens with
    | nil => cases hquery
    | cons t ts => exact ⟨t, ts, rfl⟩
  have some := List.cons_ne_nil t ts
  rw [queryStatement, itemAt_eq (x := t) rfl, ok_bind, Statement.queryStatement]
  simp only [List.head?_cons, Option.any_some, decide_eq_true_eq]
  split
  · next hwith =>
    rw [withEnd_eq some]
    cases hcut : Statement.withEnd (t :: ts) with
    | error e => rfl
    | ok cut =>
      obtain ⟨hfront, hhead⟩ := beginsWith_of_isQuery hquery ⟨t, ts, rfl, hwith⟩ hcut
      have hbody := hhead.ne_nil
      rw [refusing_ok, ok_bind, withClause_eq hfront]
      simp only [mainPart_eq some hbody, nodeOver_eq some, refusing_bind, ok_bind]
      rfl
  · rw [mainPart_eq some some, refusing_bind]
    congr 1
    funext main
    exact nodeOver_eq some _ _ _

end Parts

section Statements

variable {r : Reader} {text : List Char} {tokens : List Token}

/-- A token of a text stops inside it, so that the text is not empty. -/
theorem inside_of_stopsInside (hr : r.StopsInside) {t : Token} {ts : List Token}
    (htokens : r.tokens text = some (t :: ts)) : 0 < t.stop ∧ text ≠ [] := by
  obtain ⟨hpos, hle⟩ := hr text _ htokens t List.mem_cons_self
  exact ⟨hpos, List.length_pos_iff.mp (Nat.lt_of_lt_of_le hpos hle)⟩

/-- Behind the options of an explanation a shorter text is left each time, so that their loop
ends. -/
theorem behindOptions_eq (hr : r.StopsInside) {turns : Nat} (hturns : text.length < turns) :
    behindOptions r turns text = refusing (Statement.behindOptions r text) := by
  obtain ⟨turns, rfl⟩ := Nat.exists_eq_add_one_of_ne_zero (Nat.ne_zero_of_lt hturns)
  fun_induction Statement.behindOptions r text generalizing turns with
  | case1 text htokens =>
    rw [behindOptions, htokens]
    rfl
  | case2 text htokens =>
    rw [behindOptions, htokens]
    rfl
  | case3 text t ts htokens hoption hpos shorter ih =>
    obtain ⟨turns, rfl⟩ : ∃ k, turns = k + 1 := ⟨turns - 1, by omega⟩
    rw [behindOptions, htokens]
    simp only [List.isEmpty_cons, Bool.false_eq_true, if_false]
    rw [itemAt_eq (x := t) rfl, ok_bind, if_pos hoption, ih turns (by omega)]
    cases Statement.behindOptions r (text.drop t.stop) <;> rfl
  | case4 text t ts htokens hoption hpos => exact absurd (inside_of_stopsInside hr htokens) hpos
  | case5 text t ts htokens hoption =>
    rw [behindOptions, htokens]
    simp only [List.isEmpty_cons, Bool.false_eq_true, if_false]
    rw [itemAt_eq (x := t) rfl, ok_bind, if_neg hoption]
    rfl

/-- An explanation takes one turn, and what it explains the others. -/
theorem statement_of_explains (hr : r.StopsInside) {u : Token} {us : List Token} {turns : Nat}
    (hu : wordOf u = some "EXPLAIN") :
    statement r (turns + 1) text (u :: us) =
      refusing (Statement.behindOptions r ((text.take (extent (u :: us)).2).drop u.stop)) >>=
        fun x =>
          if x.2.2.isEmpty then
            .error (.refused (.nothingExplained (Statement.textOf text (u :: us))))
          else statement r turns x.2.1 x.2.2 >>= fun inner =>
            .ok (Statement.nodeOver .explainStatement text (u :: us) none
              [inner.shift (u.stop + x.1)]) := by
  have some := List.cons_ne_nil u us
  rw [statement, itemAt_eq (x := u) rfl, ok_bind, if_pos hu, bounds_eq some, ok_bind]
  dsimp only
  rw [behindOptions_eq hr (Nat.lt_succ_self _)]
  simp only [textOf_eq some, nodeOver_eq some, ok_bind]
  rfl

/-- **A statement** is laid out without a mishap: what an explanation explains is a shorter text. -/
theorem statement_eq (hr : r.StopsInside) {turns : Nat} (hturns : text.length < turns)
    (some : tokens ≠ []) (hin : ∀ t ∈ tokens, 0 < t.stop ∧ t.stop ≤ text.length) :
    statement r turns text tokens = refusing (Statement.statement r text tokens) := by
  obtain ⟨turns, rfl⟩ := Nat.exists_eq_add_one_of_ne_zero (Nat.ne_zero_of_lt hturns)
  fun_induction Statement.statement r text tokens generalizing turns with
  | case1 => exact absurd rfl some
  | case2 text u us hu start stop hextent body e =>
    rename_i hb
    rw [statement_of_explains hr hu, hextent, hb]
    rfl
  | case3 text u us hu start stop hextent body n rest =>
    rename_i hb
    rw [statement_of_explains hr hu, hextent, hb]
    rfl
  | case4 text u us hu start stop hextent body n rest v vs hb hlt shorter =>
    rename_i ih
    rw [statement_of_explains hr hu, hextent, hb]
    obtain ⟨turns, rfl⟩ : ∃ k, turns = k + 1 := ⟨turns - 1, by omega⟩
    have hinner := ih (List.cons_ne_nil v vs) (hr rest _ (behindOptions_eq_ok hb).2) turns
      (by omega)
    simp only [refusing_ok, ok_bind, List.isEmpty_cons, Bool.false_eq_true, if_false, hinner]
    cases Statement.statement r rest (v :: vs) <;> rfl
  | case5 text u us hu start stop hextent body n rest v vs hb =>
    rename_i hlt
    obtain ⟨hpos, hle⟩ := hin u List.mem_cons_self
    exact absurd ⟨hpos, List.length_pos_iff.mp (Nat.lt_of_lt_of_le hpos hle)⟩ hlt
  | case6 text u us hu =>
    rw [statement, itemAt_eq (x := u) rfl, ok_bind, if_neg hu, isQuery_eq some]
    cases hquery : Statement.isQuery (u :: us) with
    | error e => rfl
    | ok query =>
      cases query with
      | true => exact queryStatement_eq hquery
      | false => exact leaf_eq some _ _

/-- Statements one after another are laid out without a mishap. -/
theorem mapM_statement_eq (hr : r.StopsInside) {turns : Nat} (hturns : text.length < turns)
    {runs : List (List Token)} (some : ∀ run ∈ runs, run ≠ [])
    (hin : ∀ run ∈ runs, ∀ t ∈ run, 0 < t.stop ∧ t.stop ≤ text.length) :
    runs.mapM (statement r turns text) = refusing (runs.mapM (Statement.statement r text)) := by
  induction runs with
  | nil => rfl
  | cons run runs ih =>
    have ih := ih (fun run h => some run (List.mem_cons_of_mem _ h))
      fun run h => hin run (List.mem_cons_of_mem _ h)
    rw [List.mapM_cons, List.mapM_cons, ih, statement_eq hr hturns (some run List.mem_cons_self)
      (hin run List.mem_cons_self)]
    simp only [refusing_bind]
    rfl

/-- **A script** is laid out without a mishap. -/
theorem script_eq (hr : r.StopsInside) (text : List Char) :
    script r text = refusing (Statement.script r text) := by
  unfold script Statement.script
  cases htokens : r.tokens text with
  | none => rfl
  | some tokens =>
    dsimp only
    have within : ∀ run ∈ statements tokens, run <:+: tokens :=
      fun run hrun => (cut_statements tokens).isInfix_of_mem hrun
    have some : ∀ run ∈ statements tokens, run ≠ [] := by
      intro run hrun
      simpa using (List.mem_filter.mp hrun).2
    rw [mapM_statement_eq hr (Nat.lt_succ_self _) some
      fun run hrun t ht => hr text tokens htokens t ((within run hrun).mem ht), refusing_bind]
    congr 1
    funext parts
    split <;> rfl

end Statements

end Careful

end StatementShape.Statement
