import StatementShape.Sql.Reader
import StatementShape.Statement.SyntaxError
import StatementShape.Statement.Tree

/-!
# Scripts

A script is cut at its semicolons, and each statement is laid out as a tree. Which production a
statement is can be told from its tokens; the SQL of its fragments is checked by a reader of SQL,
which also says what kind of expression a fragment spells.

The text behind `EXPLAIN`, and behind each option word of it, is cut into tokens afresh, since that
word may have taken all of the text as one token.

## Main definitions

* `withEnd`: how many tokens the common table expressions in front of a statement take
* `topLevel`: the places of tokens outside all parentheses
* `statement`: the tree of one statement
* `script`: the tree of a script
-/

namespace StatementShape.Statement

open Sql (Token TokenKind Reader Expression ExpressionKind)
open Text (Span)

/-! ### Tokens -/

/-- The words that may stand between `EXPLAIN` and what it explains. -/
def explainOptions : List String :=
  ["ANALYZE", "AST", "AUTHORIZATION", "CBO", "DEPENDENCY", "EXTENDED", "FORMATTED", "LOGICAL",
    "VECTORIZATION"]

/-- The word of a token, in capitals, if it is neither a string nor a quoted identifier. -/
def wordOf (t : Token) : Option String :=
  if t.isWord then some (Text.upper t.text.toList) else none

/-- Whether a token is an option of `EXPLAIN`. -/
def isExplainOption (t : Token) : Bool := (wordOf t).any explainOptions.contains

/-- Whether a token begins a query statement. -/
def isQueryHead : TokenKind → Bool
  | .select | .from_ | .insert | .lParen => true
  | _ => false

/-- Where some tokens start and stop in their text. -/
def extent (tokens : List Token) : Nat × Nat :=
  ((tokens.head?.map (·.start)).getD 0, (tokens.getLast?.map (·.stop)).getD 0)

/-- The text of some tokens, with all that stands between them. -/
def textOf (text : List Char) (tokens : List Token) : List Char :=
  (text.take (extent tokens).2).drop (extent tokens).1

/-- Groups of tokens between semicolons, the empty ones left out. -/
def statements (tokens : List Token) : List (List Token) :=
  (tokens.splitOnP fun t => t.kind = .semicolon).filter fun group => !group.isEmpty

/-! ### Parentheses -/

/-- How many tokens there are up to the one that closes `depth` open parentheses, if there is
one. -/
def closing : Nat → List Token → Option Nat
  | _, [] => none
  | depth, t :: ts =>
    if t.kind = .lParen then (closing (depth + 1) ts).map (· + 1)
    else if t.kind = .rParen then
      if depth ≤ 1 then some 1 else (closing (depth - 1) ts).map (· + 1)
    else (closing depth ts).map (· + 1)

/-- A closing parenthesis lies behind at least one token, and within the tokens. -/
theorem closing_pos {depth : Nat} {ts : List Token} {n : Nat} (h : closing depth ts = some n) :
    0 < n ∧ n ≤ ts.length := by
  induction ts generalizing depth n with
  | nil => simp [closing] at h
  | cons t ts ih =>
    unfold closing at h
    split at h
    · obtain ⟨m, hm, rfl⟩ := Option.map_eq_some_iff.1 h
      have := ih hm
      simp only [List.length_cons]; omega
    · split at h
      · split at h
        · cases h; simp
        · obtain ⟨m, hm, rfl⟩ := Option.map_eq_some_iff.1 h
          have := ih hm
          simp only [List.length_cons]; omega
      · obtain ⟨m, hm, rfl⟩ := Option.map_eq_some_iff.1 h
        have := ih hm
        simp only [List.length_cons]; omega

/-- Whether a parenthesis behind a token encloses a common table expression. Any other one
encloses names of columns. -/
def opensTable (before : Token) : Bool :=
  (wordOf before).any fun w => w == "AS" || w == "MATERIALIZED"

/-- The end of common table expressions among tokens that stand behind `before` at place `i`:
the place behind the first of them that no comma follows. -/
def withEndFrom (before : Token) (tokens : List Token) (i : Nat) : Except SyntaxError Nat :=
  match tokens with
  | [] => .error .withAlone
  | t :: ts =>
    if t.kind = .lParen then
      match h : closing 0 (t :: ts) with
      | none => .error (.unclosed t.line t.column)
      | some n =>
        match hr : (t :: ts).drop n with
        | [] => if opensTable before then .ok (i + n) else .error .withAlone
        | c :: rest =>
          have shorter : rest.length < ts.length := by
            have hlen := congrArg List.length hr
            have hpos := closing_pos h
            simp only [List.length_drop, List.length_cons] at hlen hpos
            omega
          if opensTable before then
            if c.kind = .comma then withEndFrom c rest (i + n + 1) else .ok (i + n)
          else
            let last := ((t :: ts).take n).getLast?.getD t
            withEndFrom last (c :: rest) (i + n)
    else withEndFrom t ts (i + 1)
termination_by tokens.length
decreasing_by all_goals simp only [List.length_cons]; omega

/-- How many tokens the common table expressions take at the front of a statement. -/
def withEnd : List Token → Except SyntaxError Nat
  | [] => .error .withAlone
  | t :: ts => withEndFrom t ts 1

/-- The places of tokens of some kinds outside all parentheses, where `depth` parentheses are
open in front of place `i`. -/
def topLevelFrom (wanted : TokenKind → Bool) : List Token → Int → Nat → List Nat
  | [], _, _ => []
  | t :: ts, depth, i =>
    if t.kind = .lParen then topLevelFrom wanted ts (depth + 1) (i + 1)
    else if t.kind = .rParen then topLevelFrom wanted ts (depth - 1) (i + 1)
    else if depth = 0 ∧ wanted t.kind then i :: topLevelFrom wanted ts depth (i + 1)
    else topLevelFrom wanted ts depth (i + 1)

/-- The places of tokens of some kinds outside all parentheses. -/
def topLevel (wanted : TokenKind → Bool) (tokens : List Token) : List Nat :=
  topLevelFrom wanted tokens 0 0

/-! ### Fragments -/

/-- The one statement that a text spells, if it is of the kinds that are wanted. -/
def fragment (r : Reader) (wanted : ExpressionKind → Bool) (text : List Char) :
    Except SyntaxError Expression :=
  match r.statements text with
  | none => .error (.unreadable text)
  | some [e] => if wanted e.kind then .ok e else .error (.misplaced text)
  | some _ => .error (.misplaced text)

/-- A fragment of a wanted kind has that kind. -/
theorem kind_of_fragment {r : Reader} {wanted : ExpressionKind → Bool} {text : List Char}
    {e : Expression} (h : fragment r wanted text = .ok e) : wanted e.kind = true := by
  unfold fragment at h
  split at h
  · cases h
  · split at h
    · next hw => cases h; exact hw
    · cases h
  · cases h

/-- A node over some tokens. -/
def nodeOver (p : Production) (text : List Char) (tokens : List Token)
    (expression : Option Expression) (children : List Tree) : Tree :=
  let (start, stop) := extent tokens
  .node p { start, stop } (textOf text tokens) expression children

/-- A leaf over some tokens, whose text spells a fragment of its own. -/
def leaf (r : Reader) (p : Production) (wanted : ExpressionKind → Bool) (text : List Char)
    (tokens : List Token) : Except SyntaxError Tree := do
  let e ← fragment r wanted (textOf text tokens)
  return nodeOver p text tokens (some e) []

/-! ### Statements -/

/-- Common table expressions are checked in front of a selection of one. -/
def withClause (r : Reader) (text : List Char) (tokens : List Token) :
    Except SyntaxError Tree := do
  let e ← fragment r (· == .select) (textOf text tokens ++ " SELECT 1".toList)
  return nodeOver .withClause text tokens (e.find? .with_) []

/-- Insertions behind a source, one from each place up to the next. -/
def branches (r : Reader) (text : List Char) (tokens : List Token) :
    List Nat → Except SyntaxError (List Tree)
  | [] => .ok []
  | i :: more => do
    let stop := more.head?.getD tokens.length
    let branch ← leaf r .multiInsertBranch (· == .insert) text ((tokens.take stop).drop i)
    return branch :: (← branches r text tokens more)

/-- A statement that begins with its source: behind it one selection, or insertions, or
nothing. -/
def fromStatement (r : Reader) (text : List Char) (tokens : List Token) :
    Except SyntaxError Tree := do
  let heads := topLevel (fun k => k = .select || k = .insert) tokens
  let cut := heads.head?.getD tokens.length
  if cut = 1 then throw (.noSource (textOf text tokens))
  let source := tokens.take cut
  let e ← fragment r (· == .select) ("SELECT * ".toList ++ textOf text source)
  let clause := nodeOver .fromClause text source (e.find? .from_) []
  let inserts := heads.filter fun i => tokens[i]?.any (·.kind = .insert)
  let rest := tokens.drop cut
  let behind ←
    if rest.head?.any (·.kind = .select) then
      if !inserts.isEmpty then throw (.mixedBranches (textOf text tokens))
      pure [← leaf r .fromRest (·.isQuery) text rest]
    else branches r text tokens inserts
  return nodeOver .fromStatement text tokens none (clause :: behind)

/-- Whether a statement is rooted in a query: by its first token, or by the one behind its
common table expressions. -/
def isQuery (tokens : List Token) : Except SyntaxError Bool :=
  match tokens.head? with
  | none => .ok false
  | some t =>
    if t.kind = .with_ then
      (withEnd tokens).map fun cut => tokens[cut]?.any fun u => isQueryHead u.kind
    else .ok (isQueryHead t.kind)

/-- The main part of a query statement: an insertion, a statement that begins with its source,
or else a selection. A selection and an insertion are read together with the common table
expressions in front of them. -/
def mainPart (r : Reader) (text : List Char) (tokens body : List Token) :
    Except SyntaxError Tree := do
  if body.head?.any (·.kind = .from_) then fromStatement r text body
  else if body.head?.any (·.kind = .insert) then
    let e ← fragment r (· == .insert) (textOf text tokens)
    return nodeOver .insertStatement text body (some e) []
  else
    let e ← fragment r (·.isQuery) (textOf text tokens)
    return nodeOver .selectQueryStatement text body (some e) []

/-- A query statement: common table expressions, if there are any, and its main part. -/
def queryStatement (r : Reader) (text : List Char) (tokens : List Token) :
    Except SyntaxError Tree := do
  if tokens.head?.any (·.kind = .with_) then
    let cut ← withEnd tokens
    let clause ← withClause r text (tokens.take cut)
    let main ← mainPart r text tokens (tokens.drop cut)
    return nodeOver .queryStatement text tokens none [clause, main]
  else
    let main ← mainPart r text tokens tokens
    return nodeOver .queryStatement text tokens none [main]

/-- What stands behind the option words at the front of a text: its offset, the text, and its
tokens. -/
def behindOptions (r : Reader) (text : List Char) :
    Except SyntaxError (Nat × List Char × List Token) :=
  match r.tokens text with
  | none => .error (.unreadable text)
  | some [] => .ok (0, text, [])
  | some (t :: ts) =>
    if isExplainOption t then
      if h : 0 < t.stop ∧ text ≠ [] then
        have : (text.drop t.stop).length < text.length := by
          have := List.length_pos_iff.2 h.2
          simp only [List.length_drop]; omega
        (behindOptions r (text.drop t.stop)).map fun (n, rest, tokens) => (t.stop + n, rest, tokens)
      else .error (.unreadable text)
    else .ok (0, text, t :: ts)
termination_by text.length

/-- The text behind option words is no longer than the text. -/
theorem length_behindOptions {r : Reader} {text : List Char} {n : Nat} {rest : List Char}
    {tokens : List Token} (h : behindOptions r text = .ok (n, rest, tokens)) :
    rest.length ≤ text.length := by
  fun_induction behindOptions r text generalizing n rest tokens with
  | case1 => cases h
  | case2 => cases h; exact Nat.le_refl _
  | case3 text t ts _ _ hpos shorter ih =>
    cases hb : behindOptions r (text.drop t.stop) with
    | error e => rw [hb] at h; cases h
    | ok v =>
      obtain ⟨m, rest', tokens'⟩ := v
      rw [hb] at h
      cases h
      exact Nat.le_trans (ih hb) (Nat.le_of_lt shorter)
  | case4 => cases h
  | case5 => cases h; exact Nat.le_refl _

/-- The tree of one statement, given by its tokens in a text. -/
def statement (r : Reader) (text : List Char) (tokens : List Token) : Except SyntaxError Tree :=
  match tokens with
  | [] => .error (.unreadable [])
  | t :: ts =>
    if wordOf t = some "EXPLAIN" then
      let (_, stop) := extent (t :: ts)
      let body := (text.take stop).drop t.stop
      match hb : behindOptions r body with
      | .error e => .error e
      | .ok (_, _, []) => .error (.nothingExplained (textOf text (t :: ts)))
      | .ok (n, rest, u :: us) =>
        if hlt : 0 < t.stop ∧ text ≠ [] then
          have : rest.length < text.length := by
            have hle := length_behindOptions hb
            have := List.length_pos_iff.2 hlt.2
            simp only [body, List.length_drop, List.length_take] at hle
            omega
          (statement r rest (u :: us)).map fun inner =>
            nodeOver .explainStatement text (t :: ts) none [inner.shift (t.stop + n)]
        else .error (.unreadable text)
    else
      (isQuery (t :: ts)).bind fun query =>
        if query then queryStatement r text (t :: ts)
        else leaf r .utilityStatement (fun _ => true) text (t :: ts)
termination_by text.length

/-- The tree of a script: at least one statement between its semicolons. -/
def script (r : Reader) (text : List Char) : Except SyntaxError Tree :=
  match r.tokens text with
  | none => .error (.unreadable text)
  | some tokens =>
    (statements tokens).mapM (statement r text) >>= fun parts =>
      if parts.isEmpty then .error (.noStatement text)
      else .ok (.node .script { start := 0, stop := text.length } text none parts)

end StatementShape.Statement
