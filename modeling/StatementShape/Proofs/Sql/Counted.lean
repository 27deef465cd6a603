import StatementShape.Proofs.Sql.Reading

/-!
# Tokens for left parentheses

A left parenthesis is a token by itself, so that the line and the column of the token, which are
those of the character read last, are those of the parenthesis.

## Main definitions

* `Token.IsParenthesis`: tokens over a left parenthesis
* `Scan.Counts`: a scan that has counted right

## Main results

* `Scan.Counts.of_extends`: whatever a step adds, it is counted right
* `isParenthesis_of_tokenize`: the tokens for left parentheses
-/

namespace StatementShape.Sql

/-- A token over a left parenthesis of a text. Its line and column are those of the parenthesis,
if no spelling is broken. -/
structure Token.IsParenthesis (lx : Lexical) (text : List Char) (t : Token) : Prop where
  char : text[t.start]? = some '('
  place : Unbroken lx text → placeOf text t.start = (t.line, t.column)

/-- A scan that has counted right, and whose tokens for left parentheses are over such. -/
structure Scan.Counts (lx : Lexical) (text : List Char) (s : Scan) : Prop where
  reads : Cursor.Reads (IsCounted lx text) { rest := text } s.cursor
  parentheses : ∀ t ∈ s.tokens, t.kind = .lParen → t.IsParenthesis lx text

namespace Scan.Counts

variable {lx : Lexical} {text chars : List Char} {s s' : Scan} {c : Cursor} {kind : TokenKind}
  {i : Nat}

theorem move (h : s.Counts lx text) (hc : s.cursor.Reads (IsCounted lx text) c) :
    Counts lx text { s with cursor := c } :=
  ⟨h.reads.trans hc, h.parentheses⟩

/-- A token makes no difference, unless it is for a left parenthesis. -/
theorem emit (h : s.Counts lx text)
    (hparen : kind = .lParen → ∀ t ∈ (s.emit i kind chars).tokens.head?, t.IsParenthesis lx text) :
    (s.emit i kind chars).Counts lx text where
  reads := h.reads
  parentheses t ht hkind := by
    rcases List.mem_cons.mp ht with rfl | ht
    · exact hparen hkind _ rfl
    · exact h.parentheses t ht hkind

theorem emit_of_ne (h : s.Counts lx text) (hkind : kind ≠ .lParen) :
    (s.emit i kind chars).Counts lx text :=
  h.emit fun hparen => absurd hparen hkind

/-- A mark is a token by itself. -/
theorem isParenthesis_of_mark (h : s.Counts lx text) (hlx : lx.StaysInLine)
    (hc : s.cursor.advance 1 = some c) (hx : c.last = some '(') {t : Token}
    (ht : t ∈ (Scan.emit { s with cursor := c } s.cursor.offset kind chars).tokens.head?) :
    t.IsParenthesis lx text := by
  cases ht
  obtain ⟨front, htext, hoffset, hplace⟩ :=
    exists_front (h.reads.trans (Cursor.Reads.of_advance_one hc)) hx
  have hstart : s.cursor.offset = front.length := by
    have hadvance := (Cursor.advance_spec hc).1
    omega
  refine ⟨?_, fun hunbroken => ?_⟩
  · change text[s.cursor.offset]? = some '('
    rw [hstart, htext, List.getElem?_append_right (Nat.le_refl _), Nat.sub_self]
    rfl
  · exact (congrArg (placeOf text) hstart).trans (hplace ⟨hlx, hunbroken⟩)

/-- **Whatever a step adds**, it is counted right. -/
theorem of_extends (h : s.Counts lx text) (hlx : lx.StaysInLine) (hs : s.Extends lx text s') :
    s'.Counts lx text := by
  cases hs with
  | move read => exact h.move read
  | token read more mark =>
    refine (h.move read).emit fun hparen t ht => ?_
    obtain ⟨hc, hx⟩ := mark hlx hparen
    exact h.isParenthesis_of_mark hlx hc hx ht
  | suffixed read more =>
    exact (((h.move read).emit_of_ne (by decide)).emit_of_ne (by decide)).emit_of_ne (by decide)

/-- A whole scan counts right. -/
theorem run (h : s.Counts lx text) (hlx : lx.StaysInLine) {toSemicolon : Bool} {fuel : Nat}
    (hread : Scan.run lx toSemicolon fuel s = some s') : s'.Counts lx text := by
  have hextends := extends_run h.reads hread
  clear hread
  induction hextends with
  | refl => exact h
  | tail _ hlast ih => exact ih.of_extends hlx hlast

end Scan.Counts

/-- **The tokens for left parentheses** of a text, in every dialect. -/
theorem isParenthesis_of_tokenize {d : Dialect} {text : List Char} {tokens : List Token}
    (h : tokenize d.lexical text = some tokens) {t : Token} (ht : t ∈ tokens)
    (hkind : t.kind = .lParen) : t.IsParenthesis d.lexical text := by
  obtain ⟨reversed, htokens, rfl⟩ := Option.map_eq_some_iff.mp h
  obtain ⟨s, hrun, rfl⟩ := Option.map_eq_some_iff.mp htokens
  have hstart : Scan.Counts d.lexical text { cursor := { rest := text } } :=
    ⟨Cursor.Reads.refl _, fun t ht => nomatch ht⟩
  exact (hstart.run (staysInLine_lexical d) hrun).parentheses t (List.mem_reverse.mp ht) hkind

end StatementShape.Sql
