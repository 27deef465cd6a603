import StatementShape.Proofs.Sql.Order
import StatementShape.Proofs.Sql.Reading

/-!
# Scans in order

The lexer moves a cursor through a text and never back, and each token reaches from where a step
began to where the cursor is then. So the tokens of a text are in order, in every dialect.

## Main definitions

* `Cursor.Reaches`: a place at or behind another
* `Scan.Ordered`: a scan whose tokens are in order, up to its place
* `Scan.Leads`: what one scan keeps of another that it comes from

## Main results

* `Scan.leads_of_extends`, `Scan.leads_run`: a step keeps a scan in order, and so does a whole scan
* `keepsOrder_reader`: every dialect cuts texts into tokens in order
-/

namespace StatementShape.Sql

open Text

/-! ### Places -/

/-- A place at or behind another in one text. -/
structure Cursor.Reaches (c d : Cursor) : Prop where
  le : c.offset ≤ d.offset
  total : d.offset + d.rest.length = c.offset + c.rest.length

namespace Cursor.Reaches

variable {counted : Prop} {c d e : Cursor}

theorem refl (c : Cursor) : c.Reaches c := ⟨Nat.le_refl _, rfl⟩

theorem trans (h : c.Reaches d) (h' : d.Reaches e) : c.Reaches e :=
  ⟨h.le.trans h'.le, h'.total.trans h.total⟩

/-- What is read is read forwards. -/
theorem of_reads (h : c.Reads counted d) : c.Reaches d := ⟨h.le, h.total⟩

end Cursor.Reaches

/-! ### Scans -/

/-- A scan in order: its place lies in the text, and its tokens are in order and stop in front
of it. -/
structure Scan.Ordered (text : List Char) (s : Scan) : Prop where
  place : s.cursor.offset + s.cursor.rest.length = text.length
  order : InOrder text s.tokens.reverse
  behind : ∀ t ∈ s.tokens.head?, t.stop ≤ s.cursor.offset

/-- One scan leads to another if it stays in order and does not move back. -/
structure Scan.Leads (text : List Char) (s s' : Scan) : Prop where
  reaches : s.cursor.Reaches s'.cursor
  ordered : s.Ordered text → s'.Ordered text

namespace Scan

variable {lx : Lexical} {text : List Char} {s s' s'' : Scan} {c : Cursor}

theorem Leads.trans (h : s.Leads text s') (h' : s'.Leads text s'') : s.Leads text s'' :=
  ⟨h.reaches.trans h'.reaches, h'.ordered ∘ h.ordered⟩

/-- Moving on keeps the tokens in order. -/
theorem leads_move (h : s.cursor.Reaches c) : s.Leads text { s with cursor := c } where
  reaches := h
  ordered ho :=
    { place := h.total.trans ho.place
      order := ho.order
      behind := fun t ht => (ho.behind t ht).trans h.le }

/-- A token from one place to a later one keeps the tokens in order. -/
theorem leads_emit (h : s.cursor.Reaches c) (hlt : s.cursor.offset < c.offset) (kind : TokenKind)
    (chars : List Char) :
    s.Leads text (emit { s with cursor := c } s.cursor.offset kind chars) where
  reaches := h
  ordered ho := by
    have hplace := h.total.trans ho.place
    refine ⟨hplace, ?_, ?_⟩
    · -- the tokens are kept newest first, so the new one stands behind the head of the list
      rw [emit, List.reverse_cons]
      refine ho.order.concat ?_ (fun _ => hlt) ?_
      · intro t ht
        rw [List.getLast?_reverse] at ht
        have hle := ho.behind t ht
        exact ⟨hle.trans hlt.le, Or.inr ⟨hle, hlt⟩⟩
      · show c.offset ≤ text.length
        omega
    · intro t ht
      cases ht
      exact Nat.le_refl _

/-- A part of a number keeps the tokens in order. -/
theorem leads_emit_part {k kind : TokenKind} (hlast : s.lastKind? = some k) (hk : k ≠ .semicolon)
    (hpart : kind = .dcolon ∨ kind = .type) (start : Nat) (chars : List Char) :
    s.Leads text (s.emit start kind chars) where
  reaches := Cursor.Reaches.refl _
  ordered ho := by
    obtain ⟨t, ht, rfl⟩ := Option.map_eq_some_iff.mp hlast
    refine ⟨ho.place, ?_, ?_⟩
    · rw [emit, List.reverse_cons]
      apply ho.order.concat
      · intro u hu
        rw [List.getLast?_reverse, ht] at hu
        cases hu
        exact ⟨ho.behind t ht, Or.inl ⟨hk, Or.inr hpart⟩⟩
      · intro hnil
        rw [List.reverse_eq_nil_iff.mp hnil] at ht
        cases ht
      · have hplace := ho.place
        show s.cursor.offset ≤ text.length
        omega
    · intro u hu
      cases hu
      exact Nat.le_refl _

/-- **Whatever a step adds**, it keeps a scan in order, and does not move back. -/
theorem leads_of_extends (h : s.Extends lx text s') : s.Leads text s' := by
  cases h with
  | move read => exact leads_move (.of_reads read)
  | token read more mark => exact leads_emit (.of_reads read) more _ _
  | @suffixed c chars suffix read more =>
    -- the number, two colons and the suffix are emitted with one extent, one over another
    have hnumber : s.Leads text _ := leads_emit (.of_reads read) more .number chars
    have hcolons := hnumber.trans
      (leads_emit_part (k := .number) rfl (by decide) (Or.inl rfl) s.cursor.offset [':', ':'])
    exact hcolons.trans
      (leads_emit_part (k := .dcolon) rfl (by decide) (Or.inr rfl) s.cursor.offset suffix)

/-- **A whole scan** keeps a scan in order, and does not move back. -/
theorem leads_run {toSemicolon : Bool} {fuel : Nat}
    (hs : Cursor.Reads (IsCounted lx text) { rest := text } s.cursor)
    (h : run lx toSemicolon fuel s = some s') : s.Leads text s' := by
  have hextends := extends_run hs h
  clear h
  induction hextends with
  | refl => exact leads_move (.refl _)
  | tail _ hlast ih => exact ih.trans (leads_of_extends hlast)

end Scan

/-- **Every dialect** cuts texts into tokens in order. -/
theorem keepsOrder_reader (d : Dialect) : d.reader.KeepsOrder := by
  intro text tokens h
  obtain ⟨reversed, htokens, rfl⟩ := Option.map_eq_some_iff.mp h
  obtain ⟨s, hrun, rfl⟩ := Option.map_eq_some_iff.mp htokens
  have hstart : Scan.Ordered text { cursor := { rest := text } } :=
    { place := Nat.zero_add _
      order := ⟨by simp, by simp, by simp⟩
      behind := by simp }
  exact ((Scan.leads_run (.refl _) hrun).ordered hstart).order

end StatementShape.Sql
