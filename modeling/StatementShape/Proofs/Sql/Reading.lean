import Mathlib.Logic.Relation
import StatementShape.Proofs.Sql.Marks

/-!
# What the lexer reads

The lexer moves a cursor through a text and never back. Whatever a step reads, it moves the cursor,
and emits one token from where it began to where the cursor is then, or three for a number with a
suffix. What holds of a scan is proved for these cases.

## Main definitions

* `Cursor.Reads`: a place that is reached by reading
* `Scan.Extends`: what one scan adds to another

## Main results

* `Cursor.Reads.of_advance`: reading some characters of which only the last may end a line
* `Scan.extends_step`, `Scan.extends_run`: what a step adds, and a whole scan
-/

namespace StatementShape.Sql

open Text

/-! ### Reading -/

/-- A place that is reached by reading what lies between. If `counted` holds, its line and
column are those of the character read last. -/
structure Cursor.Reads (counted : Prop) (c d : Cursor) : Prop where
  between : ∃ read, c.rest = read ++ d.rest ∧ d.offset = c.offset + read.length ∧
    d.last = read.getLast?.or c.last ∧
    (counted → (d.line, d.column) = placeBehind (c.line, c.column) c.last read)

namespace Cursor.Reads

variable {counted : Prop} {lx : Lexical} {rule : QuoteRule} {c d e : Cursor} {cs read : List Char}
  {n : Nat}

theorem refl (c : Cursor) : c.Reads counted c := ⟨[], rfl, rfl, rfl, fun _ => rfl⟩

theorem trans (h : c.Reads counted d) (h' : d.Reads counted e) : c.Reads counted e := by
  obtain ⟨a, harest, haoffset, halast, haplace⟩ := h.between
  obtain ⟨b, hbrest, hboffset, hblast, hbplace⟩ := h'.between
  refine ⟨a ++ b, ?_, ?_, ?_, fun hcounted => ?_⟩
  · rw [harest, hbrest, List.append_assoc]
  · rw [hboffset, haoffset, List.length_append, Nat.add_assoc]
  · rw [hblast, halast, List.getLast?_append, Option.or_assoc]
  · rw [hbplace hcounted, halast, haplace hcounted, placeBehind_append]

/-- The place behind a character and some more behind it, if it does not end a line with them. -/
theorem place_succ (c : Cursor) {x : Char} {k : Nat} (hrest : c.rest.head? = some x)
    (hline : isLineEnd x = true → k = 0) :
    c.place (k + 1) = ((nextPlace (c.line, c.column) c.last x).1,
      (nextPlace (c.line, c.column) c.last x).2 + k) := by
  unfold Cursor.place nextPlace
  rw [hrest]
  split
  · next hlast hnext =>
    -- both characters together end one line
    obtain rfl := Option.some.inj hnext
    obtain rfl := hline rfl
    simp [hlast]
  · next hlast hnext =>
    rw [hlast, if_neg fun h => hnext (congrArg some h.2), if_pos (by decide), Nat.add_comm k]
  · next hlast =>
    rw [hlast, if_neg fun h => absurd h.1 (by decide), if_pos (by decide), Nat.add_comm k]
  · next hreturn hfeed _ =>
    have hplain : c.last.any isLineEnd = false := by
      cases hlast : c.last with
      | none => rfl
      | some y =>
        have hy : y ≠ '\n' ∧ y ≠ '\r' :=
          ⟨fun h => hfeed (h ▸ hlast), fun h => hreturn (h ▸ hlast)⟩
        simp [isLineEnd, hy.1, hy.2]
    have hnext := nextPlace_of_not_isLineEnd hplain (c.line, c.column) x
    rw [nextPlace] at hnext
    rw [hnext, Nat.add_comm k, Nat.add_assoc]

/-- The place behind some characters of which only the last may end a line. -/
theorem place_eq (c : Cursor) {x : Char} {xs : List Char} (hrest : c.rest.head? = some x)
    (h : InLine (x :: xs).dropLast) :
    c.place (xs.length + 1) = placeBehind (c.line, c.column) c.last (x :: xs) := by
  have hline : isLineEnd x = true → xs.length = 0 := by
    intro hend
    cases xs with
    | nil => rfl
    | cons y ys =>
      rw [h x List.mem_cons_self] at hend
      cases hend
  rw [place_succ c hrest hline, placeBehind, placeBehind_of_line _ x h]

/-- **Reading some characters** of which only the last may end a line. -/
theorem of_advance (h : c.advance n = some d) (hline : counted → InLine (c.rest.take (n - 1))) :
    c.Reads counted d := by
  unfold Cursor.advance at h
  split at h
  · cases h
    exact refl c
  split at h
  · next hn hle =>
    cases h
    obtain ⟨x, xs, hread⟩ := List.exists_cons_of_ne_nil (l := c.rest.take n) fun hnil => by
      have hlength := congrArg List.length hnil
      rw [List.length_take, List.length_nil] at hlength
      omega
    have hlength : xs.length + 1 = n := by
      have hlength := congrArg List.length hread
      rw [List.length_take, List.length_cons] at hlength
      omega
    have hhead : c.rest.head? = some x := by
      rw [← List.take_append_drop n c.rest, hread, List.cons_append, List.head?_cons]
    refine ⟨c.rest.take n, (List.take_append_drop n c.rest).symm, ?_, ?_, fun hcounted => ?_⟩
    · rw [List.length_take_of_le hle]
    · rw [hread, List.getLast?_cons, Option.some_or]
    · have hbefore : InLine (x :: xs).dropLast := by
        rw [← hread, List.dropLast_eq_take, List.take_take, List.length_take_of_le hle,
          Nat.min_eq_left (Nat.sub_le n 1)]
        exact hline hcounted
      rw [hread, ← place_eq c hhead hbefore, hlength]
      rfl
  · cases h

/-- Reading one character, whatever it is. -/
theorem of_advance_one (h : c.advance 1 = some d) : c.Reads counted d :=
  of_advance h fun _ => inLine_before_one _

theorem of_advanceWhile (p : Char → Bool) (n : Nat) (c : Cursor) :
    c.Reads counted (c.advanceWhile p n) := by
  induction n generalizing c with
  | zero => exact refl c
  | succ n ih =>
    unfold Cursor.advanceWhile
    split
    · split
      · cases hd : c.advance 1 with
        | none => exact refl c
        | some d => exact (of_advance_one hd).trans (ih d)
      · exact refl c
    · exact refl c

/-- A mark that stands at the character read last is behind it but for its first character. -/
theorem inLine_of_at? (h : c.at? cs = true) (hline : InLine cs) :
    InLine (c.rest.take (cs.length - 1)) := by
  unfold Cursor.at? at h
  split at h
  · next x hx =>
    rw [beq_iff_eq] at h
    cases cs with
    | nil => exact inLine_nil
    | cons y ys =>
      rw [List.length_cons, List.take_succ_cons, List.cons.injEq] at h
      rw [List.length_cons, Nat.add_sub_cancel, h.2]
      exact fun z hz => hline z (List.mem_cons_of_mem _ hz)
  · cases h

/-- Reading a mark within a line, or some characters less. -/
theorem of_mark (h : counted → c.at? cs = true) (hline : counted → InLine cs) (hn : n ≤ cs.length)
    (hd : c.advance n = some d) : c.Reads counted d := by
  refine of_advance hd fun hcounted x hx => inLine_of_at? (h hcounted) (hline hcounted) x ?_
  exact List.take_subset_take_left _ (Nat.sub_le_sub_right hn 1) hx

theorem inLine_take_one {p : Char → Bool} (hp : ∀ y, p y = true → isLineEnd y = false)
    (h : cs.head?.any p = true) : InLine (cs.take 1) := by
  cases cs with
  | nil => exact inLine_nil
  | cons y ys => exact List.forall_mem_singleton.mpr (hp y h)

theorem isLineEnd_of_sequenceLetter (y : Char) (hy : sequenceLetters.contains y = true) :
    isLineEnd y = false := by
  have hall : InLine sequenceLetters := by decide
  exact hall y (List.contains_iff_mem.mp hy)

/-- Quoted text is read character by character, or by an escape and what it escapes: a letter, a
mark or another escape. -/
theorem of_quoted {fuel : Nat} {text : List Char} {closed : Bool}
    (hclosing : counted → InLine rule.closing) (hescapes : counted → InLine rule.escapes)
    (h : quoted lx rule fuel c text = some (read, d, closed)) : c.Reads counted d := by
  induction fuel generalizing c text with
  | zero => cases h
  | succ fuel ih =>
    have later : ∀ {n : Nat} {more : List Char}, (counted → InLine (c.rest.take (n - 1))) →
        ((c.advance n).bind fun e => quoted lx rule fuel e more) = some (read, d, closed) →
          c.Reads counted d := by
      intro n more hline h
      obtain ⟨e, he, h⟩ := Option.bind_eq_some_iff.mp h
      exact (of_advance he hline).trans (ih h)
    unfold quoted at h
    obtain ⟨x, -, h⟩ := Option.bind_eq_some_iff.mp h
    dsimp only at h
    split at h
    · next hsequence =>
      rw [Bool.and_eq_true] at hsequence
      exact later (fun _ => inLine_take_one isLineEnd_of_sequenceLetter hsequence.2) h
    split at h
    · next hescapes' =>
      rw [Bool.and_eq_true, Bool.and_eq_true] at hescapes'
      have hmarks : counted → ∀ y, (rule.closing == [y] || rule.escapes.contains y) = true →
          isLineEnd y = false := by
        intro hcounted y hy
        rw [Bool.or_eq_true, List.contains_iff_mem, beq_iff_eq] at hy
        rcases hy with hy | hy
        · exact hclosing hcounted y (hy ▸ List.mem_singleton_self y)
        · exact hescapes hcounted y hy
      split at h
      · exact later (fun hcounted => inLine_take_one (hmarks hcounted) hescapes'.1.2) h
      · cases h
    split at h
    · next hat =>
      obtain ⟨e, he, h⟩ := Option.bind_eq_some_iff.mp h
      cases h
      exact of_mark (fun _ => hat) hclosing (Nat.sub_le _ 1) he
    split at h
    · cases h
      exact refl _
    · exact later (fun _ => inLine_before_one _) h

theorem of_closedQuote {opening : Nat}
    (hopening : counted → InLine (c.rest.take (opening - 1)))
    (hclosing : counted → InLine rule.closing) (hescapes : counted → InLine rule.escapes)
    (h : closedQuote lx rule opening c = some (read, d)) : c.Reads counted d := by
  obtain ⟨inside, hinside, h⟩ := Option.bind_eq_some_iff.mp h
  obtain ⟨⟨text, place, closed⟩, hquoted, h⟩ := Option.bind_eq_some_iff.mp h
  dsimp only at h
  split at h
  · cases h
    exact (of_advance hinside hopening).trans (of_quoted hclosing hescapes hquoted)
  · cases h

/-- A block comment is read up to its closing. -/
theorem of_blockComment {opening closing : List Char} {nested : Bool} {fuel depth : Nat}
    (hopening : counted → InLine opening) (hdepth : 0 < depth)
    (h : blockComment opening closing nested fuel depth c = some d) :
    c.Reads counted d ∧ d.at? closing = true := by
  induction fuel generalizing c depth with
  | zero => cases h
  | succ fuel ih =>
    unfold blockComment at h
    split at h
    · cases h
    · dsimp only at h
      generalize hleft : (if c.at? closing then depth - 1 else depth) = left at h
      split at h
      · next hnone =>
        cases h
        refine ⟨refl _, ?_⟩
        by_contra hnot
        rw [if_neg hnot] at hleft
        omega
      · next hsome =>
        obtain ⟨e, he, h⟩ := Option.bind_eq_some_iff.mp h
        have hread : c.Reads counted e := of_advance_one he
        split at h
        · next hnested =>
          obtain ⟨e', he', h⟩ := Option.bind_eq_some_iff.mp h
          rw [Bool.and_eq_true] at hnested
          obtain ⟨hmore, hat⟩ := ih (Nat.succ_pos _) h
          have hinner : e.Reads counted e' :=
            of_mark (fun _ => hnested.2) hopening (Nat.le_refl _) he'
          exact ⟨(hread.trans hinner).trans hmore, hat⟩
        · obtain ⟨hmore, hat⟩ := ih (Nat.pos_of_ne_zero hsome) h
          exact ⟨hread.trans hmore, hat⟩

theorem of_comment {opening : List Char} {closing : Option String}
    (hat : counted → c.at? opening = true) (hopening : counted → InLine opening)
    (hclosing : counted → InLine (closing.getD "").toList)
    (h : comment lx opening closing c = some d) : c.Reads counted d := by
  unfold comment at h
  split at h
  · cases h
    exact of_advanceWhile _ _ c
  · obtain ⟨inside, hinside, h⟩ := Option.bind_eq_some_iff.mp h
    obtain ⟨e, he, h⟩ := Option.bind_eq_some_iff.mp h
    obtain ⟨hmore, hend⟩ := of_blockComment hopening Nat.one_pos he
    rw [← String.length_toList] at h
    exact ((of_mark hat hopening (Nat.le_refl _) hinside).trans hmore).trans
      (of_mark (fun _ => hend) hclosing (Nat.sub_le _ 1) h)

/-- A number is read character by character. -/
theorem of_numberEnd (spaced noPoint : Bool) (fuel : Nat) (c : Cursor) (point : Bool)
    (exponent : Nat) : c.Reads counted (numberEnd spaced noPoint fuel c point exponent) := by
  induction fuel generalizing c point exponent with
  | zero => exact refl c
  | succ fuel ih =>
    unfold numberEnd
    split
    · next x d hx hd =>
      -- a character is either read, whatever part of the number it is, or ends it
      have later : ∀ {point : Bool} {exponent : Nat},
          c.Reads counted (numberEnd spaced noPoint fuel d point exponent) :=
        fun {point exponent} => (of_advance_one hd).trans (ih d point exponent)
      split
      · exact later
      split
      · split
        · exact refl c
        · exact later
      split
      · exact later
      split
      · exact later
      split
      · exact later
      · exact refl c
    · exact refl c

theorem le (h : c.Reads counted d) : c.offset ≤ d.offset := by
  obtain ⟨read, -, hoffset, -⟩ := h.between
  omega

/-- What is read is taken from the rest of the text. -/
theorem total (h : c.Reads counted d) :
    d.offset + d.rest.length = c.offset + c.rest.length := by
  obtain ⟨read, hrest, hoffset, -⟩ := h.between
  rw [hrest, hoffset, List.length_append]
  omega

end Cursor.Reads

/-! ### What a step adds -/

/-- What one scan adds to another. It moves on; a token reaches from where the scan was to where
it is then, and if it is for a left parenthesis, it is over nothing else; and behind a number its
suffix is emitted over it, as two colons and the name of a type. -/
inductive Scan.Extends (lx : Lexical) (text : List Char) (s : Scan) : Scan → Prop
  | move {c : Cursor} (read : s.cursor.Reads (IsCounted lx text) c) :
      Scan.Extends lx text s { s with cursor := c }
  | token {c : Cursor} {kind : TokenKind} {chars : List Char}
      (read : s.cursor.Reads (IsCounted lx text) c) (more : s.cursor.offset < c.offset)
      (mark : lx.StaysInLine → kind = .lParen →
        s.cursor.advance 1 = some c ∧ c.last = some '(') :
      Scan.Extends lx text s (emit { s with cursor := c } s.cursor.offset kind chars)
  | suffixed {c : Cursor} {chars suffix : List Char}
      (read : s.cursor.Reads (IsCounted lx text) c) (more : s.cursor.offset < c.offset) :
      Scan.Extends lx text s (((emit { s with cursor := c } s.cursor.offset .number chars).emit
        s.cursor.offset .dcolon [':', ':']).emit s.cursor.offset .type suffix)

namespace Scan

variable {lx : Lexical} {text chars : List Char} {s s' : Scan} {c d : Cursor} {x : Char}
  {kind : TokenKind}

theorem Extends.reads (h : s.Extends lx text s') :
    s.cursor.Reads (IsCounted lx text) s'.cursor := by
  cases h with
  | move read => exact read
  | token read more mark => exact read
  | suffixed read more => exact read

theorem offset_lt (hc : s.cursor.advance 1 = some c) (hle : c.offset ≤ d.offset) :
    s.cursor.offset < d.offset := by
  have hoffset := (Cursor.advance_spec hc).1
  omega

/-- A token of another kind than a left parenthesis, behind the first character. -/
theorem Extends.of_read (hc : s.cursor.advance 1 = some c) (hd : c.Reads (IsCounted lx text) d)
    (hkind : lx.StaysInLine → kind ≠ .lParen) :
    s.Extends lx text (emit { s with cursor := d } s.cursor.offset kind chars) :=
  .token ((Cursor.Reads.of_advance_one hc).trans hd) (offset_lt hc hd.le)
    fun hlx hparen => absurd hparen (hkind hlx)

theorem kind?_ne_lParen (hlx : lx.StaysInLine) {w : String} (h : lx.kind? w = some kind) :
    kind ≠ .lParen := by
  obtain ⟨before, after, hwords, -⟩ := List.lookup_eq_some_iff.mp h
  exact hlx.word (w, kind) (by rw [hwords]; simp)

theorem extends_word (hc : s.cursor.advance 1 = some c) :
    s.Extends lx text (word lx { s with cursor := c } s.cursor) := by
  refine .of_read hc (Cursor.Reads.of_advanceWhile _ _ c) fun hlx => ?_
  split
  · decide
  · cases hkind : lx.kind? _ with
    | none => decide
    | some kind => exact kind?_ne_lParen hlx hkind

/-- A number is emitted as one token, or, with a suffix that names a type, as three. -/
theorem extends_number (hc : s.cursor.advance 1 = some c) :
    s.Extends lx text (number lx { s with cursor := c } s.cursor) := by
  have hzero : ∀ chars, s.Extends lx text
      (emit { s with cursor := c } s.cursor.offset .number chars) :=
    fun _ => .of_read hc (Cursor.Reads.refl c) fun _ => by decide
  unfold number
  dsimp only
  split
  · split
    · refine .of_read hc (Cursor.Reads.of_advanceWhile _ _ c) fun _ => ?_
      split <;> decide
    · exact hzero _
  · split
    · refine .of_read hc (Cursor.Reads.of_advanceWhile _ _ c) fun _ => ?_
      split <;> decide
    · exact hzero _
  · have hend : c.Reads (IsCounted lx text) (numberEnd lx.spacedNumbers
        (decide (lastKind? { s with cursor := c } = some .parameter)) c.rest.length c false 0) :=
      Cursor.Reads.of_numberEnd _ _ _ c _ _
    generalize numberEnd lx.spacedNumbers _ _ c false 0 = d at hend ⊢
    have hplain : s.Extends lx text
        (emit { s with cursor := d } s.cursor.offset .number (d.textFrom s.cursor)) :=
      .of_read hc hend fun _ => by decide
    split
    · have hsuffix : c.Reads (IsCounted lx text) (d.advanceWhile
          (fun x => !isBlank x && !lx.isMark x) d.rest.length) :=
        hend.trans (Cursor.Reads.of_advanceWhile _ _ d)
      split
      · exact .suffixed ((Cursor.Reads.of_advance_one hc).trans hsuffix) (offset_lt hc hsuffix.le)
      split
      · exact .of_read hc hsuffix fun _ => by decide
      · exact hplain
    · exact hplain

/-- A dollar-quoted string is emitted as one token, and so is a dollar sign alone. It is closed
by a tag without blanks. -/
theorem extends_heredoc (hc : s.cursor.advance 1 = some c)
    (h : heredoc lx { s with cursor := c } s.cursor = some s') : s.Extends lx text s' := by
  have hdollar : InLine ['$'] := by decide
  -- what follows the tag is read alike, whether the tag is empty or not
  have later : ∀ (tag : List Char) (d : Cursor), c.Reads (IsCounted lx text) d →
      (if !tag.isEmpty && (d.rest.isEmpty || tag.all isDigit || tag.any isBlank) then
        some (emit { s with cursor := c } s.cursor.offset .parameter ['$'])
      else (closedQuote lx { closing := '$' :: tag ++ ['$'], escapes := lx.escapes, raw := false } 1
        d).bind fun r => some (emit { s with cursor := r.2 } s.cursor.offset .heredocString r.1)) =
        some s' → s.Extends lx text s' := by
    intro tag d hd h
    split at h
    · cases h
      exact .of_read hc (Cursor.Reads.refl c) fun _ => by decide
    · next htag =>
      have hsolid : InLine tag := by
        by_cases hnil : tag = []
        · exact hnil ▸ inLine_nil
        · exact inLine_of_any_isBlank fun hblank => htag (by simp [hnil, hblank])
      have hclosing : InLine ('$' :: tag ++ ['$']) :=
        List.forall_mem_append.mpr ⟨List.forall_mem_cons.mpr ⟨by decide, hsolid⟩, hdollar⟩
      obtain ⟨⟨read, e⟩, hclosed, h⟩ := Option.bind_eq_some_iff.mp h
      cases h
      refine .of_read hc (hd.trans (Cursor.Reads.of_closedQuote (fun _ => inLine_before_one _)
        (fun _ => hclosing) (fun hcounted => hcounted.marks.escapes) hclosed)) fun _ => by decide
  obtain ⟨inside, hinside, h⟩ := Option.bind_eq_some_iff.mp h
  have hone : c.Reads (IsCounted lx text) inside := Cursor.Reads.of_advance_one hinside
  dsimp only at h
  split at h
  · exact later [] inside hone h
  · obtain ⟨⟨tag, d⟩, htag, h⟩ := Option.bind_eq_some_iff.mp h
    obtain ⟨⟨read, place, closed⟩, hquoted, heq⟩ := Option.map_eq_some_iff.mp htag
    cases heq
    exact later _ _ (hone.trans (Cursor.Reads.of_quoted (fun _ => hdollar)
      (fun hcounted => hcounted.marks.escapes) hquoted)) h

theorem extends_string {q : Quotation} (hc : s.cursor.advance 1 = some c)
    (hq : q ∈ lx.quotations) (hat : lx.StaysInLine → c.at? q.opening = true)
    (h : string lx { s with cursor := c } s.cursor q = some s') : s.Extends lx text s' := by
  obtain ⟨⟨read, d⟩, hclosed, h⟩ := Option.bind_eq_some_iff.mp h
  dsimp only at h
  split at h
  · cases h
  · cases h
    refine .of_read hc (Cursor.Reads.of_closedQuote (fun hcounted => ?_) (fun hcounted => ?_)
      (fun hcounted => ?_) hclosed) fun hlx => (hlx.quotation q hq).2.2
    · exact Cursor.Reads.inLine_of_at? (hat hcounted.marks) (hcounted.marks.quotation q hq).1.1
    · exact (hcounted.marks.quotation q hq).2.1
    · dsimp only
      split
      · exact hcounted.marks.byteEscapes
      · exact hcounted.marks.escapes

/-- A mark or a bare name is what a step reads if nothing else fits. -/
theorem extends_mark_or_word (hc : s.cursor.advance 1 = some c) (hx : c.last = some x)
    (h : (match lx.mark? x with
      | some kind => some (emit { s with cursor := c } s.cursor.offset kind [x])
      | none => some (word lx { s with cursor := c } s.cursor)) = some s') :
    s.Extends lx text s' := by
  split at h
  · next kind hkind =>
    cases h
    refine .token (Cursor.Reads.of_advance_one hc) (offset_lt hc (Nat.le_refl _)) ?_
    intro hlx hparen
    obtain ⟨before, after, hmarks, -⟩ := List.lookup_eq_some_iff.mp hkind
    obtain rfl : x = '(' := hlx.mark (x, kind) (by rw [hmarks]; simp) hparen
    exact ⟨hc, hx⟩
  · cases h
    exact extends_word hc

/-- Where a scan stands, the text in front of it ends with the character read last. -/
theorem exists_front (h : Cursor.Reads (IsCounted lx text) { rest := text } c)
    (hx : c.last = some x) :
    ∃ front, text = front ++ x :: c.rest ∧ c.offset = front.length + 1 ∧
      (IsCounted lx text → placeOf text front.length = (c.line, c.column)) := by
  obtain ⟨read, hread, hoffset, hlast, hplace⟩ := h.between
  rw [Option.or_none, hx, eq_comm, List.getLast?_eq_some_iff] at hlast
  obtain ⟨front, rfl⟩ := hlast
  dsimp only at hread hoffset hplace
  refine ⟨front, ?_, ?_, fun hcounted => ?_⟩
  · rw [hread, List.append_assoc, List.singleton_append]
  · rw [hoffset, List.length_append, List.length_singleton, Nat.zero_add]
  · rw [hplace hcounted, placeOf, hread, List.take_left' (by simp)]

/-- **One step** moves on, or emits what it has read. -/
theorem extends_step (hs : Cursor.Reads (IsCounted lx text) { rest := text } s.cursor)
    (h : s.step lx = some s') : s.Extends lx text s' := by
  obtain ⟨c, hc, h⟩ := Option.bind_eq_some_iff.mp h
  obtain ⟨x, hx, h⟩ := Option.bind_eq_some_iff.mp h
  have hone : s.cursor.Reads (IsCounted lx text) c := Cursor.Reads.of_advance_one hc
  dsimp only at h
  split at h
  · cases h
    exact .move hone
  split at h
  · cases h
    exact extends_number hc
  split at h
  · next closing hclosing =>
    have hline : IsCounted lx text → InLine [closing] := by
      intro hcounted
      obtain ⟨before, after, hidentifiers, -⟩ := List.lookup_eq_some_iff.mp hclosing
      exact List.forall_mem_singleton.mpr
        (hcounted.marks.identifier (x, closing) (by rw [hidentifiers]; simp))
    obtain ⟨⟨read, d⟩, hclosed, h⟩ := Option.bind_eq_some_iff.mp h
    cases h
    exact .of_read hc (Cursor.Reads.of_closedQuote (fun _ => inLine_before_one _) hline hline
      hclosed) fun _ => by decide
  split at h
  · next word hword =>
    split at h
    · exact extends_heredoc hc h
    split at h
    · next q hq =>
      obtain rfl : q.opening = word := by simpa using List.find?_some hq
      have hmem := List.mem_of_find?_eq_some hq
      exact extends_string hc hmem
        (fun hlx => at?_of_probe hword (hlx.quotation q hmem).1.2) h
    split at h
    · next opening closing hopening =>
      obtain rfl : opening.toList = word := by simpa using List.find?_some hopening
      have hmem := List.mem_of_find?_eq_some hopening
      obtain ⟨d, hcomment, h⟩ := Option.bind_eq_some_iff.mp h
      have hd : c.Reads (IsCounted lx text) d := by
        refine Cursor.Reads.of_comment (fun hcounted => ?_) (fun hcounted => ?_)
          (fun hcounted => (hcounted.marks.comment _ hmem).2) hcomment
        · exact at?_of_probe hword (hcounted.marks.comment _ hmem).1.2
        · exact (hcounted.marks.comment _ hmem).1.1
      cases h
      split
      · exact .of_read hc hd fun _ => by decide
      · exact .move (hone.trans hd)
    split at h
    · split at h
      · next kind hkind =>
        -- a spelling of several words, the only step that may leave a line
        obtain ⟨d, hd, h⟩ := Option.bind_eq_some_iff.mp h
        obtain ⟨front, htext, -, -⟩ := exists_front (hs.trans hone) hx
        cases h
        exact .of_read hc (Cursor.Reads.of_advance hd fun hcounted =>
          hcounted.unbroken.inLine_of_probe htext hx hword) fun hlx => kind?_ne_lParen hlx hkind
      · exact extends_mark_or_word hc hx h
    · exact extends_mark_or_word hc hx h
  · exact extends_mark_or_word hc hx h

/-- Raw text behind a command word reaches up to where a scan for the next semicolon stops. -/
theorem extends_raw {inner : Scan} (h : s.cursor.Reads (IsCounted lx text) inner.cursor) :
    s.Extends lx text
      (if (strip (inner.cursor.textFrom s.cursor)).isEmpty then { s with cursor := inner.cursor }
      else emit { s with cursor := inner.cursor } s.cursor.offset .string
        (strip (inner.cursor.textFrom s.cursor))) := by
  split
  · exact .move h
  · next hsome =>
    refine .token h ?_ fun _ hparen => absurd hparen (by decide)
    -- a scan that has not moved has read nothing, and nothing is not emitted
    by_contra hle
    have hempty : inner.cursor.offset - s.cursor.offset = 0 := by omega
    exact hsome (by rw [Cursor.textFrom, hempty]; rfl)

theorem reads_of_extends (h : Relation.ReflTransGen (Extends lx text) s s') :
    s.cursor.Reads (IsCounted lx text) s'.cursor := by
  induction h with
  | refl => exact Cursor.Reads.refl _
  | tail _ hlast ih => exact ih.trans hlast.reads

/-- **A whole scan** adds one thing after another. -/
theorem extends_run {toSemicolon : Bool} {fuel : Nat}
    (hs : Cursor.Reads (IsCounted lx text) { rest := text } s.cursor)
    (h : run lx toSemicolon fuel s = some s') :
    Relation.ReflTransGen (Extends lx text) s s' := by
  induction fuel generalizing s s' toSemicolon with
  | zero =>
    cases h
    exact .refl
  | succ fuel ih =>
    unfold run at h
    split at h
    · cases h
      exact .refl
    · -- behind the first token, with its raw text or without, the scan goes on or stops
      have later : ∀ {next : Scan}, Relation.ReflTransGen (Extends lx text) s next →
          (if toSemicolon && next.cursor.rest.head? == some ';' then some next
          else run lx toSemicolon fuel next) = some s' →
            Relation.ReflTransGen (Extends lx text) s s' := by
        intro next hnext h
        split at h
        · cases h
          exact hnext
        · exact hnext.trans (ih (hs.trans (reads_of_extends hnext)) h)
      obtain ⟨next, hnext, h⟩ := Option.bind_eq_some_iff.mp h
      have hstep : s.Extends lx text next := extends_step hs hnext
      dsimp only at h
      split at h
      · obtain ⟨inner, hinner, h⟩ := Option.bind_eq_some_iff.mp h
        have hread := reads_of_extends (ih (hs.trans hstep.reads) hinner)
        exact later (.tail (.single hstep) (extends_raw hread)) h
      · exact later (.single hstep) h

end Scan

end StatementShape.Sql
