import Mathlib.Order.Nat
import StatementShape.Proofs.Statement.Unclosed

/-!
# Where common table expressions end

The end of common table expressions is looked for piece by piece: a token that is no parenthesis is
stepped over, parentheses are left behind as a whole, and the token in front of them says whether
they enclose a body. Here the end is told by the depth alone, that is by how many parentheses are
open behind each token: it is the first place at which none is open, where a body has been closed
and no comma follows. Both agree where nothing too many is closed, up to which parenthesis is
complained of if there is no end.

The word in front of a body may not be a string or be quoted. But the scan knows plain strings and
quoted identifiers only: a string with a mark in front, such as a national one, is taken for the
word that it spells.

## Main definitions

* `IsBodyWord`, `OpensBody`: the words in front of a body, and the tokens that are taken for them
* `Enclosed`: tokens in parentheses that match
* `IsTableEnd`: the ends of common table expressions, told by the depth
* `Scanned`: the pieces in which tokens are scanned

## Main results

* `closing_enclosed`, `enclosed_of_closing`: what is left behind as a whole
* `isTableEnd_piece`: the ends behind a piece
* `withEnd_by_depth`: the scan finds the first end
* `exists_body_behind_string`: a body behind a string
-/

namespace StatementShape.Statement

open Sql (Token TokenKind Dialect)

/-! ### Ends by the depth -/

/-- Kinds of tokens in quotes: strings of every sort, and quoted identifiers. -/
def isQuoted : TokenKind → Bool
  | .string | .identifier | .heredocString | .nationalString | .rawString | .unicodeString
  | .bitString | .byteString | .hexString => true
  | _ => false

/-- Texts of the words in front of a body, in any letter case. -/
def SpellsBodyWord (t : Token) : Prop := Text.upper t.text.toList ∈ ["AS", "MATERIALIZED"]

/-- Words in front of a body, which are not in quotes. -/
def IsBodyWord (t : Token) : Prop := isQuoted t.kind = false ∧ SpellsBodyWord t

/-- Tokens that are taken for such words, among them strings with a mark in front. -/
def OpensBody (t : Token) : Prop := t.isWord = true ∧ SpellsBodyWord t

instance : DecidablePred SpellsBodyWord := fun t =>
  inferInstanceAs (Decidable (Text.upper t.text.toList ∈ ["AS", "MATERIALIZED"]))

instance : DecidablePred IsBodyWord := fun _ => inferInstanceAs (Decidable (_ ∧ _))

instance : DecidablePred OpensBody := fun _ => inferInstanceAs (Decidable (_ ∧ _))

/-- Tokens that close nothing too many: in none of their prefixes more is closed than opened. -/
def NoSurplus (tokens : List Token) : Prop := ∀ front, front <+: tokens → 0 ≤ openBehind front

instance : DecidablePred NoSurplus := fun tokens =>
  decidable_of_iff (∀ front ∈ tokens.inits, 0 ≤ openBehind front) (by simp [NoSurplus])

/-- Tokens in parentheses that match: inside, nothing too many is closed, and all that is opened
is. -/
def Enclosed (group : List Token) : Prop :=
  ∃ l inside r, group = l :: (inside ++ [r]) ∧ l.kind = .lParen ∧ r.kind = .rParen ∧
    NoSurplus inside ∧ openBehind inside = 0

/-- Ends of common table expressions behind the first of some tokens: places at which no
parenthesis is open, behind the one that closes a body. The body stands directly behind a token that
opens one, and no comma follows. -/
structure IsTableEnd (opens : Token → Prop) (tokens : List Token) (j : Nat) : Prop where
  le : j ≤ tokens.length
  depth : openBehind ((tokens.take j).drop 1) = 0
  body : ∃ front word group, tokens.take j = front ++ word :: group ∧ opens word ∧ Enclosed group
  noComma : ¬ BeginsWith (· = .comma) (tokens.drop j)

theorem opensTable_iff {t : Token} : opensTable t = true ↔ OpensBody t := by
  unfold opensTable wordOf OpensBody SpellsBodyWord
  cases t.isWord <;> simp

theorem IsBodyWord.opensBody {t : Token} (h : IsBodyWord t) : OpensBody t := by
  refine ⟨?_, h.2⟩
  have hkind := h.1
  rw [Token.isWord, Bool.and_eq_true, bne_iff_ne, bne_iff_ne]
  constructor
  all_goals
    intro heq
    rw [heq] at hkind
    cases hkind

/-! ### Parentheses that match -/

section Groups

variable {group front tokens ts : List Token} {t : Token} {n : Nat}

theorem NoSurplus.mono (h : NoSurplus tokens) (hfront : front <+: tokens) : NoSurplus front :=
  fun part hpart => h part (hpart.trans hfront)

theorem NoSurplus.not_rParen (h : NoSurplus (t :: ts)) : t.kind ≠ .rParen := by
  intro ht
  have hfirst := h [t] ⟨ts, rfl⟩
  rw [openBehind_singleton_of_rParen ht] at hfirst
  cases hfirst

theorem rParen_of_openBehind_neg (h : openBehind [t] < 0) : t.kind = .rParen := by
  by_contra hclose
  by_cases hopen : t.kind = .lParen
  · rw [openBehind_singleton_of_lParen hopen] at h
    cases h
  · rw [openBehind_cons_of_plain hopen hclose, openBehind_nil] at h
    cases h

theorem Enclosed.ne_nil (h : Enclosed group) : group ≠ [] := by
  obtain ⟨l, inside, r, rfl, -⟩ := h
  exact List.cons_ne_nil l _

/-- Behind parentheses that match as many are open as in front of them. -/
theorem Enclosed.openBehind_eq (h : Enclosed group) : openBehind group = 0 := by
  obtain ⟨l, inside, r, rfl, hl, hr, -, hinside⟩ := h
  rw [openBehind_cons_of_lParen hl, openBehind_append, hinside, openBehind_singleton_of_rParen hr]
  rfl

/-- Inside parentheses that match one more is open, behind every token. -/
theorem Enclosed.eq_nil_or_eq (h : Enclosed group) (hfront : front <+: group)
    (hzero : openBehind front = 0) : front = [] ∨ front = group := by
  obtain ⟨l, inside, r, rfl, hl, hr, hopen, -⟩ := h
  cases front with
  | nil => exact .inl rfl
  | cons v front =>
    obtain ⟨rfl, hrest⟩ := List.cons_prefix_cons.mp hfront
    rcases List.prefix_concat_iff.mp hrest with rfl | hpart
    · exact .inr rfl
    · have hnonneg := hopen front hpart
      rw [openBehind_cons_of_lParen hl] at hzero
      omega

/-- **Tokens up to the closing** of a parenthesis are enclosed by it. -/
theorem enclosed_of_closing (ht : t.kind = .lParen) (h : closing 0 (t :: ts) = some n) :
    Enclosed ((t :: ts).take n) := by
  rw [closing_open ht] at h
  obtain ⟨m, hm, rfl⟩ := Option.map_eq_some_iff.mp h
  obtain ⟨hpos, hle⟩ := closing_pos hm
  obtain ⟨k, rfl⟩ : ∃ k, m = k + 1 := ⟨m - 1, by omega⟩
  have hopen (i : Nat) (hi : i ≤ k) : 0 ≤ openBehind (ts.take i) := by
    -- up to the closing, no more is closed than was opened by the first token
    have hlt : -((0 : Nat) + 1 : Int) < openBehind (ts.take i) := neg_lt_openBehind fun n hn => by
      obtain rfl : k + 1 = n := Option.some.inj (hm.symm.trans hn)
      exact Nat.lt_succ_of_le hi
    omega
  have htake : ts.take (k + 1) = ts.take k ++ [ts[k]] := (List.take_concat_get' ts k hle).symm
  have hall : openBehind (ts.take k) + openBehind [ts[k]] = -1 := by
    rw [← openBehind_append, ← htake]
    exact openBehind_take_of_closing hm
  have hinside := hopen k (Nat.le_refl k)
  have hr : ts[k].kind = .rParen := rParen_of_openBehind_neg (by omega)
  rw [openBehind_singleton_of_rParen hr] at hall
  refine ⟨t, ts.take k, ts[k], by rw [List.take_succ_cons, htake], ht, hr, ?_, by omega⟩
  intro front hfront
  obtain ⟨hbegins, hlength⟩ := List.prefix_take_iff.mp hfront
  rw [List.prefix_iff_eq_take.mp hbegins]
  exact hopen front.length hlength

end Groups

/-! ### Pieces -/

/-- Pieces that the scan takes at once: a token that is no parenthesis, and tokens in
parentheses. -/
inductive Piece : List Token → Prop
  | plain {t : Token} (hopen : t.kind ≠ .lParen) (hclose : t.kind ≠ .rParen) : Piece [t]
  | group {group : List Token} (hgroup : Enclosed group) : Piece group

/-- Tokens as they are scanned: piece by piece, up to a parenthesis that is left open, or one
that closes nothing. -/
inductive Scanned : List Token → Prop
  | nil : Scanned []
  | leftOpen {t : Token} {ts : List Token} (ht : t.kind = .lParen)
      (hclosing : closing 0 (t :: ts) = none) : Scanned (t :: ts)
  | surplus {t : Token} {ts : List Token} (ht : t.kind = .rParen) : Scanned (t :: ts)
  | piece {piece rest : List Token} (hpiece : Piece piece) (hrest : Scanned rest) :
      Scanned (piece ++ rest)

section Pieces

variable {piece piece' front rest tokens : List Token}

theorem Piece.ne_nil (h : Piece piece) : piece ≠ [] := by
  cases h with
  | plain => exact List.cons_ne_nil _ _
  | group hgroup => exact hgroup.ne_nil

theorem Piece.exists_getLast? (h : Piece piece) : ∃ last, piece.getLast? = some last :=
  ⟨_, List.getLast?_eq_some_getLast h.ne_nil⟩

theorem Piece.openBehind_eq (h : Piece piece) : openBehind piece = 0 := by
  cases h with
  | plain hopen hclose => rw [openBehind_cons_of_plain hopen hclose, openBehind_nil]
  | group hgroup => exact hgroup.openBehind_eq

theorem Piece.eq_nil_or_eq (h : Piece piece) (hfront : front <+: piece)
    (hzero : openBehind front = 0) : front = [] ∨ front = piece := by
  cases h with
  | plain => simpa using List.prefix_cons_iff.mp hfront
  | group hgroup => exact hgroup.eq_nil_or_eq hfront hzero

/-- Of two pieces with the same beginning neither goes on behind the other. -/
theorem Piece.eq_of_beginning (h : Piece piece) (h' : Piece piece') (hpiece : piece <+: tokens)
    (hpiece' : piece' <+: tokens) : piece = piece' := by
  rcases List.prefix_or_prefix_of_prefix hpiece hpiece' with hle | hle
  · exact (h'.eq_nil_or_eq hle h.openBehind_eq).resolve_left h.ne_nil
  · exact ((h.eq_nil_or_eq hle h'.openBehind_eq).resolve_left h'.ne_nil).symm

/-- **The parenthesis that closes** tokens in parentheses is their last one. -/
theorem closing_enclosed {group : List Token} (h : Enclosed group) (rest : List Token) :
    closing 0 (group ++ rest) = some group.length := by
  obtain ⟨l, inside, r, hgroup, hl, -⟩ := id h
  obtain ⟨ts, hts⟩ : ∃ ts, group ++ rest = l :: ts := ⟨inside ++ [r] ++ rest, by rw [hgroup]; rfl⟩
  have hbegins : group <+: l :: ts := hts ▸ List.prefix_append group rest
  rw [hts]
  cases hclosing : closing 0 (l :: ts) with
  | none =>
    have hopen := leftOpen_of_closing hl hclosing group hbegins h.ne_nil
    rw [h.openBehind_eq] at hopen
    cases hopen
  | some n =>
    have htaken := enclosed_of_closing hl hclosing
    have hsame : group = (l :: ts).take n :=
      Piece.eq_of_beginning (.group h) (.group htaken) hbegins (List.take_prefix n (l :: ts))
    rw [hsame, List.length_take_of_le (closing_pos hclosing).2]

theorem Piece.allClosed (h : Piece piece) : AllClosed piece := by
  cases h with
  | plain hopen => exact .singleton hopen
  | group hgroup =>
    have hclosing := closing_enclosed hgroup []
    obtain ⟨l, inside, r, rfl, hl, -⟩ := hgroup
    rw [List.append_nil] at hclosing
    have hclosed := allClosed_of_closing hl hclosing
    rwa [List.take_length] at hclosed

/-- Behind a piece nothing too many is closed, if nothing too many is closed with it. -/
theorem NoSurplus.behind (h : NoSurplus (piece ++ rest)) (hpiece : Piece piece) :
    NoSurplus rest := by
  intro front hfront
  have hwhole := h (piece ++ front) ((List.prefix_append_right_inj piece).mpr hfront)
  rwa [openBehind_append, hpiece.openBehind_eq, Int.zero_add] at hwhole

/-- All tokens are scanned in this way. -/
theorem scanned (tokens : List Token) : Scanned tokens := by
  -- by the number of tokens, as what is left behind a piece is no part of the list by constructors
  match tokens with
  | [] => exact .nil
  | t :: ts =>
    by_cases hclose : t.kind = .rParen
    · exact .surplus hclose
    by_cases hopen : t.kind = .lParen
    · match hclosing : closing 0 (t :: ts) with
      | none => exact .leftOpen hopen hclosing
      | some n =>
        have hpos := (closing_pos hclosing).1
        rw [← List.take_append_drop n (t :: ts)]
        exact .piece (.group (enclosed_of_closing hopen hclosing)) (scanned _)
    · exact .piece (.plain hopen hclose) (scanned ts)
termination_by tokens.length
decreasing_by all_goals simp; try omega

end Pieces

/-! ### Ends, piece by piece -/

section Ends

variable {opens : Token → Prop} {before last t : Token} {tokens piece rest : List Token} {n : Nat}

/-- An end among tokens stands behind a body, in front of which nothing is open. -/
theorem isTableEnd_cons_iff :
    IsTableEnd opens (before :: tokens) (n + 1) ↔ ∃ front group rest,
      tokens = front ++ (group ++ rest) ∧ n = (front ++ group).length ∧ openBehind front = 0 ∧
        Enclosed group ∧ opens (front.getLast?.getD before) ∧
        ¬ BeginsWith (· = .comma) rest := by
  constructor
  · rintro ⟨hle, hdepth, ⟨front, word, group, heq, hword, hgroup⟩, hcomma⟩
    rw [List.take_succ_cons] at hdepth heq
    rw [List.drop_succ_cons, List.drop_zero] at hdepth
    rw [List.drop_succ_cons] at hcomma
    have hlength : (tokens.take n).length = n :=
      List.length_take_of_le (Nat.le_of_succ_le_succ hle)
    -- the word is the token in front of all the others, or one of them
    cases front with
    | nil =>
      obtain ⟨rfl, hrest⟩ := List.cons.inj heq
      refine ⟨[], group, tokens.drop n, ?_, ?_, rfl, hgroup, hword, hcomma⟩
      · rw [List.nil_append, ← hrest, List.take_append_drop]
      · rw [List.nil_append, ← hrest, hlength]
    | cons v front =>
      rw [List.cons_append, List.cons.injEq] at heq
      obtain ⟨rfl, hrest⟩ := heq
      have hsplit : tokens.take n = front ++ [word] ++ group := by
        rw [hrest, List.append_assoc, List.singleton_append]
      refine ⟨front ++ [word], group, tokens.drop n, ?_, ?_, ?_, hgroup, ?_, hcomma⟩
      · rw [← List.append_assoc, ← hsplit, List.take_append_drop]
      · rw [← hsplit, hlength]
      · rwa [hsplit, openBehind_append, hgroup.openBehind_eq, Int.add_zero] at hdepth
      · rwa [List.getLast?_concat]
  · rintro ⟨front, group, rest, rfl, rfl, hdepth, hgroup, hword, hcomma⟩
    rw [← List.append_assoc]
    have htake : (before :: (front ++ group ++ rest)).take ((front ++ group).length + 1) =
        before :: (front ++ group) := by rw [List.take_succ_cons, List.take_left]
    refine ⟨by simp, ?_, ?_, ?_⟩
    · rw [htake, List.drop_succ_cons, List.drop_zero, openBehind_append, hdepth,
        hgroup.openBehind_eq]
      rfl
    · rw [htake]
      rcases List.eq_nil_or_concat front with rfl | ⟨front, word, rfl⟩
      · exact ⟨[], before, group, rfl, hword, hgroup⟩
      · rw [List.concat_eq_append, List.getLast?_concat] at hword
        exact ⟨before :: front, word, group, by simp, hword, hgroup⟩
    · rwa [List.drop_succ_cons, List.drop_left]

theorem IsTableEnd.pos (h : IsTableEnd opens (before :: tokens) (n + 1)) : 0 < n := by
  obtain ⟨front, group, rest, -, rfl, -, hgroup, -⟩ := isTableEnd_cons_iff.mp h
  rw [List.length_append]
  exact Nat.add_pos_right _ (List.length_pos_iff.mpr hgroup.ne_nil)

theorem not_isTableEnd_singleton : ¬ IsTableEnd opens [before] (n + 1) := by
  intro h
  exact absurd h.le (Nat.not_le.mpr (Nat.succ_lt_succ h.pos))

/-- Behind a parenthesis that is left open there is no end. -/
theorem LeftOpen.not_isTableEnd (h : LeftOpen tokens) :
    ¬ IsTableEnd opens (before :: tokens) (n + 1) := by
  rw [isTableEnd_cons_iff]
  rintro ⟨front, group, rest, rfl, -, hdepth, hgroup, -⟩
  have hopen : 0 < openBehind (front ++ group) := by
    refine h _ ⟨rest, List.append_assoc _ _ _⟩ ?_
    exact List.append_ne_nil_of_right_ne_nil _ hgroup.ne_nil
  rw [openBehind_append, hdepth, hgroup.openBehind_eq] at hopen
  cases hopen

/-- Bodies that are the last: tokens in parentheses behind one that opens a body, with no comma
behind them. -/
def IsLastBody (opens : Token → Prop) (before : Token) (piece rest : List Token) : Prop :=
  Enclosed piece ∧ opens before ∧ ¬ BeginsWith (· = .comma) rest

/-- **An end behind a piece** is that of the piece itself, or an end of what follows. -/
theorem isTableEnd_piece (opens : Token → Prop) (before : Token) (rest : List Token) (n : Nat)
    (hpiece : Piece piece) (hlast : piece.getLast? = some last) :
    IsTableEnd opens (before :: (piece ++ rest)) (n + 1) ↔
      n = piece.length ∧ IsLastBody opens before piece rest ∨
        ∃ m, n = piece.length + m ∧ IsTableEnd opens (last :: rest) (m + 1) := by
  have hbehind (c : List Token) : (piece ++ c).getLast?.getD before = c.getLast?.getD last := by
    rw [List.getLast?_append, hlast]
    cases c.getLast? <;> rfl
  simp only [isTableEnd_cons_iff]
  constructor
  · rintro ⟨front, group, tail, heq, rfl, hdepth, hgroup, hword, hcomma⟩
    -- the body stands behind the piece, or is the piece
    rcases List.append_eq_append_iff.mp heq with ⟨c, rfl, hc⟩ | ⟨c, hc, hc'⟩
    · refine .inr ⟨(c ++ group).length, by simp, c, group, tail, hc, rfl, ?_, hgroup, ?_, hcomma⟩
      · rwa [openBehind_append, hpiece.openBehind_eq, Int.zero_add] at hdepth
      · rwa [hbehind] at hword
    · rcases hpiece.eq_nil_or_eq ⟨c, hc.symm⟩ hdepth with rfl | rfl
      · obtain rfl : piece = group := hpiece.eq_of_beginning (.group hgroup)
          (List.prefix_append piece rest) ⟨tail, heq.symm⟩
        obtain rfl : rest = tail := List.append_cancel_left heq
        exact .inl ⟨rfl, hgroup, hword, hcomma⟩
      · obtain rfl : rest = group ++ tail := List.append_cancel_left heq
        refine .inr ⟨group.length, by simp, [], group, tail, rfl, rfl, rfl, hgroup, ?_, hcomma⟩
        rwa [hlast] at hword
  · rintro (⟨rfl, hgroup, hword, hcomma⟩ |
      ⟨m, rfl, c, group, tail, rfl, rfl, hdepth, hgroup, hword, hcomma⟩)
    · exact ⟨[], piece, rest, rfl, rfl, rfl, hgroup, hword, hcomma⟩
    · refine ⟨piece ++ c, group, tail, (List.append_assoc _ _ _).symm, by simp, ?_, hgroup, ?_,
        hcomma⟩
      · rw [openBehind_append, hpiece.openBehind_eq, hdepth]
        rfl
      · rwa [hbehind]

end Ends

/-! ### The scan -/

section Scan

variable {before last t : Token} {tokens piece rest ts : List Token} {n i : Nat}

/-- The scan stops behind a body that is the last. -/
theorem withEndFrom_lastBody (h : IsLastBody OpensBody before piece rest) :
    withEndFrom before (piece ++ rest) i = .ok (i + piece.length) := by
  obtain ⟨hgroup, hword, hcomma⟩ := h
  have hclosing := closing_enclosed hgroup rest
  obtain ⟨l, inside, r, hpiece, hl, -⟩ := hgroup
  have hlast : piece.getLast? = some r := by
    rw [hpiece, ← List.cons_append, List.getLast?_concat]
  rw [withEndFrom_closing ⟨l, inside ++ [r], hpiece, hl⟩ hlast hclosing]
  simp only [opensTable_iff.mpr hword, if_true]
  cases rest with
  | nil => rfl
  | cons c more => exact if_neg fun hc => hcomma ⟨c, more, rfl, hc⟩

/-- The scan goes on behind any other piece. -/
theorem withEndFrom_piece (hpiece : Piece piece) (hlast : piece.getLast? = some last)
    (h : ¬ IsLastBody OpensBody before piece rest) :
    withEndFrom before (piece ++ rest) i = withEndFrom last rest (i + piece.length) := by
  cases hpiece with
  | plain hopen hclose =>
    obtain rfl := Option.some.inj hlast
    exact withEndFrom_word hopen
  | group hgroup =>
    have hclosing := closing_enclosed hgroup rest
    have hbegins : BeginsWith (· = .lParen) piece := by
      obtain ⟨l, inside, r, rfl, hl, -⟩ := hgroup
      exact ⟨l, _, rfl, hl⟩
    rw [withEndFrom_closing hbegins hlast hclosing]
    cases rest with
    | nil =>
      have hword : ¬ opensTable before = true := by
        rw [opensTable_iff]
        exact fun hword => h ⟨hgroup, hword, fun hcomma => hcomma.ne_nil rfl⟩
      rw [withEndFrom]
      exact if_neg hword
    | cons c more =>
      dsimp only
      split
      · next hword =>
        -- a comma is stepped over like any other token
        have hcomma : c.kind = .comma := by
          by_contra hcomma
          refine h ⟨hgroup, opensTable_iff.mp hword, ?_⟩
          rintro ⟨_, _, heq, hc⟩
          cases heq
          exact hcomma hc
        rw [if_pos hcomma, withEndFrom_word (by rw [hcomma]; decide)]
      · rfl

theorem withEndFrom_leftOpen (ht : t.kind = .lParen) (hclosing : closing 0 (t :: ts) = none) :
    withEndFrom before (t :: ts) i = .error (.unclosed t.line t.column) := by
  rw [withEndFrom, if_pos ht]
  split
  · rfl
  · next n hn =>
    rw [hclosing] at hn
    cases hn

/-- The first end is where the scan stops, if in front of it nothing too many is closed. -/
theorem withEndFrom_of_isLeast
    (hleast : IsLeast {n | IsTableEnd OpensBody (before :: tokens) (n + 1)} n)
    (hclosed : NoSurplus (tokens.take n)) : withEndFrom before tokens i = .ok (i + n) := by
  -- by pieces: the first end is that of the piece in front, or the first one behind it
  induction scanned tokens generalizing before n i with
  | nil => exact absurd hleast.1 not_isTableEnd_singleton
  | leftOpen ht hclosing => exact absurd hleast.1 (leftOpen_of_closing ht hclosing).not_isTableEnd
  | surplus ht =>
    -- the end is no shorter than one token, and that one closes too much
    obtain ⟨n, rfl⟩ := Nat.exists_eq_add_of_lt hleast.1.pos
    rw [Nat.zero_add, List.take_succ_cons] at hclosed
    exact absurd ht hclosed.not_rParen
  | @piece piece rest hpiece _ ih =>
    obtain ⟨last, hlast⟩ := hpiece.exists_getLast?
    have hiff (n : Nat) := isTableEnd_piece OpensBody before rest n hpiece hlast
    by_cases hbody : IsLastBody OpensBody before piece rest
    · have hle : n ≤ piece.length := hleast.2 ((hiff _).mpr (.inl ⟨rfl, hbody⟩))
      obtain rfl : n = piece.length := by
        rcases (hiff n).mp hleast.1 with ⟨hn, -⟩ | ⟨m, hn, -⟩ <;> omega
      exact withEndFrom_lastBody hbody
    · obtain ⟨m, rfl, hm⟩ := ((hiff n).mp hleast.1).resolve_left fun hn => hbody hn.2
      have hleast' : IsLeast {n | IsTableEnd OpensBody (last :: rest) (n + 1)} m := by
        refine ⟨hm, fun k hk => ?_⟩
        have hle : piece.length + m ≤ piece.length + k :=
          hleast.2 ((hiff _).mpr (.inr ⟨k, rfl, hk⟩))
        omega
      rw [List.take_length_add_append] at hclosed
      rw [withEndFrom_piece hpiece hlast hbody, ih hleast' (hclosed.behind hpiece), Nat.add_assoc]

/-- Where there is no end, the scan complains of the first parenthesis that is left open, or
else that nothing follows. -/
theorem withEndFrom_of_forall_not
    (hnone : ∀ n, ¬ IsTableEnd OpensBody (before :: tokens) (n + 1)) (hclosed : NoSurplus tokens) :
    (∃ t, FirstOpen tokens t ∧
      withEndFrom before tokens i = .error (.unclosed t.line t.column)) ∨
      AllClosed tokens ∧ withEndFrom before tokens i = .error .withAlone := by
  induction scanned tokens generalizing before i with
  | nil => exact .inr ⟨by simp [AllClosed], by rw [withEndFrom]⟩
  | @leftOpen t ts ht hclosing =>
    refine .inl ⟨t, ⟨[], ts, rfl, ht, leftOpen_of_closing ht hclosing, ?_⟩,
      withEndFrom_leftOpen ht hclosing⟩
    intro front u back heq
    simp at heq
  | surplus ht => exact absurd ht hclosed.not_rParen
  | @piece piece rest hpiece _ ih =>
    obtain ⟨last, hlast⟩ := hpiece.exists_getLast?
    have hiff (n : Nat) := isTableEnd_piece OpensBody before rest n hpiece hlast
    have hbody : ¬ IsLastBody OpensBody before piece rest := fun hbody =>
      hnone _ ((hiff _).mpr (.inl ⟨rfl, hbody⟩))
    have hnone' (n : Nat) : ¬ IsTableEnd OpensBody (last :: rest) (n + 1) := fun hn =>
      hnone _ ((hiff _).mpr (.inr ⟨n, rfl, hn⟩))
    rw [withEndFrom_piece hpiece hlast hbody]
    rcases ih hnone' (hclosed.behind hpiece) with ⟨t, ht, heq⟩ | ⟨hrest, heq⟩
    · exact .inl ⟨t, ht.append_left hpiece.allClosed, heq⟩
    · exact .inr ⟨hpiece.allClosed.append hrest, heq⟩

end Scan

/-! ### The whole statement -/

section Whole

variable {opens opens' : Token → Prop} {w : Token} {tokens rest ts : List Token} {j k : Nat}

theorem IsTableEnd.ne_zero (h : IsTableEnd opens tokens j) : j ≠ 0 := by
  rintro rfl
  obtain ⟨front, word, group, heq, -⟩ := h.body
  simp at heq

open Classical in
theorem IsTableEnd.exists_isLeast (h : IsTableEnd opens tokens j) :
    ∃ k, IsLeast {j | IsTableEnd opens tokens j} k :=
  ⟨_, Nat.isLeast_find ⟨j, h⟩⟩

theorem IsTableEnd.imp (h : IsTableEnd opens tokens j) (himp : ∀ t ∈ tokens, opens t → opens' t) :
    IsTableEnd opens' tokens j := by
  obtain ⟨hle, hdepth, ⟨front, word, group, heq, hword, hgroup⟩, hcomma⟩ := h
  have hmem : word ∈ tokens := List.mem_of_mem_take (i := j) (by simp [heq])
  exact ⟨hle, hdepth, ⟨front, word, group, heq, himp word hmem hword, hgroup⟩, hcomma⟩

/-- In front of a cut the ends are those of all the tokens. -/
theorem isTableEnd_take_append (hk : k < j) (hj : j ≤ tokens.length) :
    IsTableEnd opens (tokens.take j ++ rest) k ↔ IsTableEnd opens tokens k := by
  have htake : (tokens.take j ++ rest).take k = tokens.take k := by
    rw [List.take_append_of_le_length (by simp; omega), List.take_take, Nat.min_eq_left hk.le]
  have hnext : ((tokens.take j ++ rest).drop k).head? = (tokens.drop k).head? := by
    rw [List.head?_drop, List.head?_drop, List.getElem?_append_left (by simp; omega),
      List.getElem?_take_of_lt hk]
  have hcomma : BeginsWith (· = .comma) ((tokens.take j ++ rest).drop k) ↔
      BeginsWith (· = .comma) (tokens.drop k) := by
    rw [beginsWith_iff_head?, beginsWith_iff_head?, hnext]
  constructor
  · rintro ⟨-, hdepth, hbody, hnot⟩
    exact ⟨by omega, htake ▸ hdepth, htake ▸ hbody, mt hcomma.mpr hnot⟩
  · rintro ⟨-, hdepth, hbody, hnot⟩
    exact ⟨by simp; omega, htake.symm ▸ hdepth, htake.symm ▸ hbody, mt hcomma.mp hnot⟩

/-- The first end stays the first one, whatever follows, if that is no comma. -/
theorem isLeast_take_append (hleast : IsLeast {j | IsTableEnd opens tokens j} j)
    (hrest : ¬ BeginsWith (· = .comma) rest) :
    IsLeast {k | IsTableEnd opens (tokens.take j ++ rest) k} j := by
  obtain ⟨⟨hle, hdepth, hbody, -⟩, hfirst⟩ := hleast
  have hlength : (tokens.take j).length = j := List.length_take_of_le hle
  have htake : (tokens.take j ++ rest).take j = tokens.take j := List.take_left' hlength
  refine ⟨⟨by simp; omega, htake.symm ▸ hdepth, htake.symm ▸ hbody, ?_⟩, fun k hk => ?_⟩
  · rwa [List.drop_left' hlength]
  · by_contra hnot
    have hlt := Nat.lt_of_not_le hnot
    exact hlt.not_ge (hfirst ((isTableEnd_take_append hlt hle).mp hk))

/-- The first end is found, if in front of it nothing too many is closed. -/
theorem withEnd_of_isLeast (hleast : IsLeast {j | IsTableEnd OpensBody (w :: ts) j} j)
    (hclosed : NoSurplus (ts.take (j - 1))) : withEnd (w :: ts) = .ok j := by
  obtain ⟨n, rfl⟩ := Nat.exists_eq_succ_of_ne_zero hleast.1.ne_zero
  have hleast' : IsLeast {n | IsTableEnd OpensBody (w :: ts) (n + 1)} n :=
    ⟨hleast.1, fun k hk => Nat.le_of_succ_le_succ (hleast.2 hk)⟩
  rw [withEnd, withEndFrom_of_isLeast hleast' hclosed, Nat.add_comm]

/-- Whatever follows the first end, it is found, unless that is a comma. -/
theorem withEnd_take_append (hclosed : NoSurplus ts)
    (hleast : IsLeast {j | IsTableEnd OpensBody (w :: ts) j} j)
    (hrest : ¬ BeginsWith (· = .comma) rest) : withEnd ((w :: ts).take j ++ rest) = .ok j := by
  have hleast' := isLeast_take_append hleast hrest
  have hle := hleast.1.le
  obtain ⟨n, rfl⟩ := Nat.exists_eq_succ_of_ne_zero hleast.1.ne_zero
  rw [List.take_succ_cons, List.cons_append] at hleast' ⊢
  refine withEnd_of_isLeast hleast' ?_
  rw [Nat.succ_sub_one, List.take_left' (List.length_take_of_le (Nat.le_of_succ_le_succ hle))]
  exact hclosed.mono (List.take_prefix n ts)

theorem withEnd_of_forall_not (hnone : ∀ j, ¬ IsTableEnd OpensBody (w :: ts) j)
    (hclosed : NoSurplus ts) :
    (∃ t, FirstOpen ts t ∧ withEnd (w :: ts) = .error (.unclosed t.line t.column)) ∨
      AllClosed ts ∧ withEnd (w :: ts) = .error .withAlone :=
  withEndFrom_of_forall_not (fun n => hnone (n + 1)) hclosed

/-- An end is found exactly if there is one, and then the first. -/
theorem withEnd_eq_ok_iff (hclosed : NoSurplus ts) :
    withEnd (w :: ts) = .ok j ↔ IsLeast {j | IsTableEnd OpensBody (w :: ts) j} j := by
  have hfound {k : Nat} (hk : IsLeast {j | IsTableEnd OpensBody (w :: ts) j} k) :
      withEnd (w :: ts) = .ok k :=
    withEnd_of_isLeast hk (hclosed.mono (List.take_prefix (k - 1) ts))
  refine ⟨fun h => ?_, hfound⟩
  by_cases hend : ∃ k, IsTableEnd OpensBody (w :: ts) k
  · obtain ⟨k, hk⟩ := hend.choose_spec.exists_isLeast
    obtain rfl := Except.ok.inj ((hfound hk).symm.trans h)
    exact hk
  · rcases withEnd_of_forall_not (not_exists.mp hend) hclosed with ⟨t, -, heq⟩ | ⟨-, heq⟩
    all_goals
      rw [heq] at h
      cases h

/-- The text of the complaint, exactly where there is no end. -/
theorem message_withEnd_iff {text : String} (hclosed : NoSurplus ts) :
    (withEnd (w :: ts)).mapError SyntaxError.message = .error text ↔
      (∀ j, ¬ IsTableEnd OpensBody (w :: ts) j) ∧
        ((∃ t, FirstOpen ts t ∧ text = "Unbalanced parentheses at line " ++ toString t.line ++
            ", col " ++ toString t.column) ∨
          AllClosed ts ∧ text = "WITH clause is not followed by a statement") := by
  constructor
  · intro h
    have hnone : ∀ j, ¬ IsTableEnd OpensBody (w :: ts) j := by
      intro j hj
      obtain ⟨k, hk⟩ := hj.exists_isLeast
      rw [(withEnd_eq_ok_iff hclosed).mpr hk] at h
      cases h
    refine ⟨hnone, ?_⟩
    rcases withEnd_of_forall_not hnone hclosed with ⟨t, ht, heq⟩ | ⟨hall, heq⟩
    · rw [heq] at h
      cases h
      exact .inl ⟨t, ht, rfl⟩
    · rw [heq] at h
      cases h
      exact .inr ⟨hall, rfl⟩
  · rintro ⟨hnone, hwhy⟩
    rcases withEnd_of_forall_not hnone hclosed with ⟨t, ht, heq⟩ | ⟨hall, heq⟩
    · rcases hwhy with ⟨u, hu, rfl⟩ | ⟨hall, -⟩
      · rw [heq, ht.unique hu]
        rfl
      · exact absurd hall ht.not_allClosed
    · rcases hwhy with ⟨u, hu, -⟩ | ⟨-, rfl⟩
      · exact absurd hall hu.not_allClosed
      · rw [heq]
        rfl

/-- **The scan finds the first end**, whatever the first token is, if behind it nothing too many is
closed. Where there is no end, it complains of the first parenthesis that is left open, or else that
nothing follows. An end that is found is also found whatever follows, unless that is a comma. If no
string with a mark spells one of the words in front of a body, then the ends are those behind
words that are not in quotes. -/
theorem withEnd_by_depth (w : Token) {ts : List Token} (hclosed : NoSurplus ts) :
    (∀ j, withEnd (w :: ts) = .ok j ↔ IsLeast {j | IsTableEnd OpensBody (w :: ts) j} j) ∧
    (∀ text, (withEnd (w :: ts)).mapError SyntaxError.message = .error text ↔
      (∀ j, ¬ IsTableEnd OpensBody (w :: ts) j) ∧
        ((∃ t, FirstOpen ts t ∧ text = "Unbalanced parentheses at line " ++ toString t.line ++
            ", col " ++ toString t.column) ∨
          AllClosed ts ∧ text = "WITH clause is not followed by a statement")) ∧
    (∀ j rest, IsLeast {j | IsTableEnd OpensBody (w :: ts) j} j →
      ¬ BeginsWith (· = .comma) rest → withEnd ((w :: ts).take j ++ rest) = .ok j) ∧
    ((∀ t ∈ w :: ts, OpensBody t → isQuoted t.kind = false) →
      ∀ j, IsTableEnd OpensBody (w :: ts) j ↔ IsTableEnd IsBodyWord (w :: ts) j) := by
  refine ⟨fun j => withEnd_eq_ok_iff hclosed, fun text => message_withEnd_iff hclosed,
    fun j rest hleast hrest => withEnd_take_append hclosed hleast hrest, fun hplain j => ?_⟩
  exact ⟨fun h => h.imp fun t ht hopens => ⟨hplain t ht hopens, hopens.2⟩,
    fun h => h.imp fun t _ hword => hword.opensBody⟩

end Whole

/-- The tokens of two common table expressions, the first with names of columns and parentheses
inside its body, and of a parenthesis behind them that is left open. -/
def sampleTables : List Token :=
  [inLine .with_ "WITH" 0 4, inLine .var "a" 5 6, inLine .lParen "(" 7 8, inLine .var "x" 8 9,
    inLine .rParen ")" 9 10, inLine .as_ "AS" 11 13, inLine .lParen "(" 14 15,
    inLine .select "SELECT" 15 21, inLine .lParen "(" 22 23, inLine .number "1" 23 24,
    inLine .rParen ")" 24 25, inLine .rParen ")" 25 26, inLine .comma "," 26 27,
    inLine .var "b" 28 29, inLine .as_ "as" 30 32, inLine .lParen "(" 33 34,
    inLine .select "SELECT" 34 40, inLine .number "2" 41 42, inLine .rParen ")" 42 43,
    inLine .select "SELECT" 44 50, inLine .lParen "(" 51 52]

/-- Two common table expressions end behind the second body, whatever follows; up to a
parenthesis inside the first body there is no end. -/
theorem withEnd_by_depth_sample :
    IsLeast {j | IsTableEnd IsBodyWord sampleTables j} 19 ∧
      withEnd (sampleTables.take 19 ++ [inLine .rParen ")" 43 44]) = .ok 19 ∧
      ∀ j, ¬ IsTableEnd OpensBody (sampleTables.take 9) j := by
  have hclosed : NoSurplus sampleTables.tail := by decide
  obtain ⟨hfound, -, hwhatever, hplain⟩ := withEnd_by_depth (inLine .with_ "WITH" 0 4) hclosed
  have hleast : IsLeast {j | IsTableEnd OpensBody sampleTables j} 19 :=
    (hfound 19).mp (by decide +kernel)
  have hunquoted : ∀ t ∈ sampleTables, OpensBody t → isQuoted t.kind = false := by decide
  have hends : {j | IsTableEnd OpensBody sampleTables j} =
      {j | IsTableEnd IsBodyWord sampleTables j} := Set.ext (hplain hunquoted)
  refine ⟨hends ▸ hleast, hwhatever 19 _ hleast ?_, ?_⟩
  · rintro ⟨t, _, heq, ht⟩
    cases heq
    cases ht
  · obtain ⟨-, hcomplaint, -⟩ :=
      withEnd_by_depth (inLine .with_ "WITH" 0 4) (hclosed.mono (List.take_prefix 8 _))
    exact ((hcomplaint "Unbalanced parentheses at line 1, col 15").mp (by decide +kernel)).1

/-! ### A word in quotes -/

/-- The tokens of a common table expression with a national string, `N'AS'`, in place of the
word in front of its body. -/
def sampleString : List Token :=
  [inLine .with_ "WITH" 0 4, inLine .var "c" 5 6, inLine .nationalString "AS" 7 12,
    inLine .lParen "(" 13 14, inLine .select "SELECT" 14 20, inLine .number "1" 21 22,
    inLine .rParen ")" 22 23, inLine .select "SELECT" 24 30, inLine .number "2" 31 32]

/-- **The end that is found** need not be behind a word: a string with a mark in front is taken for
one. -/
theorem exists_body_behind_string :
    ¬ ∀ (w : Token) (ts : List Token), w.kind = .with_ → NoSurplus ts →
        ∀ j, withEnd (w :: ts) = .ok j ↔ IsLeast {j | IsTableEnd IsBodyWord (w :: ts) j} j := by
  intro hall
  have hfound : withEnd sampleString = .ok 7 := by decide +kernel
  have hclosed : NoSurplus sampleString.tail := by decide
  have hleast : IsLeast {j | IsTableEnd IsBodyWord sampleString j} 7 :=
    (hall _ _ rfl hclosed 7).mp hfound
  obtain ⟨front, word, group, heq, hword, -⟩ := hleast.1.body
  have hmem : word ∈ sampleString := List.mem_of_mem_take (i := 7) (by simp [heq])
  have hunworded : ∀ t ∈ sampleString, ¬ IsBodyWord t := by decide
  exact hunworded word hmem hword

end StatementShape.Statement
