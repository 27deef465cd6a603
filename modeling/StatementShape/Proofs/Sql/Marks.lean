import Mathlib.Data.List.Infix
import StatementShape.Proofs.Sql.Place

/-!
# Marks within a line

The lexer takes some steps of several characters, which may end a line only with the last of them,
or else the lines between are not counted. All marks of all dialects stay within a line, and so do
these steps, but one: a spelling of several words may be written across lines. In a text without
such spellings lines are counted right.

## Main definitions

* `Lexical.StaysInLine`: conventions whose marks hold no line ends
* `Unbroken`: texts in which no spelling is written across lines
* `IsCounted`: texts in which lines are counted right

## Main results

* `staysInLine_lexical`: the marks of every dialect stay within a line
* `at?_of_probe`: a spelling without blanks is found where it stands
* `Unbroken.inLine_of_probe`: a spelling with blanks does not leave a line
-/

namespace StatementShape.Sql

open Text

/-! ### Marks within a line -/

/-- A text within a line: it holds no line ends. -/
def InLine (cs : List Char) : Prop := ∀ c ∈ cs, isLineEnd c = false

-- decided by the characters of the text; another instance tries all characters that there are
instance (cs : List Char) : Decidable (InLine cs) :=
  List.decidableBAll (fun c => isLineEnd c = false) cs

theorem inLine_nil : InLine [] := List.forall_mem_nil _

theorem inLine_before_one (cs : List Char) : InLine (cs.take (1 - 1)) := inLine_nil

theorem isBlank_of_isLineEnd {c : Char} (h : isLineEnd c = true) : isBlank c = true := by
  rw [isLineEnd, Bool.or_eq_true, beq_iff_eq, beq_iff_eq] at h
  rcases h with rfl | rfl <;> decide

theorem inLine_of_any_isBlank {cs : List Char} (h : ¬ cs.any isBlank = true) : InLine cs := by
  intro c hc
  by_contra hend
  rw [Bool.not_eq_false] at hend
  exact h (List.any_eq_true.mpr ⟨c, hc, isBlank_of_isLineEnd hend⟩)

/-- A spelling of one word: it holds no blanks, and no line ends. -/
def IsSolid (cs : List Char) : Prop := InLine cs ∧ ' ' ∉ cs

instance (cs : List Char) : Decidable (IsSolid cs) :=
  inferInstanceAs (Decidable (InLine cs ∧ ' ' ∉ cs))

/-- Conventions whose marks stay within a line. Of all marks and spellings only the left
parenthesis is a token of its kind. -/
structure Lexical.StaysInLine (lx : Lexical) : Prop where
  quotation : ∀ q ∈ lx.quotations,
    IsSolid q.opening ∧ InLine q.closing ∧ q.kind ≠ .lParen
  identifier : ∀ q ∈ lx.identifiers, isLineEnd q.2 = false
  escapes : InLine lx.escapes
  byteEscapes : InLine lx.byteEscapes
  comment : ∀ c ∈ lx.commentStarts, IsSolid c.1.toList ∧ InLine (c.2.getD "").toList
  word : ∀ w ∈ lx.words, w.2 ≠ .lParen
  mark : ∀ m ∈ lx.marks, m.2 = .lParen → m.1 = '('

theorem staysInLine_lexical (d : Dialect) : d.lexical.StaysInLine := by
  constructor
  all_goals cases d <;> decide +kernel

/-! ### Probing -/

/-- What probing looks at in front of a text, if it finds a spelling there, up to the last
character but one. -/
def Lexical.looksOver (lx : Lexical) : List Char → List Char
  | [] => []
  | x :: more =>
    let probe := probeFrom lx.isMark lx.markedSpellings [] none 0 false (lx.isMark x) x more
    if probe.word.isSome then (x :: more).take (probe.length - 1) else []

/-- A text without broken spellings: wherever a spelling of several words stands in it, in
quotes and comments too, it stands within a line. -/
def Unbroken (lx : Lexical) (text : List Char) : Prop :=
  ∀ rest ∈ text.tails, InLine (lx.looksOver rest)

instance (lx : Lexical) (text : List Char) : Decidable (Unbroken lx text) :=
  inferInstanceAs (Decidable (∀ rest ∈ text.tails, InLine (lx.looksOver rest)))

/-- A text in which lines are counted right. -/
structure IsCounted (lx : Lexical) (text : List Char) : Prop where
  marks : lx.StaysInLine
  unbroken : Unbroken lx text

section Probing

variable {lx : Lexical} {isMark : Char → Bool} {spellings : List (List Char)}
  {seen front more w : List Char} {word : Option (List Char)} {length : Nat}
  {afterBlank marked : Bool} {x : Char} {c : Cursor}

/-- A word that probing goes on to find stands at the front of the text, if it has no blanks. -/
theorem prefix_of_go
    (hseen : ' ' ∉ seen → front = seen.reverse ∧ afterBlank = false)
    (hword : ∀ w, word = some w → ' ' ∉ w → w <+: front)
    (h : (probeFrom.go isMark spellings seen word length afterBlank marked more).word = some w)
    (hw : ' ' ∉ w) : w <+: front ++ more := by
  -- blanks that are left out only follow a blank that is kept
  induction more generalizing spellings seen front word length afterBlank marked with
  | nil => exact (hword w h hw).trans (List.prefix_append _ _)
  | cons y more ih =>
    rw [probeFrom.go] at h
    dsimp only at h
    split at h
    · next hskip =>
      rw [Bool.and_eq_true] at hskip
      have hblank : ' ' ∉ seen → front ++ [y] = seen.reverse ∧ afterBlank = false :=
        fun hnot => by simp [(hseen hnot).2] at hskip
      have ih := ih hblank
        (fun w hw hnot => (hword w hw hnot).trans (List.prefix_append _ _)) h
      rwa [List.append_assoc, List.singleton_append] at ih
    generalize hy : (if isBlank y then ' ' else y) = y' at h
    have hkept : y' ≠ ' ' → y' = y ∧ isBlank y = false := by
      rw [← hy]
      cases isBlank y <;> simp
    split at h
    · exact (hword w h hw).trans (List.prefix_append _ _)
    · have hnext : ' ' ∉ y' :: seen →
          front ++ [y] = (y' :: seen).reverse ∧ isBlank y = false := by
        intro hnot
        rw [List.mem_cons, not_or] at hnot
        obtain ⟨rfl, hplain⟩ := hkept (Ne.symm hnot.1)
        rw [List.reverse_cons, (hseen hnot.2).1]
        exact ⟨rfl, hplain⟩
      have ih := ih hnext (fun w hw hnot => ?_) h
      · rwa [List.append_assoc, List.singleton_append] at ih
      · split at hw
        · obtain rfl := Option.some.inj hw
          rw [List.mem_reverse] at hnot
          rw [← (hnext hnot).1]
        · exact (hword w hw hnot).trans (List.prefix_append _ _)

/-- **A spelling without blanks** is found where it stands. -/
theorem at?_of_probe (h : (lx.probe c).word = some w) (hw : ' ' ∉ w) : c.at? w = true := by
  unfold Lexical.probe at h
  unfold Cursor.at?
  split at h
  · cases h
  · next x hx =>
    rw [hx]
    dsimp only
    have hfound : w <+: [x] ++ c.rest := by
      unfold probeFrom at h
      dsimp only at h
      split at h
      · cases h
      · refine prefix_of_go (fun _ => ⟨rfl, rfl⟩) (fun w hw hnot => ?_) h hw
        split at hw
        · obtain rfl := Option.some.inj hw
          exact List.prefix_refl _
        · cases hw
    rw [beq_iff_eq]
    exact (List.prefix_iff_eq_take.mp hfound).symm

/-- **What probing looks over** stays within a line in an unbroken text. -/
theorem Unbroken.inLine_of_probe {text : List Char} (h : Unbroken lx text)
    (htext : text = front ++ x :: c.rest) (hx : c.last = some x)
    (hword : (lx.probe c).word = some w) : InLine (c.rest.take ((lx.probe c).length - 2)) := by
  have hlook := h (x :: c.rest) ((List.mem_tails _ _).mpr ⟨front, htext.symm⟩)
  have hprobe : lx.probe c =
      probeFrom lx.isMark lx.markedSpellings [] none 0 false (lx.isMark x) x c.rest := by
    rw [Lexical.probe, hx]
  rw [Lexical.looksOver, ← hprobe, hword, Option.isSome_some, if_pos rfl] at hlook
  intro y hy
  refine hlook y ?_
  cases hlength : (lx.probe c).length - 1 with
  | zero =>
    rw [show (lx.probe c).length - 2 = 0 by omega, List.take_zero] at hy
    cases hy
  | succ n =>
    rw [show (lx.probe c).length - 2 = n by omega] at hy
    exact List.mem_cons_of_mem _ hy

end Probing

end StatementShape.Sql
