import StatementShape.Sql.Lexer

/-!
# Lines and columns

The line and the column of a character can be counted from the text alone: a line ends behind a line
feed or a carriage return, and once behind the two together. Behind some text the count goes on from
where that text ends, so that the place of a character in the rest of a text tells its place in the
whole.

## Main definitions

* `placeOf`: the line and the column of a character
* `countedOn`: a place in the rest of a text, counted on from where the rest begins

## Main results

* `placeBehind_append`: counting one text behind another
* `placeOf_add`: the place of a character in a text, and in the rest of it
* `countedOn_eq_self_iff`: where counting on makes no difference
-/

namespace StatementShape.Sql

/-! ### Counting -/

/-- Characters that end a line. -/
def isLineEnd (c : Char) : Bool := c == '\n' || c == '\r'

/-- The place of a character behind another one: line and column, both counted from 1. -/
def nextPlace (place : Nat × Nat) (last : Option Char) (next : Char) : Nat × Nat :=
  if last = some '\r' ∧ next = '\n' then place
  else if last.any isLineEnd then (place.1 + 1, 1)
  else (place.1, place.2 + 1)

/-- The place of the last character of some text that is read behind a character at a place. -/
def placeBehind (place : Nat × Nat) (last : Option Char) : List Char → Nat × Nat
  | [] => place
  | c :: cs => placeBehind (nextPlace place last c) (some c) cs

/-- The place of a character in a text, by its offset. -/
def placeOf (text : List Char) (i : Nat) : Nat × Nat := placeBehind (1, 0) none (text.take (i + 1))

/-- A place counted on from the place where a text begins. -/
def countedOn (base place : Nat × Nat) : Nat × Nat :=
  if place.1 = 1 then (base.1, base.2 + place.2 - 1) else (base.1 + place.1 - 1, place.2)

section Counting

variable {place base : Nat × Nat} {last : Option Char} {c : Char} {text rest : List Char}
  {i n : Nat}

theorem placeBehind_append (place : Nat × Nat) (last : Option Char) (a b : List Char) :
    placeBehind place last (a ++ b) =
      placeBehind (placeBehind place last a) (a.getLast?.or last) b := by
  induction a generalizing place last with
  | nil => rfl
  | cons c cs ih =>
    rw [List.cons_append, placeBehind, placeBehind, ih, List.getLast?_cons]
    cases cs.getLast? <;> rfl

theorem nextPlace_of_not_isLineEnd (h : last.any isLineEnd = false) (place : Nat × Nat) (c : Char) :
    nextPlace place last c = (place.1, place.2 + 1) := by
  rw [nextPlace, if_neg, if_neg (by simp [h])]
  rintro ⟨rfl, -⟩
  cases h

/-- Within a line only the column is counted. -/
theorem placeBehind_of_line (place : Nat × Nat) (c : Char) {cs : List Char}
    (h : ∀ x ∈ (c :: cs).dropLast, isLineEnd x = false) :
    placeBehind place (some c) cs = (place.1, place.2 + cs.length) := by
  induction cs generalizing place c with
  | nil => rfl
  | cons d cs ih =>
    rw [List.dropLast_cons_cons, List.forall_mem_cons] at h
    have hplain : (some c).any isLineEnd = false := h.1
    rw [placeBehind, nextPlace_of_not_isLineEnd hplain, ih _ d h.2, List.length_cons]
    simp only [Prod.mk.injEq, true_and]
    omega

/-- A place is never in front of the first column of a text, nor of its first line. -/
theorem le_placeBehind (h : 1 ≤ place.1 ∧ 1 ≤ place.2) (last : Option Char) (cs : List Char) :
    1 ≤ (placeBehind place last cs).1 ∧ 1 ≤ (placeBehind place last cs).2 := by
  induction cs generalizing place last with
  | nil => exact h
  | cons c cs ih =>
    refine ih ?_ (some c)
    unfold nextPlace
    split
    · exact h
    split
    · exact ⟨Nat.le_add_left 1 _, Nat.le_refl 1⟩
    · exact ⟨h.1, Nat.le_add_left 1 _⟩

/-- One more character moves a place that is counted on as it moves the place itself. -/
theorem nextPlace_countedOn (hplace : 1 ≤ place.1 ∧ 1 ≤ place.2) (hbase : 1 ≤ base.1 ∧ 1 ≤ base.2)
    (last : Option Char) (c : Char) :
    nextPlace (countedOn base place) last c = countedOn base (nextPlace place last c) := by
  unfold nextPlace
  split
  · rfl
  split
  · simp only [countedOn]
    split
    · rw [if_neg (by omega)]
      simp only [Prod.mk.injEq, and_true]
      omega
    · rw [if_neg (by omega)]
      simp only [Prod.mk.injEq, and_true]
      omega
  · simp only [countedOn]
    split
    · simp only [Prod.mk.injEq, true_and]
      omega
    · rfl

theorem placeBehind_countedOn (hplace : 1 ≤ place.1 ∧ 1 ≤ place.2)
    (hbase : 1 ≤ base.1 ∧ 1 ≤ base.2) (last : Option Char) (cs : List Char) :
    placeBehind (countedOn base place) last cs = countedOn base (placeBehind place last cs) := by
  induction cs generalizing place last with
  | nil => rfl
  | cons c cs ih =>
    rw [placeBehind, placeBehind, nextPlace_countedOn hplace hbase]
    exact ih (le_placeBehind hplace last [c]) (some c)

/-- A place in a text is in its first line or behind, and in its first column or behind. -/
theorem le_placeOf (h : i < text.length) :
    1 ≤ (placeOf text i).1 ∧ 1 ≤ (placeOf text i).2 := by
  cases text with
  | nil => cases h
  | cons c cs =>
    rw [placeOf, List.take_succ_cons, placeBehind]
    exact le_placeBehind (by simp [nextPlace]) _ _

theorem placeOf_of_prefix (h : rest <+: text) (hi : i < rest.length) :
    placeOf rest i = placeOf text i := by
  obtain ⟨back, rfl⟩ := h
  rw [placeOf, placeOf, List.take_append_of_le_length hi]

/-- **The place of a character** behind some text is counted on from where the rest begins. -/
theorem placeOf_add (h : n + i < text.length) :
    placeOf text (n + i) = countedOn (placeOf text n) (placeOf (text.drop n) i) := by
  have hbase : 1 ≤ (placeOf text n).1 ∧ 1 ≤ (placeOf text n).2 := le_placeOf (by omega)
  obtain ⟨c, cs, hrest⟩ := List.exists_cons_of_ne_nil (l := text.drop n) fun hnil => by
    have hlength := congrArg List.length hnil
    rw [List.length_drop, List.length_nil] at hlength
    omega
  have hfront : text.take (n + 1) = text.take n ++ [c] := by
    rw [List.take_add, hrest, List.take_succ_cons, List.take_zero]
  have hwhole : text.take (n + i + 1) = text.take (n + 1) ++ cs.take i := by
    rw [hfront, Nat.add_assoc, List.take_add, hrest, List.take_succ_cons, List.append_assoc,
      List.singleton_append]
  -- the first character of the rest is where the base is
  have hfirst : countedOn (placeOf text n) (1, 1) = placeOf text n := by
    simp only [countedOn, if_true]
    exact Prod.ext rfl (by simp only; omega)
  have hlast : (text.take (n + 1)).getLast?.or none = some c := by
    rw [hfront, List.getLast?_concat, Option.some_or]
  rw [placeOf, hwhole, placeBehind_append, hlast, hrest]
  change placeBehind (placeOf text n) (some c) (cs.take i) = _
  rw [← hfirst, placeBehind_countedOn ⟨Nat.le_refl 1, Nat.le_refl 1⟩ hbase, hfirst]
  simp [placeOf, placeBehind, nextPlace]

/-- **Counting on** makes a difference, unless from the beginning of a text, or to a later line from
within the first one. -/
theorem countedOn_eq_self_iff (hplace : 1 ≤ place.1 ∧ 1 ≤ place.2)
    (hbase : 1 ≤ base.1 ∧ 1 ≤ base.2) :
    countedOn base place = place ↔ base = (1, 1) ∨ base.1 = 1 ∧ place.1 ≠ 1 := by
  unfold countedOn
  obtain ⟨b1, b2⟩ := base
  obtain ⟨p1, p2⟩ := place
  dsimp only at hplace hbase ⊢
  split
  · simp only [Prod.mk.injEq]
    omega
  · next hline =>
    simp only [Prod.mk.injEq, and_true, hline, not_false_eq_true, ne_eq]
    omega

end Counting

end StatementShape.Sql
