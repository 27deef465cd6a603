import Mathlib.Data.List.Chain
import StatementShape.Sql.Reader

/-!
# Tokens in order

The tokens of a text follow one another: each starts where the one in front of it has stopped, or
behind it, and stops inside the text. Two kinds of tokens share text with the one in front of them,
and need only not stop before it: the raw text behind a command word, and the parts of a number with
a suffix.

## Main definitions

* `Shares`, `Follows`: two tokens one behind the other
* `InOrder`: tokens of a text that follow one another
* `Reader.KeepsOrder`: a language cuts every text into tokens in order
* `Reader.StopsInside`: a language cuts every text into tokens that stop inside it
-/

namespace StatementShape.Sql

/-! ### Order -/

/-- A token that shares text with the one in front of it: raw text, or a part of a number. None
of them stands behind a semicolon. -/
def Shares (t u : Token) : Prop :=
  t.kind ≠ .semicolon ∧ (u.kind = .string ∨ u.kind = .dcolon ∨ u.kind = .type)

/-- One token behind another. -/
def Follows (t u : Token) : Prop :=
  t.stop ≤ u.stop ∧ (Shares t u ∨ t.stop ≤ u.start ∧ u.start < u.stop)

/-- Tokens in order in a text. -/
structure InOrder (text : List Char) (tokens : List Token) : Prop where
  head : ∀ t ∈ tokens.head?, t.start < t.stop
  chain : tokens.IsChain Follows
  inside : ∀ t ∈ tokens, t.stop ≤ text.length

instance (t u : Token) : Decidable (Shares t u) :=
  inferInstanceAs (Decidable (_ ∧ _))

instance (t u : Token) : Decidable (Follows t u) :=
  inferInstanceAs (Decidable (_ ∧ _))

instance (text : List Char) (tokens : List Token) : Decidable (InOrder text tokens) :=
  decidable_of_iff ((∀ t ∈ tokens.head?, t.start < t.stop) ∧ tokens.IsChain Follows ∧
      ∀ t ∈ tokens, t.stop ≤ text.length)
    ⟨fun h => ⟨h.1, h.2.1, h.2.2⟩, fun h => ⟨h.head, h.chain, h.inside⟩⟩

/-- A language keeps order if it cuts every text into tokens in order. -/
def Reader.KeepsOrder (r : Reader) : Prop :=
  ∀ text tokens, r.tokens text = some tokens → InOrder text tokens

/-- A language stops inside its texts if every token stops behind the start of its text, and not
behind the end of it. -/
def Reader.StopsInside (r : Reader) : Prop :=
  ∀ text tokens, r.tokens text = some tokens → ∀ t ∈ tokens, 0 < t.stop ∧ t.stop ≤ text.length

section InOrder

variable {text : List Char} {t u : Token} {tokens front back : List Token}

theorem InOrder.left (h : InOrder text (front ++ back)) : InOrder text front where
  head t ht := by
    cases front with
    | nil => cases ht
    | cons u us => exact h.head t ht
  chain := h.chain.left_of_append
  inside t ht := h.inside t (List.mem_append_left back ht)

/-- A token that shares no text starts behind the one in front of it. -/
theorem InOrder.apart (h : InOrder text (front ++ back)) (ht : front.getLast? = some t)
    (hu : back.head? = some u) (hshares : ¬ Shares t u) : t.stop ≤ u.start ∧ u.start < u.stop :=
  ((List.isChain_append.mp h.chain).2.2 t ht u hu).2.resolve_left hshares

/-- The tokens behind some others are in order, if the first of them shares no text. -/
theorem InOrder.right (h : InOrder text (front ++ back)) (ht : front.getLast? = some t)
    (hshares : ∀ u ∈ back.head?, ¬ Shares t u) : InOrder text back where
  head u hu := (h.apart ht hu (hshares u hu)).2
  chain := h.chain.right_of_append
  inside t ht := h.inside t (List.mem_append_right front ht)

/-- The tokens behind a semicolon are in order, and start behind it. -/
theorem InOrder.behind_semicolon (h : InOrder text (front ++ t :: back))
    (ht : t.kind = .semicolon) : InOrder text back ∧ ∀ u ∈ back.head?, t.stop ≤ u.start := by
  have h : InOrder text ((front ++ [t]) ++ back) := by
    rwa [List.append_assoc, List.singleton_append]
  have hlast : (front ++ [t]).getLast? = some t := List.getLast?_concat
  have hshares : ∀ u, ¬ Shares t u := fun u hu => hu.1 ht
  exact ⟨h.right hlast fun u _ => hshares u, fun u hu => (h.apart hlast hu (hshares u)).1⟩

/-- One more token behind some others. -/
theorem InOrder.concat (h : InOrder text tokens) (hfollows : ∀ t ∈ tokens.getLast?, Follows t u)
    (hfirst : tokens = [] → u.start < u.stop) (hinside : u.stop ≤ text.length) :
    InOrder text (tokens ++ [u]) where
  head t ht := by
    cases tokens with
    | nil => cases ht; exact hfirst rfl
    | cons v vs => exact h.head t ht
  chain := h.chain.append (List.isChain_singleton u) fun t ht v hv => by
    cases hv
    exact hfollows t ht
  inside t ht := by
    rcases List.mem_append.mp ht with ht | ht
    · exact h.inside t ht
    · exact List.mem_singleton.mp ht ▸ hinside

/-- Tokens in order start before they stop, all together. -/
theorem InOrder.start_lt_stop (h : InOrder text tokens) (ht : tokens.head? = some t)
    (hu : tokens.getLast? = some u) : t.start < u.stop := by
  -- stops never decrease, also where tokens share text
  have hstops : (tokens.map (·.stop)).IsChain (· ≤ ·) :=
    (List.isChain_map (·.stop)).mpr (h.chain.imp fun _ _ hfollows => hfollows.1)
  have hsorted := List.isChain_iff_pairwise.mp hstops
  obtain ⟨ts, rfl⟩ : ∃ ts, tokens = t :: ts := by
    cases tokens with
    | nil => cases ht
    | cons v vs => cases ht; exact ⟨vs, rfl⟩
  have hlt := h.head t rfl
  rcases List.mem_cons.mp (List.mem_of_getLast? hu) with rfl | hmem
  · exact hlt
  · have hle := (List.pairwise_cons.mp hsorted).1 u.stop (List.mem_map_of_mem hmem)
    exact Nat.lt_of_lt_of_le hlt hle

/-- Tokens in order stop behind the start of their text: none of them before the first. -/
theorem InOrder.stop_pos (h : InOrder text tokens) (ht : t ∈ tokens) : 0 < t.stop := by
  obtain ⟨front, back, rfl⟩ := List.append_of_mem ht
  have hfront : InOrder text (front ++ [t]) := by
    rw [List.append_cons] at h
    exact h.left
  obtain ⟨v, hv⟩ : ∃ v, (front ++ [t]).head? = some v := by cases front <;> simp
  have hlt := hfront.start_lt_stop hv List.getLast?_concat
  omega

/-- A language that keeps order stops inside its texts. -/
theorem Reader.KeepsOrder.stopsInside {r : Reader} (hr : r.KeepsOrder) : r.StopsInside :=
  fun text tokens h t ht => ⟨(hr text tokens h).stop_pos ht, (hr text tokens h).inside t ht⟩

/-- A language given by a table keeps order if the tokens of each entry are in order. -/
theorem Reader.keepsOrder_of_lookup {r : Reader} {table : List (List Char × List Token)}
    (hr : ∀ text, r.tokens text = table.lookup text)
    (h : ∀ entry ∈ table, InOrder entry.1 entry.2) : r.KeepsOrder := by
  intro text tokens htokens
  obtain ⟨front, back, heq, -⟩ := List.lookup_eq_some_iff.mp ((hr text).symm.trans htokens)
  exact h (text, tokens) (by rw [heq]; simp)

end InOrder

end StatementShape.Sql
