/-!
# Spans of a text

A span names a stretch of a text by two offsets, counted in characters. Offsets may be negative,
which counts from the end, and may lie outside the text, which stops at its ends.

## Main definitions

* `Span`: two offsets
* `Span.slice`: the stretch of a text
* `Span.shift`: the same stretch behind some more text

## Main results

* `Span.slice_ofNat`: inside a text, offsets are counted from its start
-/

namespace StatementShape.Text

/-- A span, from its start up to its stop. -/
structure Span where
  start : Int
  stop : Int
  deriving DecidableEq, Repr

namespace Span

/-- An offset in a text of `n` characters: counted from the end if it is negative, and never
outside the text. -/
def place (n : Nat) (offset : Int) : Nat :=
  if offset < 0 then (n + offset).toNat else min offset.toNat n

/-- The stretch of a text that a span names. -/
def slice (s : Span) (text : List Char) : List Char :=
  (text.take (place text.length s.stop)).drop (place text.length s.start)

/-- Moving a span behind `n` more characters. -/
def shift (n : Nat) (s : Span) : Span := { start := s.start + n, stop := s.stop + n }

@[simp] theorem shift_start (n : Nat) (s : Span) : (s.shift n).start = s.start + n := rfl

@[simp] theorem shift_stop (n : Nat) (s : Span) : (s.shift n).stop = s.stop + n := rfl

/-- **Offsets inside a text** are counted from its start. -/
theorem slice_ofNat {text : List Char} {a b : Nat} (ha : a ≤ text.length) (hb : b ≤ text.length) :
    slice { start := a, stop := b } text = (text.take b).drop a := by
  have place_eq : ∀ {k : Nat}, k ≤ text.length → place text.length (k : Int) = k := by
    intro k hk
    simp [place, hk, show ¬ (k : Int) < 0 by omega]
  simp [slice, place_eq ha, place_eq hb]

end Span

end StatementShape.Text
