/-!
# Decimal numbers

Numerals with a point or an exponent denote a whole number of units of a power of ten, with a sign
of its own, so that a negative zero is kept. A whole number is read from decimal digits and written
in them only up to a number of digits, which leaves numbers without a numeral.

## Main definitions

* `digitsValue`: the value of a sequence of ASCII digits
* `Decimal`: sign, digits and exponent
* `padLeft`: a numeral of a least width
* `mostDigits`, `hasNumeral`: the whole numbers that are read and written in decimal digits
-/

namespace StatementShape.Number

/-- The value of a digit. -/
def digitValue (c : Char) : Nat := c.toNat - '0'.toNat

/-- The value of a sequence of digits, the first the most significant. -/
def digitsValue (cs : List Char) : Nat := cs.foldl (fun n c => 10 * n + digitValue c) 0

/-- A decimal number: `digits · 10 ^ exponent`, negative or not. -/
structure Decimal where
  negative : Bool
  digits : Nat
  exponent : Int
  deriving DecidableEq, Repr

/-- A numeral with zeros in front up to a width. -/
def padLeft (width : Nat) (n : Nat) : String :=
  let text := toString n
  String.ofList (List.replicate (width - text.length) '0') ++ text

/-- Numerals of whole numbers have at most this many digits. -/
def mostDigits : Nat := 4300

/-- Whether a whole number has a numeral. A sign does not count. -/
def hasNumeral (n : Int) : Bool := (Nat.toDigits 10 n.natAbs).length ≤ mostDigits

end StatementShape.Number
