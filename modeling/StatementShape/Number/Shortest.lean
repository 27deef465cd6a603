import StatementShape.Number.Binary64

/-!
# The shortest decimal text of a binary number

A number is written with the fewest digits that read back as itself; of the numerals with as few
digits, the nearest. Numerals are positional for magnitudes from `10 ^ -4` up to `10 ^ 16`, and
otherwise have one digit in front of the point and an exponent of at least two digits.

## Main definitions

* `Interval`: the real numbers that round to a binary number
* `shortest`: the digits, and the place of the decimal point
* `Binary64.text`: the written number
-/

namespace StatementShape.Number

/-- The real numbers that round to a number: `low`, `value` and `high` are given over one
denominator, and the ends belong to it where the significand is even. -/
structure Interval where
  low : Nat
  value : Nat
  high : Nat
  den : Nat
  closed : Bool

/-- The interval of a positive number, in quarters of its unit. Below a power of two the units
are half as long. -/
def Interval.of (m : Nat) (e : Int) : Interval :=
  let below := if m = Binary64.significandBound / 2 ∧ Binary64.leastExponent < e then 1 else 2
  let scale := if 2 ≤ e then Nat.pow 2 (e - 2).toNat else 1
  let den := if 2 ≤ e then 1 else Nat.pow 2 (2 - e).toNat
  { low := (4 * m - below) * scale, value := 4 * m * scale, high := (4 * m + 2) * scale, den,
    closed := m % 2 = 0 }

/-- Whether a quotient lies in an interval. -/
def Interval.holds (i : Interval) (num den : Nat) : Bool :=
  if i.closed then i.low * den ≤ num * i.den && num * i.den ≤ i.high * den
  else i.low * den < num * i.den && num * i.den < i.high * den

/-- The number of decimal digits in front of the point of a quotient; for a quotient below one,
less the zeros right behind the point. -/
def decimalPlaces (num den : Nat) : Int :=
  if den ≤ num then (toString (num / den)).length
  else
    let scaled := Nat.pow 10 (toString den).length * num / den
    (toString scaled).length - (toString den).length

/-- A numeral of a grid: `digits` tens to the power of `exponent`, as a quotient. -/
def gridQuotient (digits : Nat) (exponent : Int) : Nat × Nat :=
  if 0 ≤ exponent then (digits * Nat.pow 10 exponent.toNat, 1)
  else (digits, Nat.pow 10 (-exponent).toNat)

/-- The numeral in an interval on the grid of an exponent: of the two neighbours of the value the
nearer one that lies in it, the even one if both are as near. -/
def Interval.onGrid? (i : Interval) (exponent : Int) : Option Nat :=
  let (one, per) := gridQuotient 1 exponent
  let floor := i.value * per / (i.den * one)
  let inside := fun digits : Nat => i.holds (digits * one) per
  match inside floor, inside (floor + 1) with
  | true, false => some floor
  | false, true => some (floor + 1)
  | true, true => some (roundDiv (i.value * per) (i.den * one))
  | false, false => none

/-- The first grid with a numeral, from the coarsest on: its digits and exponent. -/
def Interval.search (i : Interval) (places : Int) : Nat → Nat → Option (Nat × Int)
  | _, 0 => none
  | digits, fuel + 1 =>
    match i.onGrid? (places - digits) with
    | some n => some (n, places - digits)
    | none => search i places (digits + 1) fuel

/-- The shortest digits of a positive number, and the place of the decimal point behind the first
of them. Seventeen digits always suffice. -/
def shortest (m : Nat) (e : Int) : List Char × Int :=
  let i := Interval.of m e
  match i.search (decimalPlaces i.value i.den) 1 17 with
  | some (n, exponent) =>
    let digits := (toString n).toList
    let kept := (digits.reverse.dropWhile (· = '0')).reverse
    (kept, digits.length + exponent)
  | none => (['0'], 1)

/-- How numbers are written: between which places of the point they are positional, and the least
number of digits of an exponent. -/
structure NumeralStyle where
  leastPlace : Int
  greatestPlace : Int
  exponentWidth : Nat

/-- The style of settings: positional from a ten-thousandth up to sixteen digits. -/
def plainNumerals : NumeralStyle := { leastPlace := -3, greatestPlace := 16, exponentWidth := 2 }

/-- Digits with a point behind the given number of places. -/
def positional (digits : List Char) (place : Int) : List Char :=
  if place ≤ 0 then '0' :: '.' :: (List.replicate (-place).toNat '0' ++ digits)
  else
    let n := place.toNat
    if digits.length ≤ n then digits ++ List.replicate (n - digits.length) '0' ++ ['.', '0']
    else digits.take n ++ '.' :: digits.drop n

/-- Digits with an exponent, one digit in front of the point. -/
def scientific (width : Nat) (digits : List Char) (place : Int) : List Char :=
  let e := place - 1
  let point := if digits.length ≤ 1 then [] else '.' :: digits.drop 1
  digits.take 1 ++ point ++ 'e' :: (if e < 0 then '-' else '+') :: (padLeft width e.natAbs).toList

/-- The written number. -/
def Binary64.text (style : NumeralStyle) : Binary64 → List Char
  | finite negative m e =>
    let sign := if negative then ['-'] else []
    if m = 0 then sign ++ ['0', '.', '0']
    else
      let (digits, place) := shortest m e
      sign ++ if style.leastPlace ≤ place ∧ place ≤ style.greatestPlace then positional digits place
        else scientific style.exponentWidth digits place
  | infinite negative => if negative then "-inf".toList else "inf".toList
  | undefined => "nan".toList

end StatementShape.Number
