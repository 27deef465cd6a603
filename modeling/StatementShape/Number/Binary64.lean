import StatementShape.Number.Decimal

/-!
# Binary numbers of 64 bits

A finite number is a whole number of at most 53 bits, times a power of two. A decimal number is
rounded to the nearest of them, and of two that are equally near to the one with the even
significand.

## Main definitions

* `Binary64`: the numbers
* `roundDiv`: a quotient to the nearest whole number
* `Binary64.ofDecimal`: the nearest number to a decimal one
-/

namespace StatementShape.Number

/-- Numbers of 64 bits. A finite one is `significand · 2 ^ exponent`, with a sign of its own. -/
inductive Binary64 where
  | finite (negative : Bool) (significand : Nat) (exponent : Int)
  | infinite (negative : Bool)
  | undefined
  deriving DecidableEq, Repr

/-- A quotient to the nearest whole number; a half goes to the even neighbour. -/
def roundDiv (num den : Nat) : Nat :=
  let q := num / den
  let twice := 2 * (num % den)
  if twice < den ∨ (twice = den ∧ q % 2 = 0) then q else q + 1

namespace Binary64

/-- The least exponent of a finite number. -/
def leastExponent : Int := -1074

/-- The greatest exponent of a finite number. -/
def greatestExponent : Int := 971

/-- A significand is below this power of two. -/
def significandBound : Nat := Nat.pow 2 53

/-- A quotient in units of a power of two, rounded. -/
def inUnits (num den : Nat) (exponent : Int) : Nat :=
  if 0 ≤ exponent then roundDiv num (den * Nat.pow 2 exponent.toNat)
  else roundDiv (num * Nat.pow 2 (-exponent).toNat) den

/-- The exponent for a quotient: the least one whose units the quotient has fewer of than the
bound, before rounding. -/
def exponentFor (num den : Nat) : Int :=
  let guess := max leastExponent ((num.log2 : Int) - den.log2 - 53)
  let fits := if 0 ≤ guess then num < significandBound * (den * Nat.pow 2 guess.toNat)
    else num * Nat.pow 2 (-guess).toNat < significandBound * den
  if fits then guess else guess + 1

/-- The nearest number to a quotient. Beyond the greatest finite number it is infinite. -/
def ofQuotient (negative : Bool) (num den : Nat) : Binary64 :=
  if num = 0 then .finite negative 0 leastExponent
  else
    let e := exponentFor num den
    let m := inUnits num den e
    let (m, e) := if m < significandBound then (m, e) else (m / 2, e + 1)
    if e ≤ greatestExponent then .finite negative m e else .infinite negative

/-- The nearest number to a decimal one. Decimal exponents that are far out of range are not
computed with. -/
def ofDecimal (d : Decimal) : Binary64 :=
  let magnitude := (toString d.digits).length + d.exponent
  if d.digits = 0 ∨ magnitude < -400 then .finite d.negative 0 leastExponent
  else if 400 < magnitude then .infinite d.negative
  else if 0 ≤ d.exponent then ofQuotient d.negative (d.digits * Nat.pow 10 d.exponent.toNat) 1
  else ofQuotient d.negative d.digits (Nat.pow 10 (-d.exponent).toNat)

/-- The whole number that a number is, if it is one. -/
def asInteger? : Binary64 → Option Int
  | finite negative m e =>
    let signed := fun n : Nat => if negative then -(n : Int) else n
    if 0 ≤ e then some (signed (m * Nat.pow 2 e.toNat))
    else if m % Nat.pow 2 (-e).toNat = 0 then some (signed (m / Nat.pow 2 (-e).toNat))
    else none
  | _ => none

end Binary64

end StatementShape.Number
