import StatementShape.Config.Value
import StatementShape.Toml.Text

/-!
# Numbers, dates and times of TOML

Whole numbers are decimal, or hexadecimal, octal or binary behind a sign; a point or an exponent
makes a number a binary one. An underscore may stand between two digits. Dates and times have fixed
numbers of digits.

A decimal whole number has no more digits than a numeral may have. One that is longer is no mistake
of the document, and reading it fails in another way than reading a document that is malformed.

## Main definitions

* `Flaw`: why a document is not read
* `numberIn`: a number in front of a text
* `dateTimeIn`, `timeIn`: a date with or without a time, and a time
-/

namespace StatementShape.Toml

open Calendar (Date Instant Time digitsOf)
open Config (Value)
open Number (Binary64 digitsValue)

/-- Flaws for which a document is not read. -/
inductive Flaw where
  | malformed
  /-- A decimal whole number has more digits than a numeral may have. -/
  | longNumeral
  deriving DecidableEq, Repr

section

variable {α : Type}

/-- What was read, where nothing but a malformed document keeps it from being read. -/
def orMalformed : Option α → Except Flaw α
  | some a => .ok a
  | none => .error .malformed

@[simp] theorem orMalformed_some (a : α) : orMalformed (some a) = .ok a := rfl

@[simp] theorem orMalformed_none : orMalformed (none : Option α) = .error .malformed := rfl

theorem orMalformed_eq_ok {x : Option α} {a : α} : orMalformed x = .ok a ↔ x = some a := by
  cases x <;> simp

end

/-! ### Numbers -/

/-- Digits behind a first one: an underscore counts only in front of a digit. -/
def moreDigits (isDigit : Char → Bool) : List Char → List Char × List Char
  | '_' :: d :: rest =>
    if isDigit d then
      let (ds, r) := moreDigits isDigit rest
      (d :: ds, r)
    else ([], '_' :: d :: rest)
  | d :: rest =>
    if isDigit d then
      let (ds, r) := moreDigits isDigit rest
      (d :: ds, r)
    else ([], d :: rest)
  | [] => ([], [])

/-- Digits in front of a text, at least one. -/
def digitRun (isDigit : Char → Bool) : List Char → Option (List Char × List Char)
  | d :: rest =>
    if isDigit d then
      let (ds, r) := moreDigits isDigit rest
      some (d :: ds, r)
    else none
  | [] => none

/-- Digits of a base. -/
def isDigitOf (base : Nat) (c : Char) : Bool := (Json.hexValue? c).any (· < base)

/-- The value of digits of a base. -/
def valueOf (base : Nat) (digits : List Char) : Nat :=
  digits.foldl (fun n c => base * n + (Json.hexValue? c).getD 0) 0

/-- A number of a base behind its sign. -/
def basedIn : List Char → Option (Nat × List Char)
  | '0' :: c :: rest =>
    let base := if c = 'x' then 16 else if c = 'o' then 8 else if c = 'b' then 2 else 0
    (digitRun (isDigitOf base) rest).map fun (ds, r) => (valueOf base ds, r)
  | _ => none

/-- The whole part of a decimal number: zero, or digits that do not begin with it. -/
def wholeIn : List Char → Option (List Char × List Char)
  | '0' :: rest => some (['0'], rest)
  | cs => digitRun Char.isDigit cs

/-- A sign in front of a text. -/
def signIn : List Char → Bool × List Char
  | '-' :: rest => (true, rest)
  | '+' :: rest => (false, rest)
  | cs => (false, cs)

/-- The exponent behind its letter, if there is one. -/
def exponentIn (cs : List Char) : Option (Int × List Char) :=
  match cs with
  | c :: rest =>
    if c = 'e' ∨ c = 'E' then
      let (negative, rest) := signIn rest
      (digitRun Char.isDigit rest).map fun (ds, r) =>
        (if negative then -(digitsValue ds : Int) else digitsValue ds, r)
    else none
  | [] => none

/-- A decimal number in front of a text. -/
def decimalIn (cs : List Char) : Option (Value × List Char) := do
  let (negative, cs) := signIn cs
  let (whole, cs) ← wholeIn cs
  let fraction := match cs with
    | '.' :: rest => digitRun Char.isDigit rest
    | _ => none
  let (part, cs) := fraction.getD ([], cs)
  let exponent := exponentIn cs
  let (e, cs) := exponent.getD (0, cs)
  if fraction.isNone && exponent.isNone then
    let n : Int := digitsValue whole
    return (.integer (if negative then -n else n), cs)
  else
    return (.float (Binary64.ofDecimal
      { negative, digits := digitsValue (whole ++ part), exponent := e - part.length }), cs)

/-- A number that is none, or an infinite one, with or without a sign. -/
def specialIn (cs : List Char) : Option (Value × List Char) :=
  let (negative, rest) := signIn cs
  match rest with
  | 'i' :: 'n' :: 'f' :: r => some (.float (.infinite negative), r)
  | 'n' :: 'a' :: 'n' :: r => some (.float .undefined, r)
  | _ => none

/-- A number in front of a text. Decimal whole numbers have no zeros in front, so that they have as
many digits as their numerals. -/
def numberIn (cs : List Char) : Except Flaw (Value × List Char) :=
  match basedIn cs with
  | some (n, r) => .ok (.integer n, r)
  | none =>
    match decimalIn cs with
    | some (v, r) => if v.hasNumerals then .ok (v, r) else .error .longNumeral
    | none => orMalformed (specialIn cs)

/-! ### Dates and times -/

/-- A number of two digits between two bounds. -/
def twoDigits (least most : Nat) (cs : List Char) : Option (Nat × List Char) :=
  match digitsOf 2 cs with
  | some (n, rest) => if least ≤ n ∧ n ≤ most then some (n, rest) else none
  | none => none

/-- A number of two digits behind a mark. -/
def markedDigits (mark : Char) (least most : Nat) : List Char → Option (Nat × List Char)
  | c :: rest => if c = mark then twoDigits least most rest else none
  | [] => none

/-- A date by its form, whether or not there is such a day. -/
def dateIn (cs : List Char) : Option (Date × List Char) := do
  let (year, cs) ← digitsOf 4 cs
  let (month, cs) ← markedDigits '-' 1 12 cs
  let (day, cs) ← markedDigits '-' 1 31 cs
  return ({ year, month, day }, cs)

/-- A time in front of a text. -/
def timeIn (cs : List Char) : Option (Time × List Char) := do
  let (hour, cs) ← twoDigits 0 23 cs
  let (minute, cs) ← markedDigits ':' 0 59 cs
  let (second, cs) ← markedDigits ':' 0 59 cs
  match cs with
  | '.' :: d :: rest =>
    if d.isDigit then
      let digits := d :: rest.takeWhile Char.isDigit
      return ({ hour, minute, second, microsecond := Time.fraction digits },
        rest.dropWhile Char.isDigit)
    else return ({ hour, minute, second, microsecond := 0 }, cs)
  | cs => return ({ hour, minute, second, microsecond := 0 }, cs)

/-- The minutes ahead of universal time behind a time, if they are given. -/
def zoneIn (cs : List Char) : Option (Int × List Char) :=
  match cs with
  | c :: rest =>
    if c = 'Z' ∨ c = 'z' then some (0, rest)
    else if c = '+' ∨ c = '-' then do
      let (hours, rest) ← twoDigits 0 23 rest
      let (minutes, rest) ← markedDigits ':' 0 59 rest
      let ahead : Int := 60 * hours + minutes
      return (if c = '-' then -ahead else ahead, rest)
    else none
  | [] => none

/-- A date in front of a text, with a time behind it if there is one. The answer is nothing if no
date stands here, and holds no value if there is no such day. -/
def dateTimeIn (cs : List Char) : Option (Option (Value × List Char)) := do
  let (date, cs) ← dateIn cs
  let time := match cs with
    | c :: rest => if c = 'T' ∨ c = 't' ∨ c = ' ' then timeIn rest else none
    | [] => none
  if !date.isReal then return none
  match time with
  | none => return some (.date date, cs)
  | some (time, cs) =>
    match zoneIn cs with
    | some (ahead, cs) => return some (.dateTime { date, time } (some ahead), cs)
    | none => return some (.dateTime { date, time } none, cs)

end StatementShape.Toml
