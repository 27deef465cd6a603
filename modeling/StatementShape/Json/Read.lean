import StatementShape.Json.Escape
import StatementShape.Json.Value

/-!
# Reading JSON

A reader for the standard format: blanks may stand between any two parts, and nothing but blanks may
stand behind the value.

## Main definitions

* `Json.read`: the value in front of a text
* `Json.decode`: the value that a text spells
-/

namespace StatementShape.Json

open Number (digitsValue)

/-- Blanks between the parts of a value. -/
def isSpace (c : Char) : Bool := c = ' ' || c = '\n' || c = '\r' || c = '\t'

/-- A text without the blanks in front of it. -/
def skipSpace (cs : List Char) : List Char := cs.dropWhile isSpace

/-- The text behind a word that it begins with. -/
def behind? (word : List Char) (cs : List Char) : Option (List Char) :=
  if cs.take word.length = word then some (cs.drop word.length) else none

/-- The digits in front of a text, at least one. -/
def digits? (cs : List Char) : Option (List Char × List Char) :=
  let ds := cs.takeWhile Char.isDigit
  if ds.isEmpty then none else some (ds, cs.dropWhile Char.isDigit)

/-- The digits behind a point, if there is one. -/
def fraction? (cs : List Char) : Option (List Char × List Char) :=
  match cs with
  | '.' :: rest => digits? rest
  | _ => none

/-- The exponent of a number, if there is one. -/
def exponent? (cs : List Char) : Option (Int × List Char) :=
  match cs with
  | c :: rest =>
    if c = 'e' ∨ c = 'E' then
      let (negative, rest) := match rest with
        | '-' :: r => (true, r)
        | '+' :: r => (false, r)
        | r => (false, r)
      (digits? rest).map fun (ds, r) =>
        (if negative then -(digitsValue ds : Int) else digitsValue ds, r)
    else none
  | [] => none

/-- The number in front of a text. A first digit of zero stands alone. -/
def number? (cs : List Char) : Option (Json × List Char) := do
  let (negative, cs) := match cs with
    | '-' :: r => (true, r)
    | r => (false, r)
  let (whole, rest) ← digits? cs
  if whole.head? = some '0' ∧ 1 < whole.length then none
  else
    let (part, rest) := (fraction? rest).getD ([], rest)
    match exponent? rest with
    | some (e, rest) =>
      some (.decimal ⟨negative, digitsValue (whole ++ part), e - part.length⟩, rest)
    | none =>
      if part.isEmpty then
        let n : Int := digitsValue whole
        some (.integer (if negative then -n else n), rest)
      else some (.decimal ⟨negative, digitsValue (whole ++ part), -(part.length : Int)⟩, rest)

mutual

/-- The value in front of a text, and the rest. -/
def read : Nat → List Char → Option (Json × List Char)
  | 0, _ => none
  | fuel + 1, cs =>
    match skipSpace cs with
    | 'n' :: rest => (behind? "ull".toList rest).map fun r => (.null, r)
    | 't' :: rest => (behind? "rue".toList rest).map fun r => (.bool true, r)
    | 'f' :: rest => (behind? "alse".toList rest).map fun r => (.bool false, r)
    | '"' :: rest => (decodeString (rest.length + 1) rest).map fun (s, r) => (.string s, r)
    | '[' :: rest =>
      match skipSpace rest with
      | ']' :: r => some (.array [], r)
      | _ => (readItems fuel rest).map fun (vs, r) => (.array vs, r)
    | '{' :: rest =>
      match skipSpace rest with
      | '}' :: r => some (.object [], r)
      | _ => (readMembers fuel rest).map fun (ms, r) => (.object ms, r)
    | rest => number? rest

/-- The items of an array up to its closing bracket. -/
def readItems : Nat → List Char → Option (List Json × List Char)
  | 0, _ => none
  | fuel + 1, cs => do
    let (v, rest) ← read fuel cs
    match skipSpace rest with
    | ',' :: r =>
      let (vs, r) ← readItems fuel r
      return (v :: vs, r)
    | ']' :: r => return ([v], r)
    | _ => none

/-- The members of an object up to its closing brace. -/
def readMembers : Nat → List Char → Option (List (List Char × Json) × List Char)
  | 0, _ => none
  | fuel + 1, cs =>
    match skipSpace cs with
    | '"' :: rest => do
      let (k, rest) ← decodeString (rest.length + 1) rest
      match skipSpace rest with
      | ':' :: r =>
        let (v, r) ← read fuel r
        match skipSpace r with
        | ',' :: r =>
          let (ms, r) ← readMembers fuel r
          return ((k, v) :: ms, r)
        | '}' :: r => return ([(k, v)], r)
        | _ => none
      | _ => none
    | _ => none

end

/-- The value that a text spells. Every part of a value takes a character, so the length of the
text bounds its depth. -/
def decode (cs : List Char) : Option Json :=
  match read (2 * cs.length + 1) cs with
  | some (v, rest) => if (skipSpace rest).isEmpty then some v else none
  | none => none

end StatementShape.Json
