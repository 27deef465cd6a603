import StatementShape.Json.Escape
import StatementShape.Json.Value

/-!
# Writing JSON

A value is written on one line, or over several lines with the depth of each line shown by blanks.

## Main definitions

* `Json.Spacing`: what stands between the parts of a value
* `Json.line`: a value on one line
* `Json.pretty`: a value over several lines
-/

namespace StatementShape.Json

open Number (Decimal)

/-- A whole number. -/
def integerText (n : Int) : List Char := (toString n).toList

/-- A number with an exponent. -/
def decimalText (d : Decimal) : List Char :=
  (if d.negative then ['-'] else []) ++ (toString d.digits).toList ++ 'e' :: integerText d.exponent

/-- The line break in front of a part that is `depth` levels deep. -/
def lineBreak (depth : Nat) : List Char := '\n' :: List.replicate (2 * depth) ' '

/-- Spacing: whether parts stand on lines of their own, or behind a blank where `loose`. -/
inductive Spacing where
  | tight | loose | lines
  deriving DecidableEq, Repr

/-- What stands in front of the first part of a list, at the depth of its parts. -/
def Spacing.first (s : Spacing) (depth : Nat) : List Char :=
  match s with
  | .lines => lineBreak depth
  | _ => []

/-- What stands between two parts. -/
def Spacing.between (s : Spacing) (depth : Nat) : List Char :=
  match s with
  | .tight => [',']
  | .loose => [',', ' ']
  | .lines => ',' :: lineBreak depth

/-- What stands behind the last part, at the depth of the list. -/
def Spacing.last (s : Spacing) (depth : Nat) : List Char :=
  match s with
  | .lines => lineBreak depth
  | _ => []

/-- What stands between a key and its value. -/
def Spacing.colon (s : Spacing) : List Char :=
  match s with
  | .tight => [':']
  | _ => [':', ' ']

mutual

/-- The written form of a value that is `depth` levels deep. -/
def print (s : Spacing) (depth : Nat) : Json → List Char
  | null => "null".toList
  | bool true => "true".toList
  | bool false => "false".toList
  | integer n => integerText n
  | decimal d => decimalText d
  | string t => encodeString t
  | array [] => ['[', ']']
  | array (v :: vs) =>
    '[' :: (s.first (depth + 1) ++ print s (depth + 1) v ++ printItems s (depth + 1) vs
      ++ s.last depth ++ [']'])
  | object [] => ['{', '}']
  | object ((k, v) :: ms) =>
    '{' :: (s.first (depth + 1) ++ encodeString k ++ s.colon ++ print s (depth + 1) v
      ++ printMembers s (depth + 1) ms ++ s.last depth ++ ['}'])

/-- The written form of further items. -/
def printItems (s : Spacing) (depth : Nat) : List Json → List Char
  | [] => []
  | v :: vs => s.between depth ++ print s depth v ++ printItems s depth vs

/-- The written form of further members. -/
def printMembers (s : Spacing) (depth : Nat) : List (List Char × Json) → List Char
  | [] => []
  | (k, v) :: ms =>
    s.between depth ++ encodeString k ++ s.colon ++ print s depth v ++ printMembers s depth ms

end

/-- A value on one line, with a blank behind each comma and colon. -/
def line (v : Json) : List Char := print .loose 0 v

/-- A value over several lines. -/
def pretty (v : Json) : List Char := print .lines 0 v

/-- A value on one line without blanks. -/
def compact (v : Json) : List Char := print .tight 0 v

end StatementShape.Json
