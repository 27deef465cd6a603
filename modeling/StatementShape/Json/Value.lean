import StatementShape.Number.Decimal

/-!
# JSON values

## Main definitions

* `Json`: the values
* `Json.get?`: the value of a key in an object

## Main results

* `Json.get?_record`: the value of a key among members that are written out
-/

namespace StatementShape

/-- JSON values. The members of an object keep their order. Whole numbers are told from those
with a point or an exponent. -/
inductive Json where
  | null
  | bool (b : Bool)
  | integer (n : Int)
  | decimal (d : Number.Decimal)
  | string (s : List Char)
  | array (items : List Json)
  | object (members : List (List Char × Json))
  deriving Repr

namespace Json

/-- A text as a value. -/
def text (s : String) : Json := .string s.toList

/-- An object with keys that are written out. -/
def record (members : List (String × Json)) : Json :=
  .object (members.map fun m => (m.1.toList, m.2))

/-- The value of a key, if the value is an object that has it. -/
def get? (key : String) : Json → Option Json
  | object members => members.lookup key.toList
  | _ => none

/-- **The value of a key** in a record. -/
theorem get?_record (key : String) (members : List (String × Json)) :
    (record members).get? key = members.lookup key := by
  change (members.map fun m => (m.1.toList, m.2)).lookup key.toList = members.lookup key
  induction members with
  | nil => rfl
  | cons m members ih =>
    obtain ⟨k, v⟩ := m
    rw [List.map_cons, List.lookup_cons, List.lookup_cons, ih]
    by_cases hk : key = k
    · simp [hk]
    · have hne : key.toList ≠ k.toList := fun h => hk (String.toList_inj.mp h)
      rw [beq_false_of_ne hk, beq_false_of_ne hne]

/-- The text that a value is. -/
def asText? : Json → Option (List Char)
  | string s => some s
  | _ => none

/-- The items of an array. -/
def asItems? : Json → Option (List Json)
  | array items => some items
  | _ => none

end Json

end StatementShape
