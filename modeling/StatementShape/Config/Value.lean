import StatementShape.Calendar.Instant
import StatementShape.Number.Binary64

/-!
# Configuration values

The values that a configuration file can hold, and that a setting can be given. Tables keep the
order of their entries.

## Main definitions

* `Value`: the values
* `Value.hasNumerals`: the values that can be written in digits
* `Value.isEqual`: equality of values, decided
* `Entries`: the entries of a table, with `Entries.put` for a single entry
* `Entries.update`: a change of a table that a path leads to
-/

namespace StatementShape.Config

open Calendar (Date Instant Time)
open Number (Binary64)

/-- Values. A date with a time may be a number of minutes ahead of universal time. -/
inductive Value where
  | nothing
  | bool (b : Bool)
  | integer (n : Int)
  | float (x : Binary64)
  | string (s : List Char)
  | date (d : Date)
  | time (t : Time)
  | dateTime (i : Instant) (ahead : Option Int)
  | array (items : List Value)
  | table (entries : List (List Char × Value))
  deriving Repr

namespace Value

mutual

/-- Whether all whole numbers in a value have numerals. -/
def hasNumerals : Value → Bool
  | integer n => Number.hasNumeral n
  | array items => itemsHaveNumerals items
  | table entries => entriesHaveNumerals entries
  | _ => true

/-- Whether all whole numbers in the items of an array have numerals. -/
def itemsHaveNumerals : List Value → Bool
  | [] => true
  | v :: vs => hasNumerals v && itemsHaveNumerals vs

/-- Whether all whole numbers in the entries of a table have numerals. -/
def entriesHaveNumerals : List (List Char × Value) → Bool
  | [] => true
  | (_, v) :: es => hasNumerals v && entriesHaveNumerals es

end

/-! ### Equality -/

mutual

/-- Whether two values are equal. -/
def isEqual : Value → Value → Bool
  | nothing, nothing => true
  | bool b, bool b' => b == b'
  | integer n, integer n' => n == n'
  | float x, float x' => x == x'
  | string s, string s' => s == s'
  | date d, date d' => d == d'
  | time t, time t' => t == t'
  | dateTime i ahead, dateTime i' ahead' => i == i' && ahead == ahead'
  | array items, array items' => areEqual items items'
  | table entries, table entries' => haveEqual entries entries'
  | _, _ => false

/-- Whether the items of two arrays are equal. -/
def areEqual : List Value → List Value → Bool
  | [], [] => true
  | v :: vs, w :: ws => isEqual v w && areEqual vs ws
  | _, _ => false

/-- Whether the entries of two tables are equal, in this order. -/
def haveEqual : List (List Char × Value) → List (List Char × Value) → Bool
  | [], [] => true
  | (n, v) :: es, (m, w) :: fs => n == m && isEqual v w && haveEqual es fs
  | _, _ => false

end

mutual

theorem isEqual_iff : ∀ v w : Value, isEqual v w = true ↔ v = w
  | array items, w => by
    cases w with
    | array items' => rw [isEqual, areEqual_iff items items', array.injEq]
    | _ => simp [isEqual]
  | table entries, w => by
    cases w with
    | table entries' => rw [isEqual, haveEqual_iff entries entries', table.injEq]
    | _ => simp [isEqual]
  | nothing, w | bool _, w | integer _, w | float _, w | string _, w | date _, w | time _, w
  | dateTime _ _, w => by cases w <;> simp [isEqual]

theorem areEqual_iff : ∀ vs ws : List Value, areEqual vs ws = true ↔ vs = ws
  | [], ws => by cases ws <;> simp [areEqual]
  | v :: vs, ws => by
    cases ws with
    | nil => simp [areEqual]
    | cons w ws => simp [areEqual, isEqual_iff v w, areEqual_iff vs ws]

theorem haveEqual_iff : ∀ es fs : List (List Char × Value), haveEqual es fs = true ↔ es = fs
  | [], fs => by cases fs <;> simp [haveEqual]
  | (n, v) :: es, fs => by
    cases fs with
    | nil => simp [haveEqual]
    | cons f fs =>
      obtain ⟨m, w⟩ := f
      simp [haveEqual, isEqual_iff v w, haveEqual_iff es fs]

end

instance : DecidableEq Value := fun v w => decidable_of_iff _ (isEqual_iff v w)

end Value

/-- The entries of a table, in order. -/
abbrev Entries := List (List Char × Value)

namespace Entries

/-- An entry in its place, or at the end if its name is new. -/
def put (name : List Char) (v : Value) : Entries → Entries
  | [] => [(name, v)]
  | (n, w) :: rest => if n = name then (n, v) :: rest else (n, w) :: put name v rest

/-- A change of a table that a path of names leads to. Tables on the way are opened where they
are missing. With `intoArrays`, the way leads into the last item of an array; any other value ends
it. -/
def update (intoArrays : Bool) (change : Entries → Option Entries) :
    List (List Char) → Entries → Option Entries
  | [], entries => change entries
  | name :: path, entries =>
    match entries.lookup name with
    | none => (update intoArrays change path []).map fun t => entries.put name (.table t)
    | some (.table inner) =>
      (update intoArrays change path inner).map fun t => entries.put name (.table t)
    | some (.array items) =>
      match intoArrays, items.getLast? with
      | true, some (.table inner) =>
        (update intoArrays change path inner).map fun t =>
          entries.put name (.array (items.dropLast ++ [.table t]))
      | _, _ => none
    | some _ => none

/-- An entry that was put is found. -/
@[simp] theorem lookup_put_self (name : List Char) (v : Value) (entries : Entries) :
    (entries.put name v).lookup name = some v := by
  induction entries with
  | nil => simp [put]
  | cons e rest ih =>
    obtain ⟨n, w⟩ := e
    by_cases h : n = name
    · simp [put, h]
    · have hne : (name == n) = false := by simpa using fun h' => h h'.symm
      simp [put, h, List.lookup_cons, hne, ih]

/-- Other entries are found as before. -/
theorem lookup_put_of_ne {name other : List Char} (h : other ≠ name) (v : Value)
    (entries : Entries) : (entries.put name v).lookup other = entries.lookup other := by
  induction entries with
  | nil =>
    have hne : (other == name) = false := by simpa using h
    simp [put, List.lookup_cons, hne]
  | cons e rest ih =>
    obtain ⟨n, w⟩ := e
    by_cases hn : n = name
    · have hne : (other == name) = false := by simpa using h
      subst hn
      simp [put, List.lookup_cons, hne]
    · simp only [put, hn, if_false, List.lookup_cons]
      split
      · rfl
      · exact ih

end Entries

end StatementShape.Config
