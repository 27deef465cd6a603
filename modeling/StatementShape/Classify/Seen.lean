import StatementShape.Statement.Visit

/-!
# What a walk has seen

While a script is walked, the productions of queries in it are recorded. Common table expressions
and explanations are recorded as soon as they begin, all others when they are complete. Two
decisions are read off the record: whether the script yields rows, and whether it is to be routed as
a selection.

## Main definitions

* `isRecognised`: the productions that are recorded
* `Seen`, `Seen.observe`: the record, and what a moment adds to it
* `Seen.hasResultSet`, `Seen.isSelect`: the decisions
-/

namespace StatementShape.Classify

open Statement (Production Moment Visit Tree)

/-- The productions that are recorded: all but the script and the utility statements. -/
def isRecognised : Production → Bool
  | .script | .utilityStatement => false
  | _ => true

/-- The productions that are recorded as soon as they begin. -/
def isEarly : Production → Bool
  | .withClause | .explainStatement => true
  | _ => false

/-- A record: which productions have been seen. -/
abbrev Seen := Production → Bool

namespace Seen

/-- Nothing has been seen. -/
def none : Seen := fun _ => false

/-- Whether a moment records a production. -/
def records : Moment → Production → Bool
  | .enter, p => isEarly p
  | .exit, p => isRecognised p

/-- What a moment adds to a record. -/
def observe (s : Seen) (m : Moment) (p : Production) : Seen :=
  fun q => s q || (decide (q = p) && records m p)

/-- What a sequence of moments adds to a record. -/
def observeAll (s : Seen) (events : List (Moment × Production)) : Seen :=
  events.foldl (fun s e => s.observe e.1 e.2) s

/-- What a walk has seen. -/
def ofVisits (visits : List Visit) : Seen :=
  observeAll none (visits.map fun v => (v.moment, v.tree.production))

/-- Whether the script yields rows. An explanation is not asked for here: explaining a selection
yields rows too. -/
def hasResultSet (s : Seen) : Bool :=
  if !s .queryStatement then false
  else if s .selectQueryStatement then true
  else if s .insertStatement then false
  else if s .fromStatement then
    if s .fromRest then true else !s .multiInsertBranch
  else false

/-- Whether the script is routed as a selection. An explanation of a selection is not, nor is
an insertion of any kind. -/
def isSelect (s : Seen) : Bool :=
  if !s .queryStatement then false
  else if s .selectQueryStatement then !s .explainStatement
  else if s .insertStatement then false
  else if s .fromStatement then
    if s .fromRest then true else !s .multiInsertBranch
  else false

/-- A moment records its own production and no other. -/
theorem observe_eq_true_iff {s : Seen} {m : Moment} {p q : Production} :
    s.observe m p q = true ↔ s q = true ∨ (q = p ∧ records m p = true) := by
  simp [observe]

@[simp] theorem observeAll_nil (s : Seen) : s.observeAll [] = s := rfl

@[simp] theorem observeAll_cons (s : Seen) (e : Moment × Production)
    (events : List (Moment × Production)) :
    s.observeAll (e :: events) = (s.observe e.1 e.2).observeAll events := rfl

/-- A sequence records what was seen before it, and what some moment of it records. -/
theorem observeAll_eq_true_iff {s : Seen} {events : List (Moment × Production)} {q : Production} :
    s.observeAll events q = true ↔
      s q = true ∨ ∃ e ∈ events, q = e.2 ∧ records e.1 e.2 = true := by
  induction events generalizing s with
  | nil => simp
  | cons e events ih =>
    rw [observeAll_cons, ih, observe_eq_true_iff]
    simp only [List.mem_cons, exists_eq_or_imp, or_assoc]

end Seen

end StatementShape.Classify
