import StatementShape.Proofs.Classify.Access
import StatementShape.Proofs.Statement.Walk

/-!
# Records of moments

A record is fed one moment after the other, and need not be fed by a walk. Whatever comes, it tells
which productions were completed, and of those that count early, which were begun; it forgets
nothing, and it does not care about the order. A record that is fed by a walk tells which
productions the tree has a node of.

## Main definitions

* `Recorded`: what a record says about the moments that it was fed

## Main results

* `recorded_observeAll`: a record says this after any moments whatever
* `observeAll_congr`: the order of the moments and their repetition do not count
* `walk_of_tree`: the walk through a tree, and what it finds and records
-/

namespace StatementShape.Classify

open Statement (Production Moment Visit Tree)

/-! ### Any sequence of moments -/

section Moments

variable {s : Seen} {p : Production} {events : List (Moment × Production)}

theorem isRecognised_iff : isRecognised p = true ↔ p ≠ .script ∧ p ≠ .utilityStatement := by
  cases p <;> simp [isRecognised]

theorem isEarly_iff : isEarly p = true ↔ p = .withClause ∨ p = .explainStatement := by
  cases p <;> simp [isEarly]

/-- What a record says about the moments that it was fed: which productions are in it, and how
its two decisions differ. -/
structure Recorded (events : List (Moment × Production)) (s : Seen) : Prop where
  seen_iff : ∀ p, s p = true ↔ isRecognised p = true ∧
    ((.exit, p) ∈ events ∨ (.enter, p) ∈ events ∧ (p = .withClause ∨ p = .explainStatement))
  rows_of_select : s.isSelect = true → s.hasResultSet = true
  rows_alone_iff : s.hasResultSet = true ∧ s.isSelect = false ↔
    s .queryStatement = true ∧ s .selectQueryStatement = true ∧ s .explainStatement = true

theorem hasResultSet_of_isSelect (h : s.isSelect = true) : s.hasResultSet = true := by
  rw [isSelect_eq, Bool.and_eq_true] at h
  exact h.1

/-- Where the decisions differ, a selection is explained. -/
theorem hasResultSet_and_not_isSelect_iff :
    s.hasResultSet = true ∧ s.isSelect = false ↔
      s .queryStatement = true ∧ s .selectQueryStatement = true ∧ s .explainStatement = true := by
  constructor
  · rintro ⟨hrows, hselect⟩
    rw [isSelect_eq, hrows, Bool.true_and, Bool.not_eq_false', Bool.and_eq_true] at hselect
    refine ⟨?_, hselect.2, hselect.1⟩
    by_contra hquery
    simp [Seen.hasResultSet, hquery] at hrows
  · rintro ⟨hquery, hselection, hexplain⟩
    simp [Seen.hasResultSet, Seen.isSelect, hquery, hselection, hexplain]

theorem observeAll_none_iff :
    Seen.none.observeAll events p = true ↔ isRecognised p = true ∧
      ((.exit, p) ∈ events ∨
        (.enter, p) ∈ events ∧ (p = .withClause ∨ p = .explainStatement)) := by
  rw [Seen.observeAll_eq_true_iff, ← isEarly_iff]
  constructor
  · rintro (h | ⟨⟨m, p⟩, hmem, rfl, hrec⟩)
    · cases h
    cases m with
    | enter => exact ⟨isRecognised_of_isEarly hrec, .inr ⟨hmem, hrec⟩⟩
    | exit => exact ⟨hrec, .inl hmem⟩
  · rintro ⟨hrec, hmem | ⟨hmem, hearly⟩⟩
    · exact .inr ⟨_, hmem, rfl, hrec⟩
    · exact .inr ⟨_, hmem, rfl, hearly⟩

theorem recorded_observeAll (events : List (Moment × Production)) :
    Recorded events (Seen.none.observeAll events) where
  seen_iff _ := observeAll_none_iff
  rows_of_select := hasResultSet_of_isSelect
  rows_alone_iff := hasResultSet_and_not_isSelect_iff

theorem observeAll_append (others : List (Moment × Production)) :
    s.observeAll (events ++ others) = (s.observeAll events).observeAll others :=
  List.foldl_append

/-- Nothing is forgotten by what comes later. -/
theorem observeAll_mono (h : s p = true) : s.observeAll events p = true :=
  Seen.observeAll_eq_true_iff.mpr (.inl h)

/-- **Only which moments occur counts**, not their order nor how often they occur. -/
theorem observeAll_congr {others : List (Moment × Production)}
    (h : ∀ e, e ∈ others ↔ e ∈ events) : s.observeAll others = s.observeAll events := by
  funext p
  rw [Bool.eq_iff_iff, Seen.observeAll_eq_true_iff, Seen.observeAll_eq_true_iff]
  simp only [h]

/-- **After every moment** the record says what was recorded up to it, and keeps that from there on.
In the end, only which moments occurred has counted. -/
theorem recorded_of_moments (events : List (Moment × Production)) :
    (∀ n, Recorded (events.take n) (Seen.none.observeAll (events.take n))) ∧
      (∀ n p, Seen.none.observeAll (events.take n) p = true →
        Seen.none.observeAll (events.take (n + 1)) p = true) ∧
      (∀ others, (∀ e, e ∈ others ↔ e ∈ events) →
        Seen.none.observeAll others = Seen.none.observeAll events) := by
  refine ⟨fun n => recorded_observeAll _, fun n p h => ?_, fun others => observeAll_congr⟩
  rw [List.take_add_one, observeAll_append]
  exact observeAll_mono h

end Moments

/-! ### The moments of a walk -/

/-- **The walk through a tree**: it enters and leaves every place once, with what lies below in
between; it enters the nodes of each production in the order in which they are found; it records all
productions that have a node, but for scripts and utility statements. The check of an explained
selection finds its nodes there. -/
theorem walk_of_tree (t : Tree) :
    t.IsWalk t.steps ∧
      t.visits.map some = t.steps.map t.visit? ∧
      (∀ p, Tree.entered p t.visits = t.nodesOf p) ∧
      (∀ p, (Classification.ofTree t).productions p = true ↔
        (p ≠ .script ∧ p ≠ .utilityStatement) ∧ t.nodesOf p ≠ []) ∧
      ∃ d, explainedSelect t (Classification.ofTree t) = .ok d := by
  refine ⟨t.isWalk_steps, t.map_visit?_steps.symm, fun p => Tree.entered_visits p t,
    fun p => ?_, ?_⟩
  · rw [← isRecognised_iff]
    exact ofVisits_eq_true_iff
  · obtain ⟨d, -, hd⟩ := Careful.explainedSelect_eq t
    exact ⟨d, hd⟩

end StatementShape.Classify
