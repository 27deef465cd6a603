import StatementShape.Statement.Visit
import Mathlib.Data.List.Nodup

/-!
# Places of a tree and the order of a walk

A place of a tree is told by the way from the root to it: which part of the root, which part of that
part, and so on. Nodes that look alike stand at different places, so that a walk can be told by what
it does at each place: it enters and leaves every place once, and whatever it does further down
happens in between.

## Main definitions

* `Tree.at?`: the tree at a place
* `Tree.steps`: the moments of a walk, each with its place
* `Tree.IsWalk`: the steps that a walk through a tree may take

## Main results

* `Tree.mem_steps_iff`: every place is entered and left
* `Tree.isWalk_steps`: the steps of a tree are nested as its places are
* `Tree.map_visit?_steps`: the visits of a walk are its steps, each with the tree at its place
-/

namespace StatementShape.Statement.Tree

/-! ### Places -/

/-- A place: the numbers of the parts on the way down to it. -/
abbrev Place := List Nat

/-- The tree at a place, if the tree has that place. -/
def at? : Tree → Place → Option Tree
  | t, [] => some t
  | t, i :: place =>
    match t.children[i]? with
    | some part => part.at? place
    | none => none

@[simp] theorem at?_nil (t : Tree) : t.at? [] = some t := rfl

theorem at?_cons_of_children {t part : Tree} {i : Nat} (h : t.children[i]? = some part)
    (place : Place) : t.at? (i :: place) = part.at? place := by
  simp only [at?, h]

theorem isSome_at?_cons_iff {t : Tree} {i : Nat} {place : Place} :
    (t.at? (i :: place)).isSome ↔
      ∃ part, t.children[i]? = some part ∧ (part.at? place).isSome := by
  rw [at?]
  cases t.children[i]? <;> simp

/-! ### Steps -/

/-- A step of a walk: a moment at a place. -/
abbrev Step := Moment × Place

/-- A step of a part, seen from the whole. -/
def Step.under (i : Nat) (s : Step) : Step := (s.1, i :: s.2)

theorem Step.under_injective (i : Nat) : Function.Injective (Step.under i) := by
  rintro ⟨m, place⟩ ⟨m', place'⟩ h
  simpa [Step.under] using h

theorem mem_map_under_iff {i : Nat} {m : Moment} {place : Place} {ss : List Step} :
    (m, place) ∈ ss.map (Step.under i) ↔ ∃ rest, place = i :: rest ∧ (m, rest) ∈ ss := by
  simp only [List.mem_map, Step.under, Prod.mk.injEq, Prod.exists]
  constructor
  · rintro ⟨_, rest, h, rfl, rfl⟩
    exact ⟨rest, rfl, h⟩
  · rintro ⟨rest, rfl, h⟩
    exact ⟨m, rest, h, rfl, rfl⟩

mutual

/-- The steps of a walk: the root is entered before the steps of its parts, and left behind
them. -/
def steps : Tree → List Step
  | node _ _ _ _ cs => (.enter, []) :: (stepsFrom 0 cs ++ [(.exit, [])])

/-- The steps of the parts from the `i`-th on. -/
def stepsFrom (i : Nat) : List Tree → List Step
  | [] => []
  | t :: ts => (steps t).map (Step.under i) ++ stepsFrom (i + 1) ts

end

theorem steps_eq (t : Tree) :
    t.steps = (.enter, []) :: (stepsFrom 0 t.children ++ [(.exit, [])]) := by
  obtain ⟨p, s, x, e, cs⟩ := t
  rw [steps, children_node]

/-- The steps of one part stand between those of the parts before it and behind it. -/
theorem stepsFrom_split {t : Tree} : ∀ {ts : List Tree} {i j : Nat}, ts[j]? = some t →
    stepsFrom i ts = stepsFrom i (ts.take j) ++ t.steps.map (Step.under (i + j)) ++
      stepsFrom (i + j + 1) (ts.drop (j + 1))
  | u :: ts, i, 0, h => by
    obtain rfl : u = t := by simpa using h
    simp [stepsFrom]
  | u :: ts, i, j + 1, h => by
    have ih := stepsFrom_split (i := i + 1) (j := j) (by simpa using h)
    rw [stepsFrom, ih, List.take_succ_cons, List.drop_succ_cons, stepsFrom,
      Nat.add_right_comm i 1 j]
    simp only [List.append_assoc, Nat.add_assoc]

theorem mem_stepsFrom_iff {m : Moment} {place : Place} : ∀ {ts : List Tree} {i : Nat},
    (m, place) ∈ stepsFrom i ts ↔
      ∃ j t rest, ts[j]? = some t ∧ place = (i + j) :: rest ∧ (m, rest) ∈ t.steps
  | [], i => by simp [stepsFrom]
  | u :: ts, i => by
    rw [stepsFrom, List.mem_append, mem_map_under_iff, mem_stepsFrom_iff]
    constructor
    · rintro (⟨rest, rfl, h⟩ | ⟨j, t, rest, hj, rfl, h⟩)
      · exact ⟨0, u, rest, rfl, rfl, h⟩
      · exact ⟨j + 1, t, rest, by simpa using hj, by rw [Nat.add_right_comm, Nat.add_assoc], h⟩
    · rintro ⟨j, t, rest, hj, rfl, h⟩
      cases j with
      | zero =>
        obtain rfl : u = t := by simpa using hj
        exact .inl ⟨rest, rfl, h⟩
      | succ j =>
        exact .inr ⟨j, t, rest, by simpa using hj, by rw [Nat.add_right_comm, Nat.add_assoc], h⟩

theorem mem_steps_cons_iff {t : Tree} {m : Moment} {i : Nat} {place : Place} :
    (m, i :: place) ∈ t.steps ↔ ∃ part, t.children[i]? = some part ∧ (m, place) ∈ part.steps := by
  rw [steps_eq]
  simp only [List.mem_cons, List.mem_append, Prod.mk.injEq, reduceCtorEq, and_false, false_or,
    or_false, List.not_mem_nil, mem_stepsFrom_iff, Nat.zero_add, List.cons.injEq]
  constructor
  · rintro ⟨_, part, _, h, ⟨rfl, rfl⟩, hm⟩
    exact ⟨part, h, hm⟩
  · rintro ⟨part, h, hm⟩
    exact ⟨i, part, place, h, ⟨rfl, rfl⟩, hm⟩

/-- **Every place is entered and left**, and nothing else is. -/
theorem mem_steps_iff {m : Moment} {place : Place} {t : Tree} :
    (m, place) ∈ t.steps ↔ (t.at? place).isSome := by
  induction place generalizing t with
  | nil => rw [steps_eq]; cases m <;> simp
  | cons i place ih =>
    rw [mem_steps_cons_iff, isSome_at?_cons_iff]
    simp only [ih]

mutual

/-- No step is taken twice. -/
theorem nodup_steps : ∀ t : Tree, t.steps.Nodup
  | node p s x e cs => by
    have root : ∀ m, (m, []) ∉ stepsFrom 0 cs := fun m h => by
      obtain ⟨_, _, _, _, h, _⟩ := mem_stepsFrom_iff.mp h
      cases h
    rw [steps, List.nodup_cons, List.nodup_append]
    refine ⟨by simp [root], nodup_stepsFrom 0 cs, List.nodup_singleton _, ?_⟩
    rintro s hs _ hexit rfl
    obtain rfl := List.mem_singleton.mp hexit
    exact root _ hs

theorem nodup_stepsFrom : ∀ (i : Nat) (ts : List Tree), (stepsFrom i ts).Nodup
  | _, [] => by simp [stepsFrom]
  | i, t :: ts => by
    rw [stepsFrom, List.nodup_append]
    refine ⟨(nodup_steps t).map (Step.under_injective i), nodup_stepsFrom (i + 1) ts, ?_⟩
    -- a step of one part starts with the number of that part
    rintro ⟨m, place⟩ hs _ hs' rfl
    obtain ⟨rest, rfl, _⟩ := mem_map_under_iff.mp hs
    obtain ⟨j, _, _, _, h, _⟩ := mem_stepsFrom_iff.mp hs'
    have hi : i = i + 1 + j := (List.cons.inj h).1
    omega

end

/-! ### The nesting of a walk -/

/-- The steps that a walk takes through a tree: every place is entered once and left once, and
what happens between the two is what happens further down from there. -/
structure IsWalk (t : Tree) (walk : List Step) : Prop where
  nodup : walk.Nodup
  mem_iff : ∀ m place, (m, place) ∈ walk ↔ (t.at? place).isSome
  nested : ∀ place, (t.at? place).isSome → ∃ front inside back,
    walk = front ++ (.enter, place) :: (inside ++ (.exit, place) :: back) ∧
      ∀ m other, (m, other) ∈ inside ↔
        (m, other) ∈ walk ∧ ∃ i rest, other = place ++ i :: rest

/-- What happens between entering and leaving a place is what happens further down. -/
theorem exists_steps_split {place : Place} {t : Tree} (h : (t.at? place).isSome) :
    ∃ front inside back,
      t.steps = front ++ (.enter, place) :: (inside ++ (.exit, place) :: back) ∧
        ∀ m other, (m, other) ∈ inside ↔
          (m, other) ∈ t.steps ∧ ∃ i rest, other = place ++ i :: rest := by
  induction place generalizing t with
  | nil =>
    refine ⟨[], stepsFrom 0 t.children, [], t.steps_eq, fun m other => ?_⟩
    rw [steps_eq, mem_stepsFrom_iff]
    constructor
    · rintro ⟨j, part, rest, hj, rfl, hm⟩
      refine ⟨List.mem_cons_of_mem _ (List.mem_append_left _ ?_), _, rest, rfl⟩
      exact mem_stepsFrom_iff.mpr ⟨j, part, rest, hj, rfl, hm⟩
    · rintro ⟨hm, i, rest, rfl⟩
      obtain ⟨part, hi, hm⟩ := mem_steps_cons_iff.mp (t.steps_eq ▸ hm)
      exact ⟨i, part, rest, hi, by simp, hm⟩
  | cons i place ih =>
    obtain ⟨part, hi, hsome⟩ := isSome_at?_cons_iff.mp h
    obtain ⟨front, inside, back, hsteps, hinside⟩ := ih hsome
    refine ⟨(.enter, []) :: (stepsFrom 0 (t.children.take i) ++ front.map (Step.under i)),
      inside.map (Step.under i),
      back.map (Step.under i) ++ stepsFrom (i + 1) (t.children.drop (i + 1)) ++ [(.exit, [])],
      ?_, fun m other => ?_⟩
    · rw [steps_eq, stepsFrom_split hi, hsteps]
      simp [Step.under]
    · rw [mem_map_under_iff]
      constructor
      · rintro ⟨rest, rfl, hm⟩
        obtain ⟨hm, j, below, rfl⟩ := (hinside m rest).mp hm
        exact ⟨mem_steps_cons_iff.mpr ⟨part, hi, hm⟩, j, below, rfl⟩
      · rintro ⟨hm, j, below, rfl⟩
        obtain ⟨part', hi', hm⟩ := mem_steps_cons_iff.mp hm
        obtain rfl : part = part' := Option.some.inj (hi.symm.trans hi')
        exact ⟨_, rfl, (hinside _ _).mpr ⟨hm, j, below, rfl⟩⟩

theorem isWalk_steps (t : Tree) : t.IsWalk t.steps where
  nodup := t.nodup_steps
  mem_iff _ _ := mem_steps_iff
  nested _ := exists_steps_split

/-! ### The visits of a walk -/

/-- The visit that a step makes, if the tree has its place. -/
def visit? (t : Tree) (s : Step) : Option Visit := (t.at? s.2).map (Visit.mk s.1)

theorem visit?_under {t part : Tree} {i : Nat} (h : t.children[i]? = some part) (s : Step) :
    t.visit? (s.under i) = part.visit? s := by
  simp only [visit?, Step.under, at?_cons_of_children h]

mutual

/-- **The visits of a walk** are its steps, each with the tree at its place. -/
theorem map_visit?_steps : ∀ t : Tree, t.steps.map t.visit? = t.visits.map some
  | node p s x e cs => by
    have parts := map_visit?_stepsFrom (node p s x e cs) 0 cs rfl
    simp [steps, visits, visit?, parts]

theorem map_visit?_stepsFrom (t : Tree) : ∀ (i : Nat) (ts : List Tree), t.children.drop i = ts →
    (stepsFrom i ts).map t.visit? = (visitsOf ts).map some
  | _, [], _ => by simp [stepsFrom, visitsOf]
  | i, part :: ts, h => by
    have hi : t.children[i]? = some part := by
      rw [← List.head?_drop, h, List.head?_cons]
    have hts : t.children.drop (i + 1) = ts := by
      rw [← List.tail_drop, h, List.tail_cons]
    rw [stepsFrom, visitsOf, List.map_append, List.map_append,
      map_visit?_stepsFrom t (i + 1) ts hts, List.map_map, ← map_visit?_steps part]
    exact congrArg (· ++ _) (List.map_congr_left fun s _ => visit?_under hi s)

end

end StatementShape.Statement.Tree
