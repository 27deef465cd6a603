import Mathlib.Data.List.Sort
import StatementShape.Proofs.Statement.Leaves
import StatementShape.Proofs.Statement.Root

/-!
# Sources and what stands behind them

A source may stand in front of one selection, or of insertions, that can each be read by itself. The
whole is cut at the heads outside parentheses, and a head is told by the kind of its token alone. So
the parts come out as they went in exactly if no token of a part, other than its first, passes for
the head of an insertion: if there is no further `INSERT` outside the parentheses of that part. A
name after `AS` may be one, or a function.

## Main definitions

* `IsSource`: a source that can be read by itself
* `sourceTree`: the tree of a source and the parts behind it
* `starts`: the places of runs that stand one behind another

## Main results

* `outside_flatten`: places outside parentheses, run by run
* `statement_of_source`: a source in front of a selection or of insertions
* `exists_selection_refused`: a selection that is refused behind a source only
-/

namespace StatementShape.Statement

open Sql (Token TokenKind Reader Expression ExpressionKind)

/-! ### Runs that leave no parenthesis open -/

/-- The places of runs that stand one behind another, from place `n` on. -/
def starts : Nat → List (List Token) → List Nat
  | _, [] => []
  | n, run :: runs => n :: starts (n + run.length) runs

section Runs

variable {wanted : TokenKind → Bool} {run front : List Token} {runs : List (List Token)} {i n : Nat}

/-- Matching parentheses are all closed. -/
theorem openBehind_balanced (h : Balanced run) : openBehind run = 0 := by
  induction h with
  | nil => rfl
  | plain hopen hclose _ ih => rw [openBehind_cons_of_plain hopen hclose, ih]
  | nested hl hr _ _ ihInside ihRest =>
    rw [openBehind_append, openBehind_cons_of_lParen hl, openBehind_cons_of_rParen hr, ihInside,
      ihRest]
    rfl

/-- **Places outside parentheses** among runs that leave none open are those of each run. -/
theorem outside_flatten (h : ∀ run ∈ runs, openBehind run = 0) :
    Outside wanted runs.flatten i ↔
      ∃ a run b j, runs = a ++ run :: b ∧ i = a.flatten.length + j ∧ Outside wanted run j := by
  induction runs generalizing i with
  | nil => simp [Outside]
  | cons run runs ih =>
    rw [List.flatten_cons, outside_append (h run List.mem_cons_self)]
    simp only [ih fun run' hrun' => h run' (List.mem_cons_of_mem run hrun')]
    constructor
    · rintro (hi | ⟨k, rfl, a, run', b, j, rfl, rfl, hj⟩)
      · exact ⟨[], run, runs, i, rfl, (Nat.zero_add i).symm, hi⟩
      · exact ⟨run :: a, run', b, j, rfl, by simp [Nat.add_assoc], hj⟩
    · rintro ⟨_ | ⟨r, a⟩, run', b, j, heq, rfl, hj⟩
      · obtain ⟨rfl, rfl⟩ := List.cons.inj heq
        exact Or.inl (by simpa using hj)
      · obtain ⟨rfl, rfl⟩ := List.cons.inj heq
        exact Or.inr ⟨a.flatten.length + j, by simp [Nat.add_assoc], a, run', b, j, rfl, rfl, hj⟩

theorem mem_starts :
    i ∈ starts n runs ↔ ∃ a run b, runs = a ++ run :: b ∧ i = n + a.flatten.length := by
  induction runs generalizing n with
  | nil => simp [starts]
  | cons run runs ih =>
    rw [starts, List.mem_cons, ih]
    constructor
    · rintro (rfl | ⟨a, run', b, rfl, rfl⟩)
      · exact ⟨[], run, runs, rfl, rfl⟩
      · exact ⟨run :: a, run', b, rfl, by simp [Nat.add_assoc]⟩
    · rintro ⟨_ | ⟨r, a⟩, run', b, heq, rfl⟩
      · exact Or.inl rfl
      · obtain ⟨rfl, rfl⟩ := List.cons.inj heq
        exact Or.inr ⟨a, run', b, rfl, by simp [Nat.add_assoc]⟩

theorem length_starts : (starts n runs).length = runs.length := by
  induction runs generalizing n with
  | nil => rfl
  | cons run runs ih => rw [starts, List.length_cons, List.length_cons, ih]

theorem pairwise_starts (some : ∀ run ∈ runs, run ≠ []) : (starts n runs).Pairwise (· < ·) := by
  induction runs generalizing n with
  | nil => exact List.Pairwise.nil
  | cons run runs ih =>
    refine List.pairwise_cons.mpr ⟨fun i hi => ?_, ih fun r hr => some r (List.mem_cons_of_mem _ hr)⟩
    obtain ⟨a, -, -, -, rfl⟩ := mem_starts.mp hi
    have hpos := List.length_pos_iff.mpr (some run List.mem_cons_self)
    omega

/-- A place inside a run is the start of a run only at its own start. -/
theorem eq_zero_of_start {a b a' b' : List (List Token)} {run' : List Token} {j : Nat}
    (some : ∀ run ∈ runs, run ≠ []) (hrun : runs = a ++ run :: b) (hrun' : runs = a' ++ run' :: b')
    (hj : j < run.length) (heq : a.flatten.length + j = a'.flatten.length) : j = 0 := by
  induction a generalizing runs a' with
  | nil =>
    cases a' with
    | nil => simpa using heq
    | cons x a' =>
      obtain ⟨rfl, -⟩ := List.cons.inj (hrun.symm.trans hrun')
      simp only [List.flatten_nil, List.length_nil, List.flatten_cons, List.length_append] at heq
      omega
  | cons x a ih =>
    have hpos := List.length_pos_iff.mpr (some x (by simp [hrun]))
    cases a' with
    | nil =>
      simp only [List.flatten_nil, List.length_nil, List.flatten_cons, List.length_append] at heq
      omega
    | cons y a' =>
      obtain ⟨rfl, hmore⟩ := List.cons.inj (hrun.symm.trans hrun')
      refine ih (fun r hr => some r ?_) rfl hmore ?_
      · rw [hrun, List.cons_append]
        exact List.mem_cons_of_mem x hr
      · simp only [List.flatten_cons, List.length_append] at heq
        omega

/-- The runs from their own places on are the runs. -/
theorem runsFrom_starts (front : List Token) (runs : List (List Token)) :
    runsFrom (front ++ runs.flatten) (starts front.length runs) = runs := by
  induction runs generalizing front with
  | nil => rfl
  | cons run runs ih =>
    have hnext : (starts (front.length + run.length) runs).head?.getD
        (front ++ (run :: runs).flatten).length = (front ++ run).length := by
      cases runs with
      | nil => simp [starts]
      | cons next more => simp [starts]
    have hrun : (front ++ run ++ runs.flatten).take (front ++ run).length = front ++ run :=
      List.take_left
    have hmore := ih (front ++ run)
    rw [List.length_append] at hmore
    rw [starts, runsFrom, hnext, List.flatten_cons, ← List.append_assoc, hmore, hrun,
      List.drop_left]

end Runs

/-! ### Sources -/

/-- A source that can be read by itself: it begins with `FROM` and holds more than that, closes
its parentheses, has no head outside them, and can be selected from. -/
structure IsSource (r : Reader) (text : List Char) (source : List Token) (e : Expression) :
    Prop where
  head : ∃ t ts, source = t :: ts ∧ t.kind = .from_ ∧ wordOf t = some "FROM"
  more : source.length ≠ 1
  balanced : Balanced source
  free : ∀ i, ¬ Outside isHead source i
  read : fragment r (· == .select) ("SELECT * ".toList ++ textOf text source) = .ok e

/-- The tree of a source and the parts behind it. -/
def sourceTree (text : List Char) (source back : List Token) (e : Expression)
    (parts : List Tree) : Tree :=
  nodeOver .queryStatement text (source ++ back) none
    [nodeOver .fromStatement text (source ++ back) none
      (nodeOver .fromClause text source (e.find? .from_) [] :: parts)]

section Sources

variable {r : Reader} {text : List Char} {source back rest : List Token} {e : Expression}
  {runs : List (List Token)} {parts : List Tree} {i : Nat} {t : Tree}

theorem isHead_of_insert {tokens : List Token} (h : Outside (· = .insert) tokens i) :
    Outside isHead tokens i :=
  mem_heads_iff.mp (List.mem_of_mem_filter (mem_insertions_iff.mpr h))

/-- Behind a source the places outside parentheses are those of what follows. -/
theorem IsSource.outside_iff (h : IsSource r text source e) {wanted : TokenKind → Bool}
    (hwanted : ∀ j, ¬ Outside wanted source j) :
    Outside wanted (source ++ back) i ↔ ∃ j, i = source.length + j ∧ Outside wanted back j := by
  rw [outside_append (openBehind_balanced h.balanced), or_iff_right (hwanted i)]

theorem IsSource.mem_insertions (h : IsSource r text source e) :
    i ∈ insertions (source ++ back) ↔
      ∃ j, i = source.length + j ∧ Outside (· = .insert) back j := by
  rw [mem_insertions_iff, h.outside_iff fun j hj => h.free j (isHead_of_insert hj)]

/-- A source ends where what follows begins with a head. -/
theorem IsSource.sourceLength_eq (h : IsSource r text source e)
    (hback : BeginsWith (isHead · = true) back) : sourceLength (source ++ back) = source.length := by
  obtain ⟨t, ts, rfl, ht⟩ := hback
  have hmem : ∀ i, i ∈ heads (source ++ t :: ts) ↔
      ∃ j, i = source.length + j ∧ Outside isHead (t :: ts) j :=
    fun i => mem_heads_iff.trans (h.outside_iff h.free)
  have hfirst := (hmem source.length).mpr ⟨0, rfl, t, rfl, ht, rfl⟩
  refine Nat.le_antisymm (sourceLength_le_of_mem_heads hfirst) ?_
  rcases sourceLength_mem_heads_or with hend | ⟨hnone, -⟩
  · -- none of the heads lies in front of the first token behind the source
    obtain ⟨j, hj, -⟩ := (hmem _).mp hend
    omega
  · rw [hnone] at hfirst
    cases hfirst

/-- A statement with a source has a tree as soon as what stands behind the source has its
parts. -/
theorem IsSource.statement_eq (h : IsSource r text source e)
    (hback : BeginsWith (isHead · = true) back) :
    statement r text (source ++ back) =
      (behindSource r text (source ++ back)).map (sourceTree text source back e) := by
  have hlength := h.sourceLength_eq hback
  have hfrom : fromStatement r text (source ++ back) =
      (behindSource r text (source ++ back)).map fun parts =>
        nodeOver .fromStatement text (source ++ back) none
          (nodeOver .fromClause text source (e.find? .from_) [] :: parts) := by
    rw [fromStatement_eq, hlength, if_neg h.more, List.take_left]
    dsimp only
    rw [h.read]
    cases behindSource r text (source ++ back) <;> rfl
  obtain ⟨t, ts, rfl, ht, hword⟩ := h.head
  have hexplain : wordOf t ≠ some "EXPLAIN" := by
    rw [hword]
    decide
  have hquery : isQuery (t :: ts ++ back) = .ok true := by simp [isQuery, ht, isQueryHead]
  rw [List.cons_append] at hquery hfrom ⊢
  rw [statement, if_neg hexplain, hquery]
  have hhead : (t :: (ts ++ back)).head?.any (·.kind = .from_) = true := by simp [ht]
  show queryStatement r text (t :: (ts ++ back)) = _
  rw [queryStatement, if_neg (by simp [ht]), mainPart, if_pos hhead, hfrom]
  cases behindSource r text (t :: (ts ++ back)) <;> rfl

/-- A selection behind a source is laid out with it if no insertion stands outside its
parentheses, and the whole is refused if one does. -/
theorem IsSource.statement_of_selection (h : IsSource r text source e)
    (hrest : BeginsWith (· = .select) rest) (hread : LeafOver r text .fromRest (·.isQuery) rest t) :
    ((∀ i, ¬ Outside (· = .insert) rest i) →
      statement r text (source ++ rest) = .ok (sourceTree text source rest e [t])) ∧
    ((∃ i, Outside (· = .insert) rest i) →
      statement r text (source ++ rest) =
        .error (.mixedBranches (textOf text (source ++ rest)))) := by
  have hhead : BeginsWith (isHead · = true) rest := hrest.imp fun k hk => by rw [hk]; rfl
  have hdrop : (source ++ rest).drop (sourceLength (source ++ rest)) = rest := by
    rw [h.sourceLength_eq hhead, List.drop_left]
  have hselect := beginsWith_iff_head?.mp hrest
  rw [h.statement_eq hhead, behindSource]
  simp only [hdrop, hselect, if_true, leaf_eq_ok.mpr hread]
  constructor
  · intro hnone
    have hempty : insertions (source ++ rest) = [] := by
      rw [List.eq_nil_iff_forall_not_mem]
      intro i hi
      obtain ⟨j, -, hj⟩ := h.mem_insertions.mp hi
      exact hnone j hj
    rw [hempty]
    rfl
  · rintro ⟨j, hj⟩
    have hmem := h.mem_insertions.mpr ⟨j, rfl, hj⟩
    have hsome : (insertions (source ++ rest)).isEmpty = false := by
      rw [List.isEmpty_eq_false_iff]
      exact List.ne_nil_of_mem hmem
    rw [hsome]
    rfl

section Insertions

variable (h : IsSource r text source e) (balanced : ∀ run ∈ runs, Balanced run)

include h balanced

/-- The insertions behind a source are those outside the parentheses of each run. -/
theorem IsSource.mem_insertions_flatten :
    i ∈ insertions (source ++ runs.flatten) ↔
      ∃ a run b j, runs = a ++ run :: b ∧ i = source.length + (a.flatten.length + j) ∧
        Outside (· = .insert) run j := by
  rw [h.mem_insertions]
  simp only [outside_flatten fun run hrun => openBehind_balanced (balanced run hrun)]
  constructor
  · rintro ⟨k, rfl, a, run, b, j, hruns, rfl, hj⟩
    exact ⟨a, run, b, j, hruns, rfl, hj⟩
  · rintro ⟨a, run, b, j, hruns, rfl, hj⟩
    exact ⟨_, rfl, a, run, b, j, hruns, rfl, hj⟩

variable (heads : ∀ run ∈ runs, BeginsWith (· = .insert) run)

include heads

/-- Each run starts with an insertion. -/
theorem IsSource.starts_subset : starts source.length runs ⊆ insertions (source ++ runs.flatten) := by
  intro i hi
  obtain ⟨a, run, b, hruns, rfl⟩ := mem_starts.mp hi
  obtain ⟨t, ts, rfl, ht⟩ := heads run (by simp [hruns])
  exact (h.mem_insertions_flatten balanced).mpr
    ⟨a, _, b, 0, hruns, rfl, t, rfl, decide_eq_true ht, rfl⟩

/-- Insertions behind a source are found where the runs start, if none of them holds another one
outside its parentheses. -/
theorem IsSource.insertions_eq (single : ∀ run ∈ runs, ∀ i, Outside (· = .insert) run i → i = 0) :
    insertions (source ++ runs.flatten) = starts source.length runs := by
  have hasc := pairwise_starts (n := source.length) fun run hrun => (heads run hrun).ne_nil
  refine pairwise_insertions.eq_of_mem_iff hasc fun i => ⟨fun hi => ?_, fun hi =>
    h.starts_subset balanced heads hi⟩
  obtain ⟨a, run, b, j, hruns, rfl, hj⟩ := (h.mem_insertions_flatten balanced).mp hi
  obtain rfl := single run (by simp [hruns]) j hj
  exact mem_starts.mpr ⟨a, run, b, hruns, rfl⟩

/-- As many insertions as runs leave no other one in a run. -/
theorem IsSource.single_of_length
    (hlength : (insertions (source ++ runs.flatten)).length = runs.length) :
    ∀ run ∈ runs, ∀ i, Outside (· = .insert) run i → i = 0 := by
  have some := fun run hrun => (heads run hrun).ne_nil
  have hnodup : (starts source.length runs).Nodup := (pairwise_starts some).imp Nat.ne_of_lt
  -- the starts are among the insertions, and as many: there are no others
  have hperm : (starts source.length runs).Perm (insertions (source ++ runs.flatten)) :=
    (List.subperm_of_subset hnodup (h.starts_subset balanced heads)).perm_of_length_le
      (by rw [hlength, length_starts])
  intro run hrun j hj
  obtain ⟨a, b, hruns⟩ := List.append_of_mem hrun
  have hmem := (h.mem_insertions_flatten balanced).mpr ⟨a, run, b, j, hruns, rfl, hj⟩
  obtain ⟨a', run', b', hruns', heq⟩ := mem_starts.mp (hperm.mem_iff.mpr hmem)
  obtain ⟨t, ht, -, -⟩ := hj
  exact eq_zero_of_start some hruns hruns' (List.getElem?_eq_some_iff.mp ht).1 (by omega)

/-- Insertions behind a source are laid out one by one exactly if none of them holds another one
outside its parentheses. -/
theorem IsSource.statement_of_insertions (hsome : runs ≠ [])
    (hread : List.Forall₂ (LeafOver r text .multiInsertBranch (· == .insert)) runs parts) :
    statement r text (source ++ runs.flatten) =
        .ok (sourceTree text source runs.flatten e parts) ↔
      ∀ run ∈ runs, ∀ i, Outside (· = .insert) run i → i = 0 := by
  have hback : BeginsWith (· = .insert) runs.flatten := by
    obtain ⟨run, more, rfl⟩ := List.exists_cons_of_ne_nil hsome
    obtain ⟨t, ts, rfl, ht⟩ := heads run List.mem_cons_self
    exact ⟨t, ts ++ more.flatten, rfl, ht⟩
  have hhead : BeginsWith (isHead · = true) runs.flatten := hback.imp fun k hk => by rw [hk]; rfl
  have hselect : ¬ BeginsWith (· = .select) ((source ++ runs.flatten).drop
      (sourceLength (source ++ runs.flatten))) := by
    rw [h.sourceLength_eq hhead, List.drop_left]
    rintro ⟨u, us, heq, hu⟩
    obtain ⟨t, ts, heq', ht⟩ := hback
    obtain ⟨rfl, -⟩ := List.cons.inj (heq.symm.trans heq')
    rw [hu] at ht
    cases ht
  have hbehind : ∀ parts', behindSource r text (source ++ runs.flatten) = .ok parts' ↔
      List.Forall₂ (LeafOver r text .multiInsertBranch (· == .insert))
        (runsFrom (source ++ runs.flatten) (insertions (source ++ runs.flatten))) parts' := by
    intro parts'
    rw [behindSource_eq_ok, or_iff_right fun hs => hselect hs.1, and_iff_right hselect]
  rw [h.statement_eq hhead]
  constructor
  · intro hlaid
    obtain ⟨parts', hparts', htree⟩ := map_eq_ok.mp hlaid
    obtain rfl : parts' = parts := by simpa [sourceTree, nodeOver] using htree
    have hlength := ((hbehind parts').mp hparts').length_eq
    rw [length_runsFrom, ← hread.length_eq] at hlength
    exact h.single_of_length balanced heads hlength
  · intro single
    have hparts : behindSource r text (source ++ runs.flatten) = .ok parts := by
      rw [hbehind, h.insertions_eq balanced heads single, runsFrom_starts]
      exact hread
    rw [hparts]
    rfl

end Insertions

/-- **A source that can be read by itself** may stand in front of each selection that can be, and of
insertions that can be: they are laid out as they are by themselves exactly if none of their tokens,
other than the first of each insertion, is an `INSERT` outside parentheses. -/
theorem statement_of_source (h : IsSource r text source e) :
    (∀ rest t, BeginsWith (· = .select) rest → LeafOver r text .fromRest (·.isQuery) rest t →
      ((∀ i, ¬ Outside (· = .insert) rest i) →
        statement r text (source ++ rest) = .ok (sourceTree text source rest e [t])) ∧
      ((∃ i, Outside (· = .insert) rest i) →
        statement r text (source ++ rest) =
          .error (.mixedBranches (textOf text (source ++ rest))))) ∧
    ∀ runs parts, runs ≠ [] → (∀ run ∈ runs, BeginsWith (· = .insert) run ∧ Balanced run) →
      List.Forall₂ (LeafOver r text .multiInsertBranch (· == .insert)) runs parts →
      (statement r text (source ++ runs.flatten) =
          .ok (sourceTree text source runs.flatten e parts) ↔
        ∀ run ∈ runs, ∀ i, Outside (· = .insert) run i → i = 0) := by
  constructor
  · intro rest t hrest hread
    exact h.statement_of_selection hrest hread
  · intro runs parts hsome hruns hread
    exact h.statement_of_insertions (fun run hrun => (hruns run hrun).2)
      (fun run hrun => (hruns run hrun).1) hsome hread

end Sources

/-! ### Insertions and selections behind a source -/

theorem balanced_of_plain {run : List Token}
    (h : ∀ t ∈ run, t.kind ≠ .lParen ∧ t.kind ≠ .rParen) : Balanced run := by
  induction run with
  | nil => exact .nil
  | cons t ts ih =>
    obtain ⟨hopen, hclose⟩ := h t List.mem_cons_self
    exact .plain hopen hclose (ih fun u hu => h u (List.mem_cons_of_mem t hu))

/-- A source at the front of a text. -/
def sampleSource : List Token := [inLine .from_ "FROM" 0 4, inLine .var "t" 5 6]

theorem isSource_sample {r : Reader} {text : List Char} {e : Expression}
    (h : fragment r (· == .select) ("SELECT * ".toList ++ textOf text sampleSource) = .ok e) :
    IsSource r text sampleSource e where
  head := ⟨_, _, rfl, rfl, by decide⟩
  more := by decide
  balanced := balanced_of_plain (by decide)
  free i hi := by
    have hnone : heads sampleSource = [] := by decide
    have hmem := mem_heads_iff.mpr hi
    rw [hnone] at hmem
    cases hmem
  read := h

/-- Insertions behind it. -/
def sampleRuns : List (List Token) := [
  [inLine .insert "INSERT" 7 13, inLine .into "INTO" 14 18, inLine .var "a" 19 20,
    inLine .select "SELECT" 21 27, inLine .number "1" 28 29],
  [inLine .insert "INSERT" 30 36, inLine .into "INTO" 37 41, inLine .var "b" 42 43,
    inLine .select "SELECT" 44 50, inLine .number "2" 51 52]]

/-- Two insertions behind a source are laid out one by one. -/
theorem statement_of_source_insertions :
    ∃ e parts, IsSource insertionReader
        "FROM t INSERT INTO a SELECT 1 INSERT INTO b SELECT 2".toList sampleSource e ∧
      parts.length = 2 ∧
      statement insertionReader "FROM t INSERT INTO a SELECT 1 INSERT INTO b SELECT 2".toList
          (sampleSource ++ sampleRuns.flatten) =
        .ok (sourceTree "FROM t INSERT INTO a SELECT 1 INSERT INTO b SELECT 2".toList
          sampleSource sampleRuns.flatten e parts) := by
  obtain ⟨e, he, -⟩ := exists_of_toOption_any
    (x := fragment insertionReader (· == .select) ("SELECT * ".toList ++
      textOf "FROM t INSERT INTO a SELECT 1 INSERT INTO b SELECT 2".toList sampleSource))
    (p := fun _ => true) (by decide +kernel)
  obtain ⟨parts, hparts, -⟩ := exists_of_toOption_any
    (x := sampleRuns.mapM (leaf insertionReader .multiInsertBranch (· == .insert)
      "FROM t INSERT INTO a SELECT 1 INSERT INTO b SELECT 2".toList))
    (p := fun _ => true) (by decide +kernel)
  have hread := (mapM_eq_ok.mp hparts).imp fun _ _ => leaf_eq_ok.mp
  have hruns : ∀ run ∈ sampleRuns, BeginsWith (· = .insert) run ∧ Balanced run := by
    have hall : ∀ run ∈ sampleRuns, run.head?.any (·.kind = .insert) = true ∧
        ∀ t ∈ run, t.kind ≠ .lParen ∧ t.kind ≠ .rParen := by decide
    intro run hrun
    exact ⟨beginsWith_iff_head?.mpr (hall run hrun).1, balanced_of_plain (hall run hrun).2⟩
  have single : ∀ run ∈ sampleRuns, ∀ i, Outside (· = .insert) run i → i = 0 := by
    have hall : ∀ run ∈ sampleRuns, insertions run = [0] := by decide
    intro run hrun i hi
    have hmem := mem_insertions_iff.mpr hi
    rw [hall run hrun] at hmem
    exact List.mem_singleton.mp hmem
  have h := isSource_sample he
  exact ⟨e, parts, h, hread.length_eq.symm,
    ((statement_of_source h).2 sampleRuns parts (by decide) hruns hread).mpr single⟩

/-- A selection that gives a column the name `insert`. -/
def sampleRest : List Token := [inLine .select "SELECT" 7 13, inLine .var "a" 14 15,
  inLine .as_ "AS" 16 18, inLine .insert "insert" 19 25]

set_option maxRecDepth 100000 in
/-- **A selection may be refused** behind a source, though it can be read by itself. -/
theorem exists_selection_refused :
    ¬ ∀ (d : Sql.Dialect) (text : List Char) (source rest : List Token) (e : Expression) (t : Tree),
      d.reader.tokens text = some (source ++ rest) → IsSource d.reader text source e →
      BeginsWith (· = .select) rest → LeafOver d.reader text .fromRest (·.isQuery) rest t →
      statement d.reader text (source ++ rest) = .ok (sourceTree text source rest e [t]) := by
  intro hall
  -- one run of the reader tells the tokens and both fragments
  obtain ⟨⟨e, t⟩, hread, htokens⟩ := exists_of_toOption_any
    (x := do
      let e ← fragment Sql.Dialect.standard.reader (· == .select)
        ("SELECT * ".toList ++ textOf "FROM t SELECT a AS insert".toList sampleSource)
      let t ← leaf Sql.Dialect.standard.reader .fromRest (·.isQuery)
        "FROM t SELECT a AS insert".toList sampleRest
      return (e, t))
    (p := fun _ => Sql.Dialect.standard.reader.tokens "FROM t SELECT a AS insert".toList ==
      some (sampleSource ++ sampleRest)) (by decide +kernel)
  obtain ⟨e', he, hread⟩ := bind_eq_ok.mp hread
  obtain ⟨t', ht, hread⟩ := bind_eq_ok.mp hread
  cases pure_eq_ok.mp hread
  have h := isSource_sample he
  have hselect : BeginsWith (· = .select) sampleRest := ⟨_, _, rfl, rfl⟩
  have hlaid := hall _ _ _ _ e t (eq_of_beq htokens) h hselect (leaf_eq_ok.mp ht)
  have hrefused := (h.statement_of_selection hselect (leaf_eq_ok.mp ht)).2
    ⟨3, mem_insertions_iff.mp (by decide)⟩
  rw [hrefused] at hlaid
  cases hlaid

end StatementShape.Statement
