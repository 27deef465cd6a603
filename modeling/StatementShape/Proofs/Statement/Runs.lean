import Mathlib.Logic.Relation
import StatementShape.Proofs.Statement.Placement

/-!
# Runs between semicolons

The statements of a script are the longest runs of its tokens without a semicolon. They are settled
by one equation: behind a semicolon the statements start anew. So a semicolon more at either end, or
next to another one, adds no statement and takes none away.

## Main definitions

* `AddsSemicolon`: one more semicolon where it makes no difference

## Main results

* `cut_iff`: the statements are the only way to cut tokens at their semicolons
* `statements_of_addsSemicolons`: more semicolons make no difference
* `script_eq_ok`: the tree of a script has the trees of its statements as its parts
* `slice_of_statement`: the span of a statement names its text
* `everywhere_of_script`: every node of a statement of a script is in its place
-/

namespace StatementShape.Statement

open Sql (Token Reader)
open Text (Span)

/-! ### Cutting at semicolons -/

section Cutting

variable {t : Token} {tokens tokens' front back run : List Token} {runs : List (List Token)}

/-- Behind a semicolon the statements start anew. -/
theorem statements_append_cons (ht : t.kind = .semicolon) (front back : List Token) :
    statements (front ++ t :: back) = statements front ++ statements back := by
  unfold statements
  rw [List.splitOnP_append_cons front back (decide_eq_true ht), List.filter_append]

@[simp] theorem statements_nil : statements [] = [] := rfl

/-- A semicolon in front belongs to no statement. -/
theorem statements_cons (ht : t.kind = .semicolon) (back : List Token) :
    statements (t :: back) = statements back :=
  statements_append_cons ht [] back

/-- Some tokens without a semicolon are one statement. -/
theorem statements_of_forall (some : run ≠ []) (inside : ∀ t ∈ run, t.kind ≠ .semicolon) :
    statements run = [run] := by
  unfold statements
  rw [List.splitOnP_eq_singleton fun t ht => decide_eq_false (inside t ht)]
  simpa using some

/-- **The statements** are the only way to cut tokens at their semicolons. -/
theorem cut_iff : Cut tokens runs ↔ statements tokens = runs := by
  constructor
  · intro cut
    induction cut with
    | nil => rfl
    | last some inside => exact statements_of_forall some inside
    | empty ht cut ih => rw [statements_cons ht, ih]
    | more some inside ht cut ih =>
      rw [statements_append_cons ht, statements_of_forall some inside, ih, List.singleton_append]
  · rintro rfl
    exact cut_statements tokens

/-- One more semicolon at either end of some tokens, or next to another semicolon. -/
inductive AddsSemicolon : List Token → List Token → Prop
  | front {s : Token} {tokens : List Token} (hs : s.kind = .semicolon) :
      AddsSemicolon tokens (s :: tokens)
  | back {s : Token} {tokens : List Token} (hs : s.kind = .semicolon) :
      AddsSemicolon tokens (tokens ++ [s])
  | before {s t : Token} {front back : List Token} (hs : s.kind = .semicolon)
      (ht : t.kind = .semicolon) : AddsSemicolon (front ++ t :: back) (front ++ s :: t :: back)
  | behind {s t : Token} {front back : List Token} (hs : s.kind = .semicolon)
      (ht : t.kind = .semicolon) : AddsSemicolon (front ++ t :: back) (front ++ t :: s :: back)

theorem statements_of_addsSemicolon (h : AddsSemicolon tokens tokens') :
    statements tokens' = statements tokens := by
  cases h with
  | front hs => exact statements_cons hs tokens
  | back hs => rw [statements_append_cons hs, statements_nil, List.append_nil]
  | before hs ht =>
    rw [statements_append_cons hs, statements_cons ht, statements_append_cons ht]
  | behind hs ht =>
    rw [statements_append_cons ht, statements_cons hs, statements_append_cons ht]

/-- **More semicolons** at either end, or next to another one, make no difference to the
statements. -/
theorem statements_of_addsSemicolons (h : Relation.ReflTransGen AddsSemicolon tokens tokens') :
    statements tokens' = statements tokens := by
  induction h with
  | refl => rfl
  | tail _ step ih => rw [statements_of_addsSemicolon step, ih]

end Cutting

/-! ### The parts of a script -/

section Parts

variable {r : Reader} {text : List Char} {tokens run : List Token} {runs : List (List Token)}
  {t tree : Tree}

/-- **The tree of a script** has the trees of its statements as its parts, of which there is at
least one. -/
theorem script_eq_ok :
    script r text = .ok tree ↔
      ∃ tokens parts, r.tokens text = some tokens ∧ parts ≠ [] ∧
        List.Forall₂ (fun run t => statement r text run = .ok t) (statements tokens) parts ∧
        tree = .node .script { start := 0, stop := text.length } text none parts := by
  unfold script
  cases r.tokens text with
  | none => simp
  | some tokens =>
    simp only [bind_eq_ok, mapM_eq_ok, Option.some.injEq, exists_eq_left', exists_and_left]
    refine exists_congr fun parts => ?_
    cases parts with
    | nil => simp
    | cons part parts => simp [eq_comm]

/-- The parts of a script are the trees of its statements. -/
theorem children_of_script (h : script r text = .ok tree) (htokens : r.tokens text = some tokens)
    (cut : Cut tokens runs) :
    List.Forall₂ (fun run t => statement r text run = .ok t) runs tree.children := by
  obtain ⟨tokens', parts, htokens', -, hparts, rfl⟩ := script_eq_ok.mp h
  obtain rfl : tokens = tokens' := Option.some.inj (htokens.symm.trans htokens')
  rwa [cut_iff.mp cut] at hparts

/-- A script whose statements all have a tree has a tree, if there is one at least. -/
theorem exists_script (htokens : r.tokens text = some tokens) (cut : Cut tokens runs)
    (some : runs ≠ []) (h : ∀ run ∈ runs, ∃ t, statement r text run = .ok t) :
    ∃ tree, script r text = .ok tree := by
  obtain ⟨parts, hparts⟩ : ∃ parts,
      List.Forall₂ (fun run t => statement r text run = .ok t) runs parts := by
    clear cut some
    induction runs with
    | nil => exact ⟨[], List.Forall₂.nil⟩
    | cons run runs ih =>
      obtain ⟨t, ht⟩ := h run List.mem_cons_self
      obtain ⟨parts, hparts⟩ := ih fun run hrun => h run (List.mem_cons_of_mem _ hrun)
      exact ⟨t :: parts, List.Forall₂.cons ht hparts⟩
  refine ⟨_, script_eq_ok.mpr ⟨tokens, parts, htokens, ?_, cut_iff.mp cut ▸ hparts, rfl⟩⟩
  rintro rfl
  exact some (List.forall₂_nil_right_iff.mp hparts)

/-- A statement covers its tokens. -/
theorem span_of_statement (h : statement r text run = .ok t) :
    t.span = spanOf run ∧ t.text = textOf text run := by
  cases layout_of_statement h with
  | utility some head root read =>
    obtain ⟨e, -, rfl⟩ := read
    exact ⟨rfl, rfl⟩
  | query => exact ⟨rfl, rfl⟩
  | explain => exact ⟨rfl, rfl⟩

/-- The span of some tokens names their text. -/
theorem slice_spanOf (text : List Char) (run : List Token) :
    (spanOf run).slice text = textOf text run := by
  have htake : ∀ n : Nat, text.take (min n text.length) = text.take n := by
    intro n
    rw [← List.take_take, List.take_length]
  have place_eq : ∀ n : Nat, Span.place text.length (n : Int) = min n text.length := by
    intro n
    simp [Span.place, show ¬ (n : Int) < 0 by omega]
  simp only [Span.slice, spanOf, textOf, place_eq, htake]
  rcases Nat.le_total (extent run).1 text.length with h | h
  · rw [Nat.min_eq_left h]
  · rw [Nat.min_eq_right h, List.drop_eq_nil_of_le, List.drop_eq_nil_of_le]
    · exact Nat.le_trans (List.length_take_le' _ _) h
    · exact List.length_take_le' _ _

/-- **The span of a statement** names its text. -/
theorem slice_of_statement (h : statement r text run = .ok t) : t.span.slice text = t.text := by
  obtain ⟨hspan, htext⟩ := span_of_statement h
  rw [hspan, htext, slice_spanOf]

/-- **Every node of a statement** of a script is in its place. -/
theorem everywhere_of_script (hr : r.KeepsOrder) (h : script r text = .ok tree) :
    ∀ t ∈ tree.children, Everywhere (WellPlaced text) t := by
  obtain ⟨tokens, parts, htokens, -, layouts, rfl⟩ := layouts_of_script h
  have hpieces : Pieces text 0 text.length (statements tokens) :=
    Pieces.of_cut (cut_statements tokens) (hr text tokens htokens) fun t _ => Nat.zero_le t.start
  intro t ht
  obtain ⟨run, hrun, layout⟩ := exists_mem_of_forall₂ layouts ht
  exact (over_of_layout hr layout (hpieces.each run hrun).2).everywhere

end Parts

end StatementShape.Statement
