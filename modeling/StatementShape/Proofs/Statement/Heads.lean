import Mathlib.Data.List.Sort
import StatementShape.Proofs.Statement.Layout

/-!
# Heads outside parentheses

A statement that begins with its source is cut in front of the first selection or insertion that
stands outside all parentheses, and behind its source at every insertion that does. Here these
places are told without the scan that finds them: by the parentheses that are open in front of them.

## Main definitions

* `openBehind`: how many parentheses are open behind some tokens
* `Outside`: a token of a wanted kind, outside all parentheses
* `heads`, `sourceLength`, `insertions`: where a statement that begins with its source is cut
* `LongestPrefix`: the longest prefix with a property
* `behindSource`: what stands behind its source

## Main results

* `mem_topLevel_iff`: the scan finds the places outside parentheses
* `outside_append`: places outside parentheses behind tokens that leave none open
* `longestPrefix_source`: the source is as long as it can be
* `fromStatement_eq`: a statement that begins with its source, by what is cut off it
-/

namespace StatementShape.Statement

open Sql (Token TokenKind Reader Expression ExpressionKind)

/-! ### Open parentheses -/

/-- How many parentheses are open behind some tokens. It is less than none where more of them
have been closed than opened. -/
def openBehind (tokens : List Token) : Int :=
  (tokens.countP (·.kind = .lParen) : Int) - tokens.countP (·.kind = .rParen)

/-- A token of a wanted kind, at a place outside all parentheses. -/
def Outside (wanted : TokenKind → Bool) (tokens : List Token) (i : Nat) : Prop :=
  ∃ t, tokens[i]? = some t ∧ wanted t.kind = true ∧ openBehind (tokens.take i) = 0

section Scan

variable {wanted : TokenKind → Bool} {tokens front back : List Token} {i j : Nat}

@[simp] theorem openBehind_nil : openBehind [] = 0 := rfl

theorem openBehind_append (front back : List Token) :
    openBehind (front ++ back) = openBehind front + openBehind back := by
  simp only [openBehind, List.countP_append]
  omega

theorem openBehind_cons_of_lParen {t : Token} (ht : t.kind = .lParen) (ts : List Token) :
    openBehind (t :: ts) = openBehind ts + 1 := by
  simp only [openBehind, List.countP_cons, ht, decide_true, if_true, reduceCtorEq, decide_false,
    Bool.false_eq_true, if_false]
  omega

theorem openBehind_cons_of_rParen {t : Token} (ht : t.kind = .rParen) (ts : List Token) :
    openBehind (t :: ts) = openBehind ts - 1 := by
  simp only [openBehind, List.countP_cons, ht, decide_true, if_true, reduceCtorEq, decide_false,
    Bool.false_eq_true, if_false]
  omega

theorem openBehind_cons_of_plain {t : Token} (hopen : t.kind ≠ .lParen) (hclose : t.kind ≠ .rParen)
    (ts : List Token) : openBehind (t :: ts) = openBehind ts := by
  simp only [openBehind, List.countP_cons, hopen, hclose, decide_false, Bool.false_eq_true,
    if_false, Nat.add_zero]

theorem openBehind_singleton_of_lParen {t : Token} (ht : t.kind = .lParen) :
    openBehind [t] = 1 := by
  rw [openBehind_cons_of_lParen ht, openBehind_nil]
  rfl

theorem openBehind_singleton_of_rParen {t : Token} (ht : t.kind = .rParen) :
    openBehind [t] = -1 := by
  rw [openBehind_cons_of_rParen ht, openBehind_nil]
  rfl

/-- A place among tokens is that of the first of them, or lies among the others. -/
theorem exists_place_cons {depth : Int} {t : Token} {ts : List Token} :
    (∃ k u, j = i + k ∧ (t :: ts)[k]? = some u ∧ wanted u.kind = true ∧
        depth + openBehind ((t :: ts).take k) = 0) ↔
      (j = i ∧ wanted t.kind = true ∧ depth = 0) ∨
        ∃ k u, j = i + 1 + k ∧ ts[k]? = some u ∧ wanted u.kind = true ∧
          depth + openBehind (t :: ts.take k) = 0 := by
  constructor
  · rintro ⟨_ | k, u, rfl, hu, hw, hd⟩
    · obtain rfl : t = u := by simpa using hu
      exact Or.inl ⟨rfl, hw, by simpa using hd⟩
    · exact Or.inr ⟨k, u, by omega, by simpa using hu, hw, by simpa using hd⟩
  · rintro (⟨rfl, hw, rfl⟩ | ⟨k, u, rfl, hu, hw, hd⟩)
    · exact ⟨0, t, rfl, rfl, hw, rfl⟩
    · exact ⟨k + 1, u, by omega, by simpa using hu, hw, by simpa using hd⟩

/-- The scan finds the tokens of a wanted kind in front of which no parenthesis is open. -/
theorem mem_topLevelFrom_iff (hl : wanted .lParen = false) (hr : wanted .rParen = false)
    {ts : List Token} {depth : Int} :
    j ∈ topLevelFrom wanted ts depth i ↔
      ∃ k t, j = i + k ∧ ts[k]? = some t ∧ wanted t.kind = true ∧
        depth + openBehind (ts.take k) = 0 := by
  -- along the tokens, with the depth and the place in front of them carried along
  induction ts generalizing depth i with
  | nil => simp [topLevelFrom]
  | cons t ts ih =>
    rw [exists_place_cons, topLevelFrom]
    by_cases hopen : t.kind = .lParen
    · rw [if_pos hopen, ih, hopen, hl]
      simp only [openBehind_cons_of_lParen hopen, Bool.false_eq_true, false_and, and_false,
        false_or, Int.add_assoc, Int.add_comm 1]
    by_cases hclose : t.kind = .rParen
    · rw [if_neg hopen, if_pos hclose, ih, hclose, hr]
      simp only [openBehind_cons_of_rParen hclose, Bool.false_eq_true, false_and, and_false,
        false_or, Int.sub_eq_add_neg, Int.add_assoc, Int.add_comm (-1)]
    · rw [if_neg hopen, if_neg hclose]
      simp only [openBehind_cons_of_plain hopen hclose]
      split
      · next h => rw [List.mem_cons, ih, and_iff_left ⟨h.2, h.1⟩]
      · next h => rw [ih, or_iff_right fun hi => h ⟨hi.2.2, hi.2.1⟩]

/-- **The places outside parentheses** are those that the scan finds. -/
theorem mem_topLevel_iff (hl : wanted .lParen = false) (hr : wanted .rParen = false) :
    i ∈ topLevel wanted tokens ↔ Outside wanted tokens i := by
  rw [topLevel, mem_topLevelFrom_iff hl hr]
  constructor
  · rintro ⟨k, t, rfl, ht, hw, hd⟩
    rw [Int.zero_add] at hd
    exact ⟨t, by rwa [Nat.zero_add], hw, by rwa [Nat.zero_add]⟩
  · rintro ⟨t, ht, hw, hd⟩
    exact ⟨i, t, (Nat.zero_add i).symm, ht, hw, by rwa [Int.zero_add]⟩

/-- In front of a cut the places outside parentheses are those of all the tokens. -/
theorem outside_take {n : Nat} :
    Outside wanted (tokens.take n) i ↔ i < n ∧ Outside wanted tokens i := by
  by_cases hi : i < n
  · simp only [Outside, List.getElem?_take_of_lt hi, List.take_take, Nat.min_eq_left hi.le, hi,
      true_and]
  · simp [Outside, hi]

/-- **Behind tokens that leave no parenthesis open** the places outside parentheses are those of the
other tokens. -/
theorem outside_append (h : openBehind front = 0) :
    Outside wanted (front ++ back) i ↔
      Outside wanted front i ∨ ∃ j, i = front.length + j ∧ Outside wanted back j := by
  rcases Nat.lt_or_ge i front.length with hi | hi
  · have hfront : Outside wanted (front ++ back) i ↔ Outside wanted front i := by
      have htake : Outside wanted ((front ++ back).take front.length) i ↔
          i < front.length ∧ Outside wanted (front ++ back) i := outside_take
      rw [List.take_left, and_iff_right hi] at htake
      exact htake.symm
    rw [hfront, or_iff_left]
    rintro ⟨j, rfl, -⟩
    omega
  · obtain ⟨j, rfl⟩ := Nat.exists_eq_add_of_le hi
    have hback : Outside wanted (front ++ back) (front.length + j) ↔ Outside wanted back j := by
      simp only [Outside, List.getElem?_append_right (Nat.le_add_right _ _), Nat.add_sub_cancel_left,
        List.take_length_add_append, openBehind_append, h, Int.zero_add]
    rw [hback, or_iff_right]
    · simp
    · rintro ⟨t, ht, -⟩
      have hlt := (List.getElem?_eq_some_iff.mp ht).1
      omega

end Scan

/-! ### Where a statement is cut -/

/-- Whether a token begins a part behind a source: a selection or an insertion. -/
def isHead (k : TokenKind) : Bool := k = .select || k = .insert

/-- The heads of a statement that begins with its source: the places outside parentheses where a
part may begin. -/
def heads (tokens : List Token) : List Nat := topLevel isHead tokens

/-- How many tokens the source takes: all those in front of the first head. -/
def sourceLength (tokens : List Token) : Nat := (heads tokens).head?.getD tokens.length

/-- The heads of insertions. -/
def insertions (tokens : List Token) : List Nat :=
  (heads tokens).filter fun i => tokens[i]?.any (·.kind = .insert)

/-- What stands behind a source: a selection that no insertion is mixed with, or insertions. -/
def behindSource (r : Reader) (text : List Char) (tokens : List Token) :
    Except SyntaxError (List Tree) :=
  let rest := tokens.drop (sourceLength tokens)
  if rest.head?.any (·.kind = .select) then
    if (insertions tokens).isEmpty then (leaf r .fromRest (·.isQuery) text rest).map fun t => [t]
    else .error (.mixedBranches (textOf text tokens))
  else branches r text tokens (insertions tokens)

/-- The longest prefix of some tokens with a property. -/
def LongestPrefix (P : List Token → Prop) (tokens front : List Token) : Prop :=
  front <+: tokens ∧ P front ∧ ∀ other, other <+: tokens → P other → other <+: front

section Cuts

variable {r : Reader} {text : List Char} {tokens : List Token} {i : Nat}

theorem pairwise_heads : (heads tokens).Pairwise (· < ·) := pairwise_topLevelFrom

theorem mem_heads_iff : i ∈ heads tokens ↔ Outside isHead tokens i := mem_topLevel_iff rfl rfl

theorem getElem?_of_mem_heads (h : i ∈ heads tokens) :
    ∃ t, tokens[i]? = some t ∧ (t.kind = .select ∨ t.kind = .insert) := by
  simpa [isHead] using getElem?_of_mem_topLevel h

theorem lt_of_mem_heads (h : i ∈ heads tokens) : i < tokens.length := by
  obtain ⟨t, ht, -⟩ := getElem?_of_mem_heads h
  exact (List.getElem?_eq_some_iff.mp ht).1

theorem pairwise_insertions : (insertions tokens).Pairwise (· < ·) :=
  pairwise_heads.sublist List.filter_sublist

/-- The heads of insertions are the insertions outside parentheses. -/
theorem mem_insertions_iff : i ∈ insertions tokens ↔ Outside (· = .insert) tokens i := by
  rw [insertions, List.mem_filter, mem_heads_iff]
  constructor
  · rintro ⟨⟨t, ht, -, hd⟩, hinsert⟩
    rw [ht, Option.any_some] at hinsert
    exact ⟨t, ht, hinsert, hd⟩
  · rintro ⟨t, ht, hinsert, hd⟩
    refine ⟨⟨t, ht, ?_, hd⟩, by rwa [ht, Option.any_some]⟩
    simpa [isHead] using Or.inr (of_decide_eq_true hinsert)

theorem lt_of_mem_insertions (h : i ∈ insertions tokens) : i < tokens.length :=
  lt_of_mem_heads (List.mem_of_mem_filter h)

theorem beginsWith_of_insertions {run : List Token}
    (hrun : run ∈ runsFrom tokens (insertions tokens)) : BeginsWith (· = .insert) run := by
  refine beginsWith_of_mem_runsFrom pairwise_insertions (fun i hi => ?_) hrun
  obtain ⟨t, ht, hinsert, -⟩ := mem_insertions_iff.mp hi
  exact ⟨t, ht, of_decide_eq_true hinsert⟩

theorem source_ne_nil (hfrom : BeginsWith (· = .from_) tokens) :
    tokens.take (sourceLength tokens) ≠ [] :=
  (beginsWith_source hfrom fun _ => getElem?_of_mem_heads).ne_nil

/-- No head stands in the source. -/
theorem sourceLength_le_of_mem_heads (h : i ∈ heads tokens) : sourceLength tokens ≤ i := by
  have hasc : (heads tokens).Pairwise (· < ·) := pairwise_heads
  unfold sourceLength
  cases hheads : heads tokens with
  | nil => simp [hheads] at h
  | cons first more =>
    rw [hheads] at h hasc
    rcases List.mem_cons.mp h with rfl | hmore
    · exact Nat.le_refl i
    · exact ((List.pairwise_cons.mp hasc).1 i hmore).le

/-- The source ends at a head, or where there is none, at the end. -/
theorem sourceLength_mem_heads_or :
    sourceLength tokens ∈ heads tokens ∨
      heads tokens = [] ∧ sourceLength tokens = tokens.length := by
  unfold sourceLength
  cases heads tokens with
  | nil => exact Or.inr ⟨rfl, rfl⟩
  | cons first more => exact Or.inl List.mem_cons_self

theorem sourceLength_le : sourceLength tokens ≤ tokens.length := by
  rcases sourceLength_mem_heads_or with hmem | ⟨-, hlength⟩
  · exact (lt_of_mem_heads hmem).le
  · exact hlength.le

/-- **The source** is the longest prefix without a selection or an insertion outside parentheses. -/
theorem longestPrefix_source :
    LongestPrefix (fun front => ∀ i, ¬ Outside isHead front i) tokens
      (tokens.take (sourceLength tokens)) := by
  refine ⟨List.take_prefix _ _, ?_, ?_⟩
  · intro i hi
    obtain ⟨hlt, houtside⟩ := outside_take.mp hi
    exact Nat.not_lt.mpr (sourceLength_le_of_mem_heads (mem_heads_iff.mpr houtside)) hlt
  · intro other hother hfree
    rw [List.prefix_iff_eq_take.mp hother] at hfree ⊢
    refine List.take_prefix_take_left ?_
    rcases sourceLength_mem_heads_or with hmem | ⟨-, hlength⟩
    · -- a longer prefix has a head among its tokens, at the end of the source
      by_contra hlt
      exact hfree _ (outside_take.mpr ⟨Nat.lt_of_not_le hlt, mem_heads_iff.mp hmem⟩)
    · rw [hlength]
      exact hother.length_le

/-- **A statement that begins with its source**, by what is cut off it. -/
theorem fromStatement_eq :
    fromStatement r text tokens =
      if sourceLength tokens = 1 then .error (.noSource (textOf text tokens))
      else do
        let source := tokens.take (sourceLength tokens)
        let e ← fragment r (· == .select) ("SELECT * ".toList ++ textOf text source)
        let clause := nodeOver .fromClause text source (e.find? .from_) []
        let behind ← behindSource r text tokens
        return nodeOver .fromStatement text tokens none (clause :: behind) := by
  have hheads : topLevel (fun k => decide (k = .select) || decide (k = .insert)) tokens =
      heads tokens := rfl
  unfold fromStatement behindSource sourceLength insertions
  dsimp only
  rw [hheads]
  split
  · rfl
  · congr 1
    funext e
    split
    · cases ((heads tokens).filter fun i => tokens[i]?.any (·.kind = .insert)).isEmpty with
      | true =>
        cases leaf r .fromRest (·.isQuery) text
          (tokens.drop ((heads tokens).head?.getD tokens.length)) <;> rfl
      | false => rfl
    · rfl

/-- A statement that begins with its source has a tree if it has a source, and what is cut off it
can be read. -/
theorem fromStatement_eq_ok {t : Tree} :
    fromStatement r text tokens = .ok t ↔
      sourceLength tokens ≠ 1 ∧ ∃ e parts,
        fragment r (· == .select)
          ("SELECT * ".toList ++ textOf text (tokens.take (sourceLength tokens))) = .ok e ∧
        behindSource r text tokens = .ok parts ∧
        t = nodeOver .fromStatement text tokens none
          (nodeOver .fromClause text (tokens.take (sourceLength tokens)) (e.find? .from_) [] ::
            parts) := by
  rw [fromStatement_eq]
  split
  · next h => simp [h]
  · next h =>
    rw [ne_eq, and_iff_right h]
    simp only [bind_eq_ok, pure_eq_ok, eq_comm (a := t), exists_and_left]

/-- What stands behind a source is a selection without insertions, or the insertions. -/
theorem behindSource_eq_ok {parts : List Tree} :
    behindSource r text tokens = .ok parts ↔
      (BeginsWith (· = .select) (tokens.drop (sourceLength tokens)) ∧ insertions tokens = [] ∧
        ∃ t, LeafOver r text .fromRest (·.isQuery) (tokens.drop (sourceLength tokens)) t ∧
          parts = [t]) ∨
      (¬ BeginsWith (· = .select) (tokens.drop (sourceLength tokens)) ∧
        List.Forall₂ (LeafOver r text .multiInsertBranch (· == .insert))
          (runsFrom tokens (insertions tokens)) parts) := by
  rw [behindSource]
  split
  · next hhead =>
    have hselect := beginsWith_iff_head?.mpr hhead
    rw [and_iff_right hselect, or_iff_left fun h => h.1 hselect]
    split
    · next hempty =>
      rw [and_iff_right (List.isEmpty_iff.mp hempty), map_eq_ok]
      exact exists_congr fun t => and_congr leaf_eq_ok eq_comm
    · next hsome =>
      constructor
      · intro h
        cases h
      · rintro ⟨hempty, -⟩
        exact absurd (List.isEmpty_iff.mpr hempty) hsome
  · next hhead =>
    have hselect := fun h => hhead (beginsWith_iff_head?.mp h)
    rw [or_iff_right fun h => hselect h.1, and_iff_right hselect, branches_eq_ok]

/-- Behind a source that no selection follows, the insertions take all the tokens. -/
theorem flatten_runsFrom_insertions
    (hselect : ¬ BeginsWith (· = .select) (tokens.drop (sourceLength tokens))) :
    (runsFrom tokens (insertions tokens)).flatten = tokens.drop (sourceLength tokens) := by
  have hasc : (insertions tokens).Pairwise (· < ·) := pairwise_insertions
  unfold sourceLength insertions at *
  cases hheads : heads tokens with
  | nil => simp [runsFrom]
  | cons i more =>
    rw [hheads] at hselect hasc
    obtain ⟨u, hu, hk⟩ := getElem?_of_mem_heads (hheads ▸ List.mem_cons_self)
    have hinsert : u.kind = .insert :=
      hk.resolve_left fun hs => hselect (beginsWith_drop hu hs)
    rw [List.filter_cons_of_pos (by simp [hu, hinsert])] at hasc ⊢
    exact flatten_runsFrom hasc

end Cuts

end StatementShape.Statement
