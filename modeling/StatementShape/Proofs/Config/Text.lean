import StatementShape.Config.Display
import StatementShape.Proofs.Number.Numeral
import StatementShape.Toml.Text

/-!
# Texts without control characters

A string may hold any characters, but the text of every other value is free of control characters:
numbers, dates and times are written in digits and marks, and strings within an array or a table
stand between quotes with all escaped that cannot be printed.

## Main definitions

* `Clean`: texts without control characters

## Main results

* `clean_quoted`: a string in quotes
* `clean_display`: a value as it is shown in a message
* `clean_plain`: the text of a value
-/

namespace StatementShape.Config

open Calendar (Date Instant Time)
open Number (Binary64 NumeralStyle isDigit_of_mem_toDigits padLeft toList_toString)
open Toml (isControl)

/-- Texts without control characters. -/
def Clean (cs : List Char) : Prop := ∀ c ∈ cs, isControl c = false

instance : DecidablePred Clean := fun cs =>
  List.decidableBAll (fun c => isControl c = false) cs

section Texts

variable {c quote : Char} {cs ds : List Char} {s : String}

@[simp] theorem clean_nil : Clean [] := List.forall_mem_nil _

@[simp] theorem clean_cons : Clean (c :: cs) ↔ isControl c = false ∧ Clean cs :=
  List.forall_mem_cons

@[simp] theorem clean_append : Clean (cs ++ ds) ↔ Clean cs ∧ Clean ds := List.forall_mem_append

theorem Clean.take (h : Clean cs) (n : Nat) : Clean (cs.take n) :=
  fun c hc => h c (List.mem_of_mem_take hc)

theorem Clean.drop (h : Clean cs) (n : Nat) : Clean (cs.drop n) :=
  fun c hc => h c (List.mem_of_mem_drop hc)

theorem clean_replicate (n : Nat) (hc : isControl c = false) : Clean (List.replicate n c) :=
  fun _ hd => (List.eq_of_mem_replicate hd) ▸ hc

/-- Texts joined by another. -/
theorem clean_intercalate (hs : Clean s.toList) {texts : List String}
    (h : ∀ t ∈ texts, Clean t.toList) : Clean (s.intercalate texts).toList := by
  induction texts with
  | nil => simp
  | cons t texts ih =>
    obtain ⟨ht, htexts⟩ := List.forall_mem_cons.mp h
    by_cases hnil : texts = []
    · subst hnil
      simpa using ht
    · rw [String.intercalate_cons_of_ne_nil hnil]
      simpa [ht, hs] using ih htexts

/-! ### Numbers -/

theorem isControl_of_le (h : 0x20 ≤ c.toNat) (hne : c.toNat ≠ 0x7F) : isControl c = false := by
  refine Bool.eq_false_iff.mpr fun hc => ?_
  simp only [isControl, Bool.or_eq_true, Bool.and_eq_true, decide_eq_true_eq] at hc
  rcases hc with ⟨hlt, -⟩ | rfl
  · exact absurd h (Nat.not_le.mpr hlt)
  · exact hne rfl

theorem isControl_of_isDigit (h : c.isDigit = true) : isControl c = false := by
  simp only [Char.isDigit, Bool.and_eq_true, decide_eq_true_eq] at h
  obtain ⟨hle, hge⟩ : 48 ≤ c.toNat ∧ c.toNat ≤ 57 := h
  exact isControl_of_le (by omega) (by omega)

@[simp] theorem clean_toDigits (n : Nat) : Clean (Nat.toDigits 10 n) :=
  fun c hc => isControl_of_isDigit (isDigit_of_mem_toDigits c hc)

@[simp] theorem clean_int (i : Int) : Clean i.repr.toList := by
  rw [show i.repr.toList = _ from toList_toString i]
  split
  · exact clean_cons.mpr ⟨by decide, clean_toDigits _⟩
  · exact clean_toDigits _

@[simp] theorem clean_padLeft (width n : Nat) : Clean (padLeft width n).toList := by
  simp [padLeft, clean_replicate _ (show isControl '0' = false by decide)]

theorem clean_positional (h : Clean ds) (place : Int) : Clean (Number.positional ds place) := by
  have hzero : isControl '0' = false := by decide
  have hpoint : isControl '.' = false := by decide
  unfold Number.positional
  split
  · simp [h, hzero, hpoint, clean_replicate]
  · dsimp only
    split
    · simp [h, hzero, hpoint, clean_replicate]
    · simp [h.take, h.drop, hpoint]

theorem clean_scientific (width : Nat) (h : Clean ds) (place : Int) :
    Clean (Number.scientific width ds place) := by
  have hmarks : isControl '.' = false ∧ isControl 'e' = false := by decide
  have hsign (p : Prop) [Decidable p] : isControl (if p then '-' else '+') = false := by
    split <;> decide
  have hpoint : Clean (if ds.length ≤ 1 then [] else '.' :: ds.drop 1) := by
    split
    · exact clean_nil
    · exact clean_cons.mpr ⟨hmarks.1, h.drop 1⟩
  unfold Number.scientific
  dsimp only
  simp only [clean_append, clean_cons, clean_padLeft, hpoint, hmarks.2, hsign, h.take 1, and_self]

theorem clean_shortest (m : Nat) (e : Int) : Clean (Number.shortest m e).1 := by
  unfold Number.shortest
  dsimp only
  split
  · next n exponent _ =>
    intro c hc
    have hmem : c ∈ (toString n).toList := by
      have := (List.dropWhile_suffix _).subset (List.mem_reverse.mp hc)
      exact List.mem_reverse.mp this
    exact clean_toDigits n c (by simpa using hmem)
  · decide

/-- A binary number is written with digits, a sign, a point and an exponent, or as a word. -/
theorem clean_float (style : NumeralStyle) (x : Binary64) : Clean (x.text style) := by
  cases x with
  | finite negative m e =>
    have hsign : Clean (if negative then ['-'] else []) := by cases negative <;> decide
    unfold Binary64.text
    dsimp only
    split
    · exact clean_append.mpr ⟨hsign, by decide⟩
    · refine clean_append.mpr ⟨hsign, ?_⟩
      split
      · exact clean_positional (clean_shortest m e) _
      · exact clean_scientific _ (clean_shortest m e) _
  | infinite negative =>
    cases negative
    · exact (by decide : Clean "inf".toList)
    · exact (by decide : Clean "-inf".toList)
  | undefined => exact (by decide : Clean "nan".toList)

/-! ### Strings -/

/-- Printable characters are no control characters. -/
theorem isControl_of_isPrintable (h : Text.isPrintable c = true) : isControl c = false := by
  unfold Text.isPrintable at h
  split at h
  · exact isControl_of_le (of_decide_eq_true h) (by omega)
  · -- the character of deletion is the first of the second range
    rw [Text.unprintableRanges, List.all_toArray, List.all_cons, List.all_cons] at h
    have hsecond := (Bool.and_eq_true_iff.mp (Bool.and_eq_true_iff.mp h).2).1
    simp only [Bool.or_eq_true, decide_eq_true_eq] at hsecond
    clear h
    exact isControl_of_le (by omega) (by omega)

theorem clean_hexadecimal (width n : Nat) : Clean (hexadecimal width n) := by
  have hdigit : ∀ k < 16, isControl (Json.hexDigit k) = false := by decide
  intro c hc
  obtain ⟨i, -, rfl⟩ := List.mem_map.mp hc
  exact hdigit _ (Nat.mod_lt _ (by decide))

theorem clean_escaped (hquote : isControl quote = false) (c : Char) : Clean (escaped quote c) := by
  have hescape : ∀ d ∈ ['\\', 'n', 'r', 't', 'x', 'u', 'U'], isControl d = false :=
    (by decide : Clean ['\\', 'n', 'r', 't', 'x', 'u', 'U'])
  unfold escaped
  split
  · next h => rcases h with rfl | rfl <;> simp [hescape, hquote]
  · split
    · simp [hescape]
    · split
      · simp [hescape]
      · split
        · simp [hescape]
        · split
          · next hprintable => simp [isControl_of_isPrintable hprintable]
          · unfold numberEscape
            dsimp only
            split
            · simp [hescape, clean_hexadecimal]
            · split <;> simp [hescape, clean_hexadecimal]

/-- **A string in quotes** has all escaped that cannot be printed. -/
@[simp] theorem clean_quoted (cs : List Char) : Clean (quoted cs) := by
  have hquote : isControl (quoteFor cs) = false := by
    unfold quoteFor
    split <;> decide
  have hescaped : Clean (cs.flatMap (escaped (quoteFor cs))) := by
    intro c hc
    obtain ⟨d, -, hd⟩ := List.mem_flatMap.mp hc
    exact clean_escaped hquote d c hd
  simp [quoted, hquote, hescaped]

/-! ### Dates and times -/

theorem clean_parts {name : String} (hname : Clean name.toList) (numbers : List Int)
    {more : List String} (hmore : ∀ t ∈ more, Clean t.toList) :
    Clean (parts name numbers more).toList := by
  have hmarks : Clean "(".toList ∧ Clean ")".toList ∧ Clean ", ".toList := by decide
  have hnumbers : ∀ t ∈ numbers.map toString ++ more, Clean t.toList := by
    refine List.forall_mem_append.mpr ⟨fun t ht => ?_, hmore⟩
    obtain ⟨i, -, rfl⟩ := List.mem_map.mp ht
    exact clean_int i
  have hjoined := clean_intercalate hmarks.2.2 hnumbers
  rw [parts, String.toList_append, String.toList_append, String.toList_append]
  simp only [clean_append]
  exact ⟨⟨⟨hname, hmarks.1⟩, hjoined⟩, hmarks.2.1⟩

theorem clean_zoneDisplay (ahead : Int) : Clean (zoneDisplay ahead).toList := by
  unfold zoneDisplay
  split
  · decide
  · dsimp only
    split <;> simp [isControl]

theorem clean_zoneText (ahead : Int) : Clean (zoneText ahead).toList := by
  unfold zoneText
  split <;> simp [isControl]

@[simp] theorem clean_date (d : Date) : Clean d.text.toList := by
  simp [Date.text, isControl]

@[simp] theorem clean_time (t : Time) : Clean t.text.toList := by
  unfold Time.text
  split <;> simp [isControl]

end Texts

/-! ### Values -/

mutual

/-- **A value in a message** has no control characters, nor has any value in it. -/
theorem clean_display : ∀ v : Value, Clean v.display
  | .nothing => by decide
  | .bool true => by decide
  | .bool false => by decide
  | .integer n => clean_int n
  | .float x => clean_float _ x
  | .string s => clean_quoted s
  | .date d => clean_parts (by decide) _ fun _ h => nomatch h
  | .time t => clean_parts (by decide) _ fun _ h => nomatch h
  | .dateTime i ahead => by
    refine clean_parts (by decide) _ fun t ht => ?_
    obtain ⟨a, -, rfl⟩ := Option.map_eq_some_iff.mp (Option.mem_toList.mp ht)
    rw [String.toList_append]
    exact clean_append.mpr ⟨by decide, clean_zoneDisplay a⟩
  | .array [] => by decide
  | .array (v :: vs) => by
    simp [Value.display, isControl, clean_display v, clean_displayItems vs]
  | .table [] => by decide
  | .table ((k, v) :: es) => by
    simp [Value.display, isControl, clean_display v, clean_displayEntries es]

/-- Nor have further items. -/
theorem clean_displayItems : ∀ vs : List Value, Clean (Value.displayItems vs)
  | [] => clean_nil
  | v :: vs => by
    simp [Value.displayItems, isControl, clean_display v, clean_displayItems vs]

/-- Nor have further entries. -/
theorem clean_displayEntries : ∀ es : List (List Char × Value), Clean (Value.displayEntries es)
  | [] => clean_nil
  | (k, v) :: es => by
    simp [Value.displayEntries, isControl, clean_display v, clean_displayEntries es]

end

/-- **The text of a value** that is no string has no control characters. -/
theorem clean_plain {v : Value} (h : ∀ s, v ≠ .string s) : Clean v.plain := by
  cases v with
  | string s => exact absurd rfl (h s)
  | date d => exact clean_date d
  | time t => exact clean_time t
  | dateTime i ahead =>
    cases ahead <;> simp [Value.plain, Instant.text, isControl, clean_zoneText]
  | nothing | bool | integer | float | array | table => exact clean_display _

end StatementShape.Config
