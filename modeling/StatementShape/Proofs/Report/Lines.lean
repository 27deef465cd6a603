import Mathlib.Data.List.Forall2
import Mathlib.Tactic.ByContra
import StatementShape.Proofs.Number.Numeral
import StatementShape.Report.Render

/-!
# Reports are told by their text

The first characters of a line show whether it begins a diagnostic, belongs to a mark or a note, or
is none of these. Within a line, a code or an offset ends at the first character that no number has,
whatever stands behind it. So two reports on one text that read alike have the same diagnostics, but
for the roles of their marks, and classifications that look the same. Only a line end within a line
could pass for the end of it.

## Main definitions

* `LineKind`, `kindOf`: what a line shows to be
* `Diagnostic.Unbroken`: diagnostics without line ends in their lines
* `Diagnostic.Alike`, `LooksLike`: diagnostics and classifications that a text does not tell apart

## Main results

* `codeText_injective`: codes are told by their texts
* `alike_of_diagnosticLines`: diagnostics are told by their lines, whatever stands behind them
* `alike_of_text_eq`: reports on one text are told by their text
-/

namespace StatementShape.Report

open Classify (Classification)
open Number (digitsValue_padLeft isDigit_of_mem_padLeft isDigit_or_eq_of_mem_toString padLeft)
open Text (Span)

/-! ### Where two parts meet -/

section Parts

variable {α : Type} {p : α → Prop} {as as' bs bs' : List α}

/-- Two parts of a list are told by where they meet: the first one goes on as long as all of it
is of one kind, and the second one does not begin with that kind. -/
theorem append_inj_of_head? (has : ∀ a ∈ as, p a) (has' : ∀ a ∈ as', p a)
    (hbs : ∀ b ∈ bs.head?, ¬ p b) (hbs' : ∀ b ∈ bs'.head?, ¬ p b) (h : as ++ bs = as' ++ bs') :
    as = as' ∧ bs = bs' := by
  induction as generalizing as' with
  | nil =>
    cases as' with
    | nil => exact ⟨rfl, h⟩
    | cons a' as' =>
      obtain rfl : bs = a' :: (as' ++ bs') := h
      exact absurd (has' a' List.mem_cons_self) (hbs a' rfl)
  | cons a as ih =>
    cases as' with
    | nil =>
      obtain rfl : a :: (as ++ bs) = bs' := h
      exact absurd (has a List.mem_cons_self) (hbs' a rfl)
    | cons a' as' =>
      obtain ⟨rfl, hrest⟩ := List.cons.inj h
      obtain ⟨rfl, hbs⟩ := ih (fun a ha => has a (List.mem_cons_of_mem _ ha))
        (fun a ha => has' a (List.mem_cons_of_mem _ ha)) hrest
      exact ⟨rfl, hbs⟩

/-- Up to the first of a character two texts are told. -/
theorem append_cons_inj {c : α} (has : c ∉ as) (has' : c ∉ as')
    (h : as ++ c :: bs = as' ++ c :: bs') : as = as' ∧ bs = bs' := by
  have hne : ∀ {xs : List α}, c ∉ xs → ∀ x ∈ xs, x ≠ c := by
    rintro xs hxs x hx rfl
    exact hxs hx
  obtain ⟨hfront, hback⟩ := append_inj_of_head? (p := (· ≠ c)) (hne has) (hne has')
    (fun b hb => by simpa using hb.symm) (fun b hb => by simpa using hb.symm) h
  exact ⟨hfront, (List.cons.inj hback).2⟩

end Parts

/-! ### Codes -/

theorem toList_codeText (code : Int) : (codeText code).toList =
    if code < 0 then 'Q' :: '-' :: (padLeft 3 code.natAbs).toList
    else 'Q' :: (padLeft 4 code.natAbs).toList := by
  unfold codeText
  split <;> simp

/-- **Codes are told by their texts**: the zeros in front of a number do not count, and no digit is
a dash. -/
theorem codeText_injective : Function.Injective codeText := by
  have hdash : ∀ n w, '-' ∉ (padLeft w n).toList := fun n w h =>
    absurd (isDigit_of_mem_padLeft _ h) (by decide)
  have hvalue : ∀ {w m n}, (padLeft w m).toList = (padLeft w n).toList → m = n := by
    intro w m n h
    rw [← digitsValue_padLeft w m, h, digitsValue_padLeft]
  intro a b h
  have htext := congrArg String.toList h
  rw [toList_codeText, toList_codeText] at htext
  split at htext <;> split at htext
  · have := hvalue (List.cons.inj (List.cons.inj htext).2).2
    omega
  · exact absurd ((List.cons.inj htext).2 ▸ List.mem_cons_self) (hdash b.natAbs 4)
  · exact absurd ((List.cons.inj htext).2 ▸ List.mem_cons_self) (hdash a.natAbs 4)
  · have := hvalue (List.cons.inj htext).2
    omega

/-- The text of a code has digits and a dash, behind its letter. -/
theorem mem_codeText {code : Int} : ∀ c ∈ (codeText code).toList,
    c = 'Q' ∨ c.isDigit = true ∨ c = '-' := by
  have hdigits : ∀ w, ∀ c ∈ (padLeft w code.natAbs).toList,
      c = 'Q' ∨ c.isDigit = true ∨ c = '-' :=
    fun w c hc => .inr (.inl (isDigit_of_mem_padLeft c hc))
  rw [toList_codeText]
  split
  · exact List.forall_mem_cons.mpr ⟨.inl rfl, List.forall_mem_cons.mpr ⟨.inr (.inr rfl), hdigits 3⟩⟩
  · exact List.forall_mem_cons.mpr ⟨.inl rfl, hdigits 4⟩

theorem not_mem_codeText {c : Char} (hQ : c ≠ 'Q') (hdigit : c.isDigit = false) (hdash : c ≠ '-')
    (code : Int) : c ∉ (codeText code).toList := by
  intro h
  rcases mem_codeText c h with h | h | h
  · exact hQ h
  · rw [hdigit] at h
    cases h
  · exact hdash h

theorem not_mem_toString {c : Char} (hdigit : c.isDigit = false) (hdash : c ≠ '-') (i : Int) :
    c ∉ (toString i).toList := by
  intro h
  rcases isDigit_or_eq_of_mem_toString c h with h | h
  · rw [hdigit] at h
    cases h
  · exact hdash h

/-! ### What a line is -/

/-- Kinds of lines: that of a message, of a mark, of a note, and any other. -/
inductive LineKind where
  | message | mark | note | other
  deriving DecidableEq

/-- What a line shows to be by its first characters. -/
def kindOf (line : String) : LineKind :=
  match line.toList with
  | ' ' :: ' ' :: '-' :: _ => .mark
  | ' ' :: ' ' :: '=' :: _ => .note
  | 'i' :: 'n' :: _ | 'e' :: 'r' :: _ => .message
  | _ => .other

/-- The line of a message. -/
def messageLine (d : Diagnostic) : String :=
  d.level.word ++ "[" ++ codeText d.code ++ "]: " ++ d.message

/-- The line of a note. -/
def noteLine (note : String) : String := "  = note: " ++ note

section Lines

variable {sql : List Char} {d d' : Diagnostic} {m m' : Mark} {note note' : String}

theorem diagnosticLines_eq (sql : List Char) (d : Diagnostic) : diagnosticLines sql d =
    messageLine d :: (d.marks.map (markLine sql) ++ d.notes.map noteLine) := rfl

theorem toList_messageLine (d : Diagnostic) : (messageLine d).toList =
    d.level.word.toList ++ '[' :: ((codeText d.code).toList ++
      ']' :: ':' :: ' ' :: d.message.toList) := by
  simp [messageLine]

theorem toList_markLine (sql : List Char) (m : Mark) : (markLine sql m).toList =
    ' ' :: ' ' :: '-' :: '-' :: '>' :: ' ' :: ((toString m.span.start).toList ++
      '.' :: '.' :: ((toString m.span.stop).toList ++
        ' ' :: '\x60' :: (m.span.slice sql ++ '\x60' :: ':' :: ' ' :: m.label.toList))) := by
  simp [markLine, excerpt]

theorem toList_noteLine (note : String) : (noteLine note).toList =
    ' ' :: ' ' :: '=' :: ' ' :: 'n' :: 'o' :: 't' :: 'e' :: ':' :: ' ' :: note.toList := by
  simp [noteLine]

@[simp] theorem kindOf_messageLine (d : Diagnostic) : kindOf (messageLine d) = .message := by
  rw [kindOf, toList_messageLine]
  cases d.level <;> rfl

@[simp] theorem kindOf_markLine (sql : List Char) (m : Mark) : kindOf (markLine sql m) = .mark := by
  rw [kindOf, toList_markLine]
  rfl

@[simp] theorem kindOf_noteLine (note : String) : kindOf (noteLine note) = .note := by
  rw [kindOf, toList_noteLine]
  rfl

/-- A message is told by its line, with its level and its code. -/
theorem messageLine_inj (h : messageLine d = messageLine d') :
    d.level = d'.level ∧ d.code = d'.code ∧ d.message = d'.message := by
  have hbracket : ∀ l : Level, '[' ∉ l.word.toList := by
    intro l
    cases l <;> decide
  have hcode : ∀ code, ']' ∉ (codeText code).toList := not_mem_codeText (by decide) rfl (by decide)
  have hlevel : ∀ l l' : Level, l.word.toList = l'.word.toList → l = l' := by
    intro l l'
    cases l <;> cases l' <;> decide
  have htext := congrArg String.toList h
  rw [toList_messageLine, toList_messageLine] at htext
  obtain ⟨hword, hrest⟩ := append_cons_inj (hbracket _) (hbracket _) htext
  obtain ⟨hcodes, hrest⟩ := append_cons_inj (hcode _) (hcode _) hrest
  refine ⟨hlevel _ _ hword, codeText_injective (String.toList_injective hcodes), ?_⟩
  exact String.toList_injective (by simpa using hrest)

/-- A mark is told by its line, but for its role: its offsets name what is marked. -/
theorem markLine_inj (h : markLine sql m = markLine sql m') :
    m.span = m'.span ∧ m.label = m'.label := by
  have hpoint : ∀ i : Int, '.' ∉ (toString i).toList := not_mem_toString rfl (by decide)
  have hblank : ∀ i : Int, ' ' ∉ (toString i).toList := not_mem_toString rfl (by decide)
  have hoffset : ∀ {i j : Int}, (toString i).toList = (toString j).toList → i = j := fun h =>
    Number.toString_injective (String.toList_injective h)
  have htext := congrArg String.toList h
  rw [toList_markLine, toList_markLine] at htext
  simp only [List.cons.injEq, true_and] at htext
  obtain ⟨hstart, hrest⟩ := append_cons_inj (hpoint _) (hpoint _) htext
  obtain ⟨hstop, hrest⟩ := append_cons_inj (hblank _) (hblank _) (List.cons.inj hrest).2
  have hspan : m.span = m'.span := by
    obtain ⟨⟨start, stop⟩, role, label⟩ := m
    obtain ⟨⟨start', stop'⟩, role', label'⟩ := m'
    exact congrArg₂ Span.mk (hoffset hstart) (hoffset hstop)
  refine ⟨hspan, String.toList_injective ?_⟩
  rw [hspan] at hrest
  simpa using hrest

theorem noteLine_inj (h : noteLine note = noteLine note') : note = note' := by
  have htext := congrArg String.toList h
  rw [toList_noteLine, toList_noteLine] at htext
  exact String.toList_injective (by simpa using htext)

end Lines

/-! ### Diagnostics -/

/-- Diagnostics that look alike: they differ in the roles of their marks at most. -/
structure Diagnostic.Alike (d d' : Diagnostic) : Prop where
  level : d.level = d'.level
  code : d.code = d'.code
  message : d.message = d'.message
  marks : List.Forall₂ (fun m m' => m.span = m'.span ∧ m.label = m'.label) d.marks d'.marks
  notes : d.notes = d'.notes

/-- Lines that do not go on a diagnostic: the first one is neither that of a mark nor that of a
note. -/
def NewPart (lines : List String) : Prop :=
  ∀ line ∈ lines.head?, kindOf line ≠ .mark ∧ kindOf line ≠ .note

/-- Lines that close a report: the first one is of no kind. -/
def Closing (lines : List String) : Prop := ∀ line ∈ lines.head?, kindOf line = .other

section Diagnostics

variable {sql : List Char} {d d' : Diagnostic} {ds ds' : List Diagnostic}
  {rest rest' : List String}

theorem newPart_flatMap (ds : List Diagnostic) (h : Closing rest) :
    NewPart (ds.flatMap (diagnosticLines sql) ++ rest) := by
  cases ds with
  | nil =>
    intro line hline
    have hkind := h line hline
    simp [hkind]
  | cons d ds =>
    rintro line ⟨⟩
    have hkind := kindOf_messageLine d
    exact ⟨fun h => absurd (hkind.symm.trans h) (by decide),
      fun h => absurd (hkind.symm.trans h) (by decide)⟩

/-- **A diagnostic is told by its lines**, whatever lines stand behind them that do not go on it. -/
theorem alike_of_diagnosticLines (hrest : NewPart rest) (hrest' : NewPart rest')
    (h : diagnosticLines sql d ++ rest = diagnosticLines sql d' ++ rest') :
    d.Alike d' ∧ rest = rest' := by
  have hmarks : ∀ ms : List Mark, ∀ line ∈ ms.map (markLine sql), kindOf line = .mark := by simp
  have hnotes : ∀ ns : List String, ∀ line ∈ ns.map noteLine, kindOf line = .note := by simp
  have hbehind : ∀ {rest}, NewPart rest → ∀ ns : List String,
      ∀ line ∈ (ns.map noteLine ++ rest).head?, kindOf line ≠ .mark := by
    intro rest hrest ns line hline
    cases ns with
    | nil => exact (hrest line hline).1
    | cons note ns =>
      cases hline
      simp
  rw [diagnosticLines_eq, diagnosticLines_eq, List.cons_append, List.cons_append] at h
  obtain ⟨hmessage, hparts⟩ := List.cons.inj h
  rw [List.append_assoc, List.append_assoc] at hparts
  obtain ⟨hmark, hparts⟩ := append_inj_of_head? (p := (kindOf · = .mark)) (hmarks _) (hmarks _)
    (hbehind hrest _) (hbehind hrest' _) hparts
  obtain ⟨hnote, hparts⟩ := append_inj_of_head? (p := (kindOf · = .note)) (hnotes _) (hnotes _)
    (fun line hline => (hrest line hline).2) (fun line hline => (hrest' line hline).2) hparts
  obtain ⟨hlevel, hcode, hmessage⟩ := messageLine_inj hmessage
  refine ⟨⟨hlevel, hcode, hmessage, ?_, ?_⟩, hparts⟩
  · rw [← List.forall₂_eq_eq_eq, List.forall₂_map_left_iff, List.forall₂_map_right_iff] at hmark
    exact hmark.imp fun _ _ => markLine_inj
  · exact List.map_injective_iff.mpr (fun _ _ => noteLine_inj) hnote

/-- Diagnostics are told by their lines, up to where a report is closed. -/
theorem alike_of_flatMap (hrest : Closing rest) (hrest' : Closing rest')
    (h : ds.flatMap (diagnosticLines sql) ++ rest = ds'.flatMap (diagnosticLines sql) ++ rest') :
    List.Forall₂ Diagnostic.Alike ds ds' ∧ rest = rest' := by
  have hfirst : ∀ {rest more d}, Closing rest → rest ≠ diagnosticLines sql d ++ more := by
    rintro _ more d hrest rfl
    have hkind := hrest (messageLine d) rfl
    rw [kindOf_messageLine] at hkind
    cases hkind
  induction ds generalizing ds' with
  | nil =>
    cases ds' with
    | nil => exact ⟨.nil, h⟩
    | cons d' ds' =>
      rw [List.flatMap_cons, List.append_assoc] at h
      exact absurd h (hfirst hrest)
  | cons d ds ih =>
    cases ds' with
    | nil =>
      rw [List.flatMap_cons, List.append_assoc] at h
      exact absurd h.symm (hfirst hrest')
    | cons d' ds' =>
      rw [List.flatMap_cons, List.flatMap_cons, List.append_assoc, List.append_assoc] at h
      obtain ⟨halike, hrests⟩ :=
        alike_of_diagnosticLines (newPart_flatMap ds hrest) (newPart_flatMap ds' hrest') h
      obtain ⟨hall, hclosing⟩ := ih hrests
      exact ⟨.cons halike hall, hclosing⟩

end Diagnostics

/-! ### Classifications -/

/-- Classifications that look alike: they show one label and make the same decisions. -/
structure LooksLike (c c' : Classification) : Prop where
  label : c.label = c'.label
  hasResultSet : c.hasResultSet = c'.hasResultSet
  isSelect : c.isSelect = c'.isSelect

/-- What stands behind the diagnostics, of which there may be none. -/
def closingLines (alone : Bool) : Option Classification → List String
  | none => []
  | some c => if alone then classificationLines c else "" :: classificationLines c

section Classifications

variable {c c' : Classification} {alone : Bool} {o o' : Option Classification}

theorem lines_eq (r : Report) : r.lines = r.diagnostics.flatMap (diagnosticLines r.sql) ++
    closingLines r.diagnostics.isEmpty r.classification := by
  have hempty : (r.diagnostics.flatMap (diagnosticLines r.sql)).isEmpty =
      r.diagnostics.isEmpty := by
    cases r.diagnostics <;> rfl
  rw [lines]
  cases r.classification with
  | none => simp [closingLines]
  | some c =>
    simp only [closingLines, hempty]
    cases r.diagnostics <;> rfl

theorem closing_closingLines (alone : Bool) (o : Option Classification) :
    Closing (closingLines alone o) := by
  rcases o with _ | c
  · rintro line ⟨⟩
  · cases alone
    · rintro line ⟨⟩
      rfl
    · rintro line ⟨⟩
      simp [kindOf]

theorem looksLike_of_classificationLines (h : classificationLines c = classificationLines c') :
    LooksLike c c' := by
  have hbool : ∀ {a b : Bool}, boolText a = boolText b → a = b := by decide
  simp only [classificationLines, List.cons.injEq, String.append_right_inj, and_true] at h
  exact ⟨h.1, hbool h.2.1, hbool h.2.2⟩

theorem rel_of_closingLines (h : closingLines alone o = closingLines alone o') :
    Option.Rel LooksLike o o' := by
  rcases o with _ | c <;> rcases o' with _ | c'
  · exact .none
  · cases alone <;> cases h
  · cases alone <;> cases h
  · refine .some (looksLike_of_classificationLines ?_)
    cases alone
    · exact (List.cons.inj h).2
    · exact h

end Classifications

/-! ### Texts -/

/-- Diagnostics without line ends in their message, in their notes, and in the labels and the
stretches of their marks. -/
structure Diagnostic.Unbroken (sql : List Char) (d : Diagnostic) : Prop where
  message : '\n' ∉ d.message.toList
  labels : ∀ m ∈ d.marks, '\n' ∉ m.label.toList
  stretches : ∀ m ∈ d.marks, '\n' ∉ m.span.slice sql
  notes : ∀ note ∈ d.notes, '\n' ∉ note.toList

section Texts

variable {sql : List Char} {d : Diagnostic} {r r' : Report}

theorem newline_not_mem_diagnosticLines (h : d.Unbroken sql) :
    ∀ line ∈ diagnosticLines sql d, '\n' ∉ line.toList := by
  have hword : ∀ l : Level, '\n' ∉ l.word.toList := by
    intro l
    cases l <;> decide
  have hcode : '\n' ∉ (codeText d.code).toList := not_mem_codeText (by decide) rfl (by decide) _
  have hoffset : ∀ i : Int, '\n' ∉ i.repr.toList := not_mem_toString rfl (by decide)
  rw [diagnosticLines_eq]
  simp only [List.forall_mem_cons, List.forall_mem_append, List.forall_mem_map]
  refine ⟨?_, fun m hm => ?_, fun note hnote => ?_⟩
  · rw [toList_messageLine]
    simp [hword, hcode, h.message]
  · rw [toList_markLine]
    simp [hoffset, h.stretches m hm, h.labels m hm]
  · rw [toList_noteLine]
    simp [h.notes note hnote]

theorem newline_not_mem_closingLines (alone : Bool) (o : Option Classification) :
    ∀ line ∈ closingLines alone o, '\n' ∉ line.toList := by
  have hbool : ∀ b, '\n' ∉ (boolText b).toList := by decide
  have hlabel : ∀ c : Classification, '\n' ∉ c.label.toList := by
    intro c
    unfold Classification.label
    iterate 5
      split
      · decide
    decide
  have hlines : ∀ c, ∀ line ∈ classificationLines c, '\n' ∉ line.toList := by
    intro c
    simp [classificationLines, hbool, hlabel]
  rcases o with _ | c
  · exact fun _ h => nomatch h
  · cases alone
    · exact List.forall_mem_cons.mpr ⟨by decide, hlines c⟩
    · exact hlines c

theorem newline_not_mem_lines (h : ∀ d ∈ r.diagnostics, d.Unbroken r.sql) :
    ∀ line ∈ r.lines, '\n' ∉ line.toList := by
  rw [lines_eq, List.forall_mem_append, List.forall_mem_flatMap]
  exact ⟨fun d hd => newline_not_mem_diagnosticLines (h d hd), newline_not_mem_closingLines _ _⟩

/-- The first line of a report is not empty. -/
theorem head?_lines (r : Report) : r.lines.head? ≠ some "" := by
  intro h
  have hkind : ∀ d : Diagnostic, messageLine d ≠ "" := by
    intro d heq
    have hkind := kindOf_messageLine d
    rw [heq] at hkind
    cases hkind
  rw [lines_eq] at h
  cases hdiagnostics : r.diagnostics with
  | nil =>
    rw [hdiagnostics] at h
    cases hclassification : r.classification with
    | none => simp [hclassification, closingLines] at h
    | some c => simp [hclassification, closingLines, classificationLines] at h
  | cons d ds =>
    rw [hdiagnostics] at h
    exact hkind d (Option.some.inj h)

/-- The lines of a report are told by its text: none of them breaks, and the first one is not
empty, so that a text without any characters has no line. -/
theorem lines_eq_of_text_eq (hr : ∀ d ∈ r.diagnostics, d.Unbroken r.sql)
    (hr' : ∀ d ∈ r'.diagnostics, d.Unbroken r'.sql) (h : r.text = r'.text) :
    r.lines = r'.lines := by
  have hsplit : ∀ {r : Report}, (∀ d ∈ r.diagnostics, d.Unbroken r.sql) → r.lines ≠ [] →
      r.text.toList.splitOn '\n' = r.lines.map String.toList := by
    intro r hr hne
    rw [text, String.toList_intercalate]
    exact List.splitOn_intercalate '\n' (List.forall_mem_map.mpr (newline_not_mem_lines hr))
      (by simpa using hne)
  have hnil : ∀ {r r' : Report}, (∀ d ∈ r'.diagnostics, d.Unbroken r'.sql) → r.text = r'.text →
      r.lines = [] → r'.lines = [] := by
    intro r r' hr' h hlines
    by_contra hne
    have hlines' := hsplit hr' hne
    have htext : r.text = "" := by
      rw [text, hlines]
      rfl
    rw [← h, htext] at hlines'
    have hempty : [""] = r'.lines :=
      List.map_injective_iff.mpr (fun _ _ => String.toList_injective) hlines'
    exact head?_lines r' (by rw [← hempty]; rfl)
  by_cases hlines : r.lines = []
  · rw [hlines, hnil hr' h hlines]
  · have hlines' : r'.lines ≠ [] := fun hlines' => hlines (hnil hr h.symm hlines')
    have hsame := (hsplit hr hlines).symm.trans (h ▸ hsplit hr' hlines')
    exact List.map_injective_iff.mpr (fun _ _ => String.toList_injective) hsame

/-- **Reports on one text are told by their text**, if no line breaks within itself: they have
diagnostics that look alike, in the same order, and both have classifications that look alike, or
neither has one. -/
theorem alike_of_text_eq (hsql : r.sql = r'.sql) (hr : ∀ d ∈ r.diagnostics, d.Unbroken r.sql)
    (hr' : ∀ d ∈ r'.diagnostics, d.Unbroken r'.sql) (h : r.text = r'.text) :
    List.Forall₂ Diagnostic.Alike r.diagnostics r'.diagnostics ∧
      Option.Rel LooksLike r.classification r'.classification := by
  have hlines := lines_eq_of_text_eq hr hr' h
  rw [lines_eq, lines_eq, hsql] at hlines
  obtain ⟨halike, hclosing⟩ :=
    alike_of_flatMap (closing_closingLines _ _) (closing_closingLines _ _) hlines
  have halone : ∀ {ds ds'}, List.Forall₂ Diagnostic.Alike ds ds' → ds.isEmpty = ds'.isEmpty := by
    rintro _ _ (_ | _) <;> rfl
  rw [halone halike] at hclosing
  exact ⟨halike, rel_of_closingLines hclosing⟩

end Texts

/-- Diagnostics in which parts look like other parts: the message like that of another one, the
label and the note like the lines of marks and notes. -/
def sampleDiagnostics (role : Role) : List Diagnostic :=
  [((Diagnostic.info (-7) "info[Q0001]: ").marking role ⟨-9, 40⟩ "\x60: x").noting "  = note: ",
    .error 12345 ""]

/-- A report with such diagnostics. -/
def sampleReport (role : Role) (productions : Classify.Seen) : Report where
  sql := "EXPLAIN SELECT \x601..2\x60: a".toList
  diagnostics := sampleDiagnostics role
  blocked := true
  classification := some { hasResultSet := true, isSelect := false, productions }

/-- Roles and productions do not show in the text, and all else does. -/
theorem alike_of_text_eq_sample :
    (sampleReport .primary (· = .explainStatement)).text =
        (sampleReport .secondary (· ≠ .withClause)).text ∧
      List.Forall₂ Diagnostic.Alike (sampleReport .primary (· = .explainStatement)).diagnostics
        (sampleReport .secondary (· ≠ .withClause)).diagnostics ∧
      Option.Rel LooksLike (sampleReport .primary (· = .explainStatement)).classification
        (sampleReport .secondary (· ≠ .withClause)).classification := by
  have hunbroken : ∀ role, ∀ d ∈ sampleDiagnostics role,
      d.Unbroken "EXPLAIN SELECT \x601..2\x60: a".toList := by
    intro role
    cases role
    all_goals
      refine List.forall_mem_cons.mpr
        ⟨⟨?_, ?_, ?_, ?_⟩, List.forall_mem_singleton.mpr ⟨?_, ?_, ?_, ?_⟩⟩
      all_goals decide
  have htext : (sampleReport .primary (· = .explainStatement)).text =
      (sampleReport .secondary (· ≠ .withClause)).text := rfl
  exact ⟨htext, alike_of_text_eq rfl (hunbroken _) (hunbroken _) htext⟩

end StatementShape.Report
