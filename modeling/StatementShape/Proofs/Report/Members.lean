import StatementShape.Proofs.Json.Print
import StatementShape.Proofs.Report.Lines

/-!
# Reports for tools are read back

A report for tools is a text in ASCII. Whoever decodes it gets an object that tells what the report
holds, under the names of its parts and no others: the text, whether it is blocked, each diagnostic
but for its marks, and the classification where there is one. Two reports told by one object differ
in the marks of their diagnostics at most.

## Main definitions

* `Json.names?`: the names of an object's members
* `Diagnostic.Told`, `ClassificationTold`, `Report.Told`: the objects that tell a diagnostic, a
  classification and a report
* `Diagnostic.unmarked`: a diagnostic without its marks

## Main results

* `sorted_names`, `mem_names`: the productions are named in ascending order, each one once
* `Report.Told.unique`: an object tells one report, but for marks
* `told_of_decode_render`: what a report for tools is decoded to
-/

namespace StatementShape

namespace Json

/-- The names of an object's members, in order. -/
def names? : Json → Option (List String)
  | object members => some (members.map fun m => String.ofList m.1)
  | _ => none

theorem names?_record (members : List (String × Json)) :
    (record members).names? = some (members.map Prod.fst) := by
  simp [record, names?]

theorem text_injective : Function.Injective text := fun _ _ h =>
  String.toList_injective (string.inj h)

end Json

/-! ### Names of productions -/

namespace Classify.Classification

variable {s s' : Seen}

/-- **The names of productions** ascend, so that none stands twice. -/
theorem sorted_names (s : Seen) : (names s).Pairwise (· < ·) :=
  alphabetical_sorted.sublist (List.filter_sublist.map _)

/-- **The names of productions** are those of the recorded ones. -/
theorem mem_names {name : String} : name ∈ names s ↔ ∃ p, s p = true ∧ p.name = name := by
  simp [names, mem_alphabetical]

end Classify.Classification

namespace Report

open Classify (Classification)
open Json (decode_print get?_record names?_record shows_of_mem_print text_injective)

/-! ### Objects -/

/-- An object that tells a diagnostic: its level, code, message and notes. -/
structure Diagnostic.Told (d : Diagnostic) (v : Json) : Prop where
  names : v.names? = some ["level", "code", "message", "notes"]
  level : v.get? "level" = some (.text d.level.word)
  code : v.get? "code" = some (.text (codeText d.code))
  message : v.get? "message" = some (.text d.message)
  notes : v.get? "notes" = some (.array (d.notes.map .text))

/-- An object that tells a classification: its label and decisions, and the names of its
productions in ascending order, none of them twice. -/
structure ClassificationTold (c : Classification) (v : Json) : Prop where
  label : v.get? "classification" = some (.text c.label)
  hasResultSet : v.get? "has_result_set" = some (.bool c.hasResultSet)
  isSelect : v.get? "is_select" = some (.bool c.isSelect)
  productions : ∃ names : List String, v.get? "productions" = some (.array (names.map .text)) ∧
    names.Pairwise (· < ·) ∧ ∀ name, name ∈ names ↔ ∃ p, c.productions p = true ∧ p.name = name

/-- An object that tells a report: its text, whether it is blocked, its diagnostics in order,
and its classification exactly if it has one. -/
structure Told (r : Report) (v : Json) : Prop where
  names : v.names? = some (["sql", "blocked", "diagnostics"] ++
    if r.classification.isSome then
      ["classification", "has_result_set", "is_select", "productions"]
    else [])
  sql : v.get? "sql" = some (.string r.sql)
  blocked : v.get? "blocked" = some (.bool r.blocked)
  diagnostics : ∃ items, v.get? "diagnostics" = some (.array items) ∧
    List.Forall₂ Diagnostic.Told r.diagnostics items
  classification : ∀ c, r.classification = some c → ClassificationTold c v

theorem told_diagnosticJson (d : Diagnostic) : d.Told (diagnosticJson d) where
  names := names?_record _
  level := get?_record _ _
  code := get?_record _ _
  message := get?_record _ _
  notes := get?_record _ _

theorem forall₂_told (ds : List Diagnostic) :
    List.Forall₂ Diagnostic.Told ds (ds.map diagnosticJson) :=
  List.forall₂_map_right_iff.mpr (List.forall₂_same.mpr fun d _ => told_diagnosticJson d)

/-- A report is told by its object. -/
theorem told_json (r : Report) : r.Told r.json where
  names := by
    rw [json, names?_record]
    cases r.classification <;> rfl
  sql := get?_record _ _
  blocked := get?_record _ _
  diagnostics := ⟨_, get?_record _ _, forall₂_told _⟩
  classification := by
    intro c hc
    have hget : ∀ key, r.json.get? key = List.lookup key ([("sql", .string r.sql),
        ("blocked", .bool r.blocked), ("diagnostics", .array (r.diagnostics.map diagnosticJson))] ++
          classificationMembers c) := by
      intro key
      rw [json, get?_record, hc]
      rfl
    exact
      { label := hget "classification"
        hasResultSet := hget "has_result_set"
        isSelect := hget "is_select"
        productions := ⟨Classification.names c.productions, hget "productions",
          Classification.sorted_names _, fun _ => Classification.mem_names⟩ }

/-! ### What an object tells -/

/-- A diagnostic without its marks. -/
def Diagnostic.unmarked (d : Diagnostic) : Diagnostic := { d with marks := [] }

section Told

variable {r r' : Report} {d d' : Diagnostic} {ds ds' : List Diagnostic} {c c' : Classification}
  {v : Json} {items : List Json} {s t : String}

theorem text_inj (h : v.get? s = some (.text t)) {t' : String}
    (h' : v.get? s = some (.text t')) : t = t' :=
  text_injective (Option.some.inj (h.symm.trans h'))

theorem array_inj {items' : List Json} (h : v.get? s = some (.array items))
    (h' : v.get? s = some (.array items')) : items = items' :=
  Json.array.inj (Option.some.inj (h.symm.trans h'))

theorem bool_inj {a b : Bool} (h : v.get? s = some (.bool a)) (h' : v.get? s = some (.bool b)) :
    a = b :=
  Json.bool.inj (Option.some.inj (h.symm.trans h'))

/-- **An object tells one diagnostic**, but for its marks. -/
theorem Diagnostic.Told.unique (h : d.Told v) (h' : d'.Told v) : d.unmarked = d'.unmarked := by
  have hword : ∀ {l l' : Level}, l.word = l'.word → l = l' := by
    rintro (_ | _) (_ | _) <;> decide
  obtain ⟨level, code, message, marks, notes⟩ := d
  obtain ⟨level', code', message', marks', notes'⟩ := d'
  obtain rfl : level = level' := hword (text_inj h.level h'.level)
  obtain rfl : code = code' := codeText_injective (text_inj h.code h'.code)
  obtain rfl : message = message' := text_inj h.message h'.message
  obtain rfl : notes = notes' :=
    List.map_injective_iff.mpr text_injective (array_inj h.notes h'.notes)
  rfl

theorem map_unmarked_of_told (h : List.Forall₂ Diagnostic.Told ds items)
    (h' : List.Forall₂ Diagnostic.Told ds' items) :
    ds.map Diagnostic.unmarked = ds'.map Diagnostic.unmarked := by
  induction h generalizing ds' with
  | nil =>
    cases h'
    rfl
  | cons hd _ ih =>
    cases h' with
    | cons hd' hds' => rw [List.map_cons, List.map_cons, hd.unique hd', ih hds']

/-- **An object tells one classification**, with all its productions. -/
theorem ClassificationTold.unique (h : ClassificationTold c v) (h' : ClassificationTold c' v) :
    c = c' := by
  obtain ⟨names, hnames, -, hmem⟩ := h.productions
  obtain ⟨names', hnames', -, hmem'⟩ := h'.productions
  have hsame : names = names' :=
    List.map_injective_iff.mpr text_injective (array_inj hnames hnames')
  have hproductions : ∀ p, c.productions p = true ↔ c'.productions p = true := by
    have hname : ∀ {c : Classification} {names : List String},
        (∀ name, name ∈ names ↔ ∃ p, c.productions p = true ∧ p.name = name) →
        ∀ p, p.name ∈ names ↔ c.productions p = true := by
      intro c names hmem p
      rw [hmem]
      constructor
      · rintro ⟨q, hq, hqp⟩
        exact Statement.Production.name_injective hqp ▸ hq
      · exact fun hp => ⟨p, hp, rfl⟩
    intro p
    rw [← hname hmem, hsame, hname hmem']
  obtain ⟨hasResultSet, isSelect, productions⟩ := c
  obtain ⟨hasResultSet', isSelect', productions'⟩ := c'
  obtain rfl : hasResultSet = hasResultSet' := bool_inj h.hasResultSet h'.hasResultSet
  obtain rfl : isSelect = isSelect' := bool_inj h.isSelect h'.isSelect
  obtain rfl : productions = productions' :=
    funext fun p => Bool.eq_iff_iff.mpr (hproductions p)
  rfl

/-- **An object tells one report**, but for the marks of its diagnostics. -/
theorem Told.unique (h : r.Told v) (h' : r'.Told v) :
    r.sql = r'.sql ∧ r.blocked = r'.blocked ∧
      r.diagnostics.map Diagnostic.unmarked = r'.diagnostics.map Diagnostic.unmarked ∧
      r.classification = r'.classification := by
  obtain ⟨items, hitems, hds⟩ := h.diagnostics
  obtain ⟨items', hitems', hds'⟩ := h'.diagnostics
  refine ⟨Json.string.inj (Option.some.inj (h.sql.symm.trans h'.sql)),
    bool_inj h.blocked h'.blocked, ?_, ?_⟩
  · exact map_unmarked_of_told hds (array_inj hitems hitems' ▸ hds')
  · have hnames := Option.some.inj (h.names.symm.trans h'.names)
    cases hc : r.classification with
    | none =>
      cases hc' : r'.classification with
      | none => rfl
      | some c' => simp [hc, hc'] at hnames
    | some c =>
      cases hc' : r'.classification with
      | none => simp [hc, hc'] at hnames
      | some c' => rw [(h.classification c hc).unique (h'.classification c' hc')]

end Told

/-! ### Decoded reports -/

theorem isAscii_of_mem_render (r : Report) : ∀ c ∈ (r.render .json).toList, c.toNat < 0x80 := by
  rw [render, String.toList_ofList]
  intro c hc
  rcases shows_of_mem_print 0 r.json c hc with ⟨-, hlast⟩ | ⟨rfl, -⟩
  · have hlast : c.toNat ≤ '~'.toNat := hlast
    exact Nat.lt_of_le_of_lt hlast (by decide)
  · decide

/-- **A report for tools** is a text in ASCII, and is decoded to an object that tells the report and
no other one, but for the marks of its diagnostics. -/
theorem told_of_decode_render (r : Report) :
    (∀ c ∈ (r.render .json).toList, c.toNat < 0x80) ∧
    ∃ v, Json.decode (r.render .json).toList = some v ∧ r.Told v ∧
      ∀ r' : Report, r'.Told v → r'.sql = r.sql ∧ r'.blocked = r.blocked ∧
        r'.diagnostics.map Diagnostic.unmarked = r.diagnostics.map Diagnostic.unmarked ∧
        r'.classification = r.classification := by
  refine ⟨isAscii_of_mem_render r, r.json, ?_, told_json r, fun r' h => h.unique (told_json r)⟩
  rw [render, String.toList_ofList, Json.pretty, decode_print]

/-- Characters beyond the first plane are written as pairs, and an empty list on one line. -/
example : Report.render .json { sql := "\"😀".toList, diagnostics := [], blocked := true } =
    "\x7b\n  \"sql\": \"\\\"\\ud83d\\ude00\",\n" ++
      "  \"blocked\": true,\n  \"diagnostics\": []\n\x7d" := by
  decide +kernel

end Report

end StatementShape
