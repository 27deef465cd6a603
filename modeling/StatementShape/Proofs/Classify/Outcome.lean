import Mathlib.Tactic.TFAE
import StatementShape.Proofs.Classify.Access
import StatementShape.Proofs.Statement.Runs

/-!
# Outcomes

A text comes out in one of three ways: it cannot be read, it holds several statements, or it holds
one statement that is classified. The first two block it, each with a single error. A statement that
cannot be read anywhere in a script comes before the number of its statements.

## Main definitions

* `Examined`: the ways in which a text comes out
* `IsError`: a report that is a single error under a code
* `Faithful`: a report that says what becomes of the script of a text

## Main results

* `exists_examined`: every text comes out in one of the three ways
* `faithful_examine`: every text has a report, and it is faithful
-/

namespace StatementShape.Classify

open Report (Diagnostic Role codeText)
open Sql (Reader Token Expression)
open Statement (Tree SyntaxError Cut AddsSemicolon inLine statement textOf statements)

/-! ### Levels of remarks -/

section Levels

variable {t : Tree} {c : Classification}

/-- Marking one stretch after another changes the marks alone. -/
theorem foldl_marking {α : Type} (role : Role) (span : α → Text.Span) (label : String)
    (items : List α) (d : Diagnostic) :
    items.foldl (fun d item => d.marking role (span item) label) d =
      { d with marks := d.marks ++ items.map fun item => { span := span item, role, label } } := by
  induction items generalizing d with
  | nil => simp
  | cons item items ih =>
    rw [List.foldl_cons, ih]
    simp [Diagnostic.marking]

theorem sourceInsertions_eq (branches : List Tree) :
    sourceInsertions branches =
      { level := .info, code := Report.multiInsertCode
        message := "FROM statement writes to " ++ toString branches.length ++ " insert " ++
          if branches.length = 1 then "branch" else "branches"
        marks := branches.map fun b =>
          { span := b.span, role := .secondary, label := "insert branch" }
        notes := ["no result set is produced"] } := by
  simp [sourceInsertions, foldl_marking, Diagnostic.info, Diagnostic.noting]

theorem notQuery_eq (utility : Option Tree) :
    ∃ notes, notQuery utility =
      { Diagnostic.info Report.unclassifiedCode
        "not a query statement; reported as non-result-bearing" with notes } := by
  unfold notQuery
  cases utility.bind Tree.expression with
  | none => exact ⟨[], rfl⟩
  | some e => exact ⟨_, rfl⟩

/-- Remarks are remarks: none of them is an error. -/
theorem level_of_mem_remarks {ds : List Diagnostic} (h : remarks t c = .ok ds) {d : Diagnostic}
    (hd : d ∈ ds) : d.level = .info := by
  obtain ⟨explained, hexplained, rfl⟩ := map_eq_ok.mp h
  simp only [List.append_assoc, List.mem_append, Option.mem_toList] at hd
  rcases hd with hd | hd | hd | hd
  · unfold unclassified at hd
    split at hd
    · cases hd
    · obtain ⟨notes, heq⟩ := notQuery_eq (t.nodesOf .utilityStatement).head?
      cases hd
      rw [heq]
      rfl
  · subst hd
    unfold explainedSelect at hexplained
    split at hexplained
    · split at hexplained
      · cases hexplained
        rfl
      · cases hexplained
    · cases hexplained
  · simp only [multiInsert] at hd
    split at hd
    · cases hd
    · cases hd
      rw [sourceInsertions_eq]
  · obtain ⟨statement, -, rfl⟩ := Option.map_eq_some_iff.mp hd
    rfl

end Levels

/-! ### Ways to come out -/

/-- The report on a text that is classified. -/
def classifiedAs (sql : List Char) (diagnostics : List Diagnostic) (c : Classification) : Report :=
  { sql, diagnostics, blocked := false, classification := some c }

@[simp] theorem sql_classifiedAs (sql : List Char) (ds : List Diagnostic) (c : Classification) :
    (classifiedAs sql ds c).sql = sql := rfl

@[simp] theorem diagnostics_classifiedAs (sql : List Char) (ds : List Diagnostic)
    (c : Classification) : (classifiedAs sql ds c).diagnostics = ds := rfl

@[simp] theorem codes_classifiedAs (sql : List Char) (ds : List Diagnostic) (c : Classification) :
    (classifiedAs sql ds c).codes = ds.map fun d => codeText d.code := rfl

/-- The ways in which a text comes out. -/
inductive Examined (r : Reader) (sql : List Char) : Report → Prop
  | unreadable {e : SyntaxError} (h : Statement.script r sql = .error e) :
      Examined r sql (blockedBy sql (syntaxDiagnostic e))
  | several {tree first second : Tree} {more : List Tree}
      (h : Statement.script r sql = .ok tree) (hs : tree.children = first :: second :: more) :
      Examined r sql (blockedBy sql (severalStatements tree.children.length second))
  | single {tree stmt : Tree} {remarks : List Diagnostic} (h : Statement.script r sql = .ok tree)
      (hs : tree.children = [stmt])
      (hremarks : Classify.remarks tree (Classification.ofTree tree) = .ok remarks) :
      Examined r sql (classifiedAs sql remarks (Classification.ofTree tree))

/-- **Every text comes out** in one of these ways. -/
theorem exists_examined (r : Reader) (text : List Char) :
    ∃ report, examine r text = .ok report ∧ Examined r (Text.strip text) report := by
  cases h : Statement.script r (Text.strip text) with
  | error e => exact ⟨_, by simp only [examine, h], .unreadable h⟩
  | ok tree =>
    obtain ⟨tokens, parts, -, some, -, htree⟩ := Statement.script_eq_ok.mp h
    obtain ⟨first, more, rfl⟩ := List.exists_cons_of_ne_nil some
    have hs : tree.children = first :: more := by rw [htree, Tree.children_node]
    cases more with
    | cons second more =>
      exact ⟨_, by simp only [examine, h, multipleStatements, hs], .several h hs⟩
    | nil =>
      obtain ⟨ds, -, hds⟩ := Careful.remarks_eq tree
      -- no remark blocks, so the flag that is computed from them is the one of this way
      have hblocked : ds.any (·.isBlocking) = false := by
        rw [List.any_eq_false]
        intro d hd
        simp [Diagnostic.isBlocking, level_of_mem_remarks hds hd]
      refine ⟨_, ?_, .single h hs hds⟩
      simp only [examine, h, multipleStatements, hs, hds, Except.map, hblocked, classifiedAs]

/-! ### What a report says -/

/-- A report that is a single error under a code. -/
def IsError (report : Report) (code : String) : Prop :=
  ∃ d, report.diagnostics = [d] ∧ d.level = .error ∧ codeText d.code = code

/-- A report that is faithful to a text: it is on the text without the blanks around it; it is
blocked exactly by a single error, and is a classification otherwise; the error tells whether the
script cannot be read, or holds several statements of which each can be read, and where the second
of them stands. -/
structure Faithful (r : Reader) (text : List Char) (report : Report) : Prop where
  sql_eq : report.sql = Text.strip text
  blocked_tfae : [report.blocked = true, report.classification = none,
    ∃ d ∈ report.diagnostics, d.level = .error,
    ∃ d, report.diagnostics = [d] ∧ d.level = .error].TFAE
  unreadable_iff : IsError report "Q0001" ↔ ∃ e, Statement.script r report.sql = .error e
  several_iff : IsError report "Q0101" ↔ ∃ tokens runs,
    r.tokens report.sql = some tokens ∧ Cut tokens runs ∧ 2 ≤ runs.length ∧
      ∀ run ∈ runs, ∃ t, statement r report.sql run = .ok t
  second_eq : IsError report "Q0101" → ∀ tokens runs,
    r.tokens report.sql = some tokens → Cut tokens runs →
      ∃ d second t, report.diagnostics = [d] ∧ runs[1]? = some second ∧
        statement r report.sql second = .ok t ∧ d.marks.map (·.span) = [t.span] ∧
        t.span.slice report.sql = t.text ∧ t.text = textOf report.sql second ∧
        d.message = "multiple statements detected (" ++ toString runs.length ++ ")"
  classified : ¬ IsError report "Q0001" → ¬ IsError report "Q0101" →
    ∃ c, classify r report.sql = .ok c ∧ report.classification = some c

section Faithful

variable {r : Reader} {sql text : List Char} {report : Report}

theorem isError_blockedBy {d : Diagnostic} (hd : d.level = .error) {code : String} :
    IsError (blockedBy sql d) code ↔ codeText d.code = code := by
  constructor
  · rintro ⟨d', hd', -, hcode⟩
    obtain rfl : d = d' := (List.cons.inj hd').1
    exact hcode
  · intro hcode
    exact ⟨d, rfl, hd, hcode⟩

/-- A report blocked by an error has it alone, and no classification. -/
theorem blockedBy_tfae {d : Diagnostic} (hd : d.level = .error) :
    [(blockedBy sql d).blocked = true, (blockedBy sql d).classification = none,
      ∃ e ∈ (blockedBy sql d).diagnostics, e.level = .error,
      ∃ e, (blockedBy sql d).diagnostics = [e] ∧ e.level = .error].TFAE := by
  have mem : ∃ e ∈ [d], e.level = .error := ⟨d, List.mem_singleton_self d, hd⟩
  have single : ∃ e, [d] = [e] ∧ e.level = .error := ⟨d, rfl, hd⟩
  refine List.tfae_of_forall True _ ?_
  simp only [List.mem_cons, List.not_mem_nil, or_false, iff_true]
  rintro p (rfl | rfl | rfl | rfl)
  exacts [rfl, rfl, mem, single]

/-- A report with remarks alone is not blocked, and a classification. -/
theorem classifiedAs_tfae {ds : List Diagnostic} {c : Classification}
    (hinfo : ∀ d ∈ ds, d.level ≠ .error) :
    [(classifiedAs sql ds c).blocked = true, (classifiedAs sql ds c).classification = none,
      ∃ e ∈ (classifiedAs sql ds c).diagnostics, e.level = .error,
      ∃ e, (classifiedAs sql ds c).diagnostics = [e] ∧ e.level = .error].TFAE := by
  have mem : ¬ ∃ e ∈ ds, e.level = .error := fun ⟨e, he, hlevel⟩ => hinfo e he hlevel
  have single : ¬ ∃ e, ds = [e] ∧ e.level = .error := by
    rintro ⟨e, rfl, hlevel⟩
    exact hinfo e (List.mem_singleton_self e) hlevel
  refine List.tfae_of_forall False _ ?_
  simp only [List.mem_cons, List.not_mem_nil, or_false, iff_false]
  rintro p (rfl | rfl | rfl | rfl)
  exacts [Bool.false_ne_true, Option.some_ne_none c, mem, single]

/-- Several statements that can all be read are those of a script with a second part. -/
theorem several_iff :
    (∃ tree, Statement.script r sql = .ok tree ∧ 2 ≤ tree.children.length) ↔ ∃ tokens runs,
      r.tokens sql = some tokens ∧ Cut tokens runs ∧ 2 ≤ runs.length ∧
        ∀ run ∈ runs, ∃ t, statement r sql run = .ok t := by
  constructor
  · rintro ⟨tree, h, htwo⟩
    obtain ⟨tokens, parts, htokens, -, hparts, rfl⟩ := Statement.script_eq_ok.mp h
    refine ⟨tokens, statements tokens, htokens, Statement.cut_statements tokens, ?_, ?_⟩
    · rwa [hparts.length_eq]
    · intro run hrun
      obtain ⟨i, hi, rfl⟩ := List.getElem_of_mem hrun
      exact ⟨_, hparts.get hi (hparts.length_eq ▸ hi)⟩
  · rintro ⟨tokens, runs, htokens, cut, htwo, hall⟩
    obtain ⟨tree, h⟩ := Statement.exists_script htokens cut (by rintro rfl; simp at htwo) hall
    exact ⟨tree, h, by rwa [← (Statement.children_of_script h htokens cut).length_eq]⟩

theorem faithful_of_unreadable {e : SyntaxError}
    (h : Statement.script r (Text.strip text) = .error e) :
    Faithful r text (blockedBy (Text.strip text) (syntaxDiagnostic e)) := by
  have hlevel : (syntaxDiagnostic e).level = .error := rfl
  have hcode : (syntaxDiagnostic e).code = Report.syntaxErrorCode := rfl
  have hone : ¬ IsError (blockedBy (Text.strip text) (syntaxDiagnostic e)) "Q0101" := by
    rw [isError_blockedBy hlevel, hcode]
    decide
  refine ⟨rfl, blockedBy_tfae hlevel, ?_, ?_, ?_, ?_⟩
  · rw [isError_blockedBy hlevel, hcode]
    exact iff_of_true (by decide) ⟨e, h⟩
  · refine iff_of_false hone fun hruns => ?_
    obtain ⟨tree, htree, -⟩ := several_iff.mpr hruns
    cases h.symm.trans htree
  · exact fun hseveral => absurd hseveral hone
  · rw [isError_blockedBy hlevel, hcode]
    exact fun hreadable => absurd (by decide) hreadable

theorem faithful_of_several {tree first second : Tree} {more : List Tree}
    (h : Statement.script r (Text.strip text) = .ok tree)
    (hs : tree.children = first :: second :: more) :
    Faithful r text
      (blockedBy (Text.strip text) (severalStatements tree.children.length second)) := by
  have hlevel : (severalStatements tree.children.length second).level = .error := rfl
  have hcode : (severalStatements tree.children.length second).code =
    Report.multipleStatementsCode := rfl
  have hone : IsError (blockedBy (Text.strip text)
      (severalStatements tree.children.length second)) "Q0101" := by
    rw [isError_blockedBy hlevel, hcode]
    decide
  refine ⟨rfl, blockedBy_tfae hlevel, ?_, ?_, ?_, ?_⟩
  · rw [isError_blockedBy hlevel, hcode]
    refine iff_of_false (by decide) ?_
    rintro ⟨e, he⟩
    cases h.symm.trans he
  · refine iff_of_true hone (several_iff.mp ⟨tree, h, ?_⟩)
    rw [hs]
    simp
  · intro _ tokens runs htokens cut
    have hparts := Statement.children_of_script h htokens cut
    have hlength := hparts.length_eq
    rw [hs] at hparts
    obtain ⟨run, behind, -, hbehind, rfl⟩ := List.forall₂_cons_right_iff.mp hparts
    obtain ⟨run', rest, hsecond, -, rfl⟩ := List.forall₂_cons_right_iff.mp hbehind
    refine ⟨_, run', second, rfl, rfl, hsecond, rfl, Statement.slice_of_statement hsecond,
      (Statement.span_of_statement hsecond).2, ?_⟩
    rw [hlength]
    rfl
  · exact fun _ hsingle => absurd hone hsingle

theorem faithful_of_single {tree stmt : Tree} {ds : List Diagnostic}
    (h : Statement.script r (Text.strip text) = .ok tree) (hs : tree.children = [stmt])
    (hds : remarks tree (Classification.ofTree tree) = .ok ds) :
    Faithful r text (classifiedAs (Text.strip text) ds (Classification.ofTree tree)) := by
  have hinfo : ∀ d ∈ ds, d.level ≠ .error := by
    intro d hd
    rw [level_of_mem_remarks hds hd]
    decide
  have hnever : ∀ code, ¬ IsError
      (classifiedAs (Text.strip text) ds (Classification.ofTree tree)) code := by
    rintro code ⟨d, hd, hlevel, -⟩
    obtain rfl : ds = [d] := hd
    exact hinfo d (List.mem_singleton_self d) hlevel
  refine ⟨rfl, classifiedAs_tfae hinfo, ?_, ?_, ?_, ?_⟩
  · refine iff_of_false (hnever _) ?_
    rintro ⟨e, he⟩
    cases h.symm.trans he
  · refine iff_of_false (hnever _) fun hruns => ?_
    obtain ⟨tree', h', htwo⟩ := several_iff.mpr hruns
    obtain rfl : tree = tree' := Except.ok.inj (h.symm.trans h')
    rw [hs] at htwo
    simp at htwo
  · exact fun hseveral => absurd hseveral (hnever _)
  · exact fun _ _ => ⟨Classification.ofTree tree, map_eq_ok.mpr ⟨tree, h, rfl⟩, rfl⟩

/-- Every way to come out is reported faithfully. -/
theorem faithful_of_examined (h : Examined r (Text.strip text) report) :
    Faithful r text report := by
  cases h with
  | unreadable h => exact faithful_of_unreadable h
  | several h hs => exact faithful_of_several h hs
  | single h hs hremarks => exact faithful_of_single h hs hremarks

/-- **Every text has a report**, and it is faithful. The statements that are read from some tokens
are the same ones with more semicolons at either end, or next to another one. -/
theorem faithful_examine (r : Reader) (text : List Char) :
    (∃ report, examine r text = .ok report ∧ Faithful r text report) ∧
      ∀ tokens tokens', Relation.ReflTransGen AddsSemicolon tokens tokens' →
        (statements tokens').mapM (statement r text) =
          (statements tokens).mapM (statement r text) := by
  refine ⟨?_, ?_⟩
  · obtain ⟨report, hreport, hexamined⟩ := exists_examined r text
    exact ⟨report, hreport, faithful_of_examined hexamined⟩
  · intro tokens tokens' h
    rw [Statement.statements_of_addsSemicolons h]

end Faithful

/-! ### A sample language -/

/-- The tokens of a removal of a table. -/
def sampleRemoval : List Token :=
  [inLine .drop "DROP" 1 5, inLine .table "TABLE" 6 11, inLine .var "t" 12 13]

/-- The tokens of two removals of tables, and of insertions from an explained source. -/
def sampleTokens : List (List Char × List Token) := [
  (";DROP TABLE t;;DROP TABLE u".toList,
    inLine .semicolon ";" 0 1 :: sampleRemoval ++
      [inLine .semicolon ";" 13 14, inLine .semicolon ";" 14 15, inLine .drop "DROP" 15 19,
        inLine .table "TABLE" 20 25, inLine .var "u" 26 27]),
  ("EXPLAIN FROM t INSERT INTO a SELECT 1 INSERT INTO b SELECT 2".toList,
    [inLine .command "EXPLAIN" 0 7,
      inLine .string "FROM t INSERT INTO a SELECT 1 INSERT INTO b SELECT 2" 7 60]),
  (" FROM t INSERT INTO a SELECT 1 INSERT INTO b SELECT 2".toList,
    [inLine .from_ "FROM" 1 5, inLine .var "t" 6 7, inLine .insert "INSERT" 8 14,
      inLine .into "INTO" 15 19, inLine .var "a" 20 21, inLine .select "SELECT" 22 28,
      inLine .number "1" 29 30, inLine .insert "INSERT" 31 37, inLine .into "INTO" 38 42,
      inLine .var "b" 43 44, inLine .select "SELECT" 45 51, inLine .number "2" 52 53])]

/-- The fragments that are read for them. -/
def sampleStatements : List (List Char × List Expression) := [
  ("DROP TABLE t".toList, [.node .drop [.node .table [.node .identifier []]]]),
  ("DROP TABLE u".toList, [.node .drop [.node .table [.node .identifier []]]]),
  ("SELECT * FROM t".toList,
    [.node .select [.node .star [], .node .from_ [.node .table [.node .identifier []]]]]),
  ("INSERT INTO a SELECT 1".toList,
    [.node .insert [.node .table [.node .identifier []], .node .select [.node .literal []]]]),
  ("INSERT INTO b SELECT 2".toList,
    [.node .insert [.node .table [.node .identifier []], .node .select [.node .literal []]]])]

/-- A sample language, which cuts these texts into tokens and reads them as the standard one
does, and refuses all others. -/
def sampleReader : Reader where
  tokens text := sampleTokens.lookup text
  statements text := sampleStatements.lookup text

/-- Two removals of tables are several statements, and a semicolon in front of the first one
makes no difference. -/
theorem faithful_examine_removals :
    ∃ report, examine sampleReader ";DROP TABLE t;;DROP TABLE u".toList = .ok report ∧
      IsError report "Q0101" ∧ report.classification = none ∧
      (statements (inLine .semicolon ";" 0 1 :: sampleRemoval)).mapM
          (statement sampleReader ";DROP TABLE t;;DROP TABLE u".toList) =
        (statements sampleRemoval).mapM
          (statement sampleReader ";DROP TABLE t;;DROP TABLE u".toList) := by
  obtain ⟨⟨report, h, faithful⟩, semicolons⟩ :=
    faithful_examine sampleReader ";DROP TABLE t;;DROP TABLE u".toList
  have hsql : report.sql = ";DROP TABLE t;;DROP TABLE u".toList :=
    faithful.sql_eq.trans (by decide +kernel)
  obtain ⟨tree, htree, htwo⟩ := exists_of_toOption_any
    (x := Statement.script sampleReader ";DROP TABLE t;;DROP TABLE u".toList)
    (p := fun tree => decide (2 ≤ tree.children.length)) (by decide +kernel)
  rw [← hsql] at htree
  have hseveral : IsError report "Q0101" :=
    faithful.several_iff.mpr (several_iff.mp ⟨tree, htree, of_decide_eq_true htwo⟩)
  have ⟨d, hd, hlevel, _⟩ := hseveral
  have hnone : report.classification = none := by
    refine (faithful.blocked_tfae.out 3 1).mp ?_
    exact ⟨d, hd, hlevel⟩
  exact ⟨report, h, hseveral, hnone, semicolons _ _ (.single (.front rfl))⟩

end StatementShape.Classify
