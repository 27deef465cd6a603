import Mathlib.Data.List.DropRight
import StatementShape.Proofs.CommandLine.Classify
import StatementShape.Proofs.Config.Written

/-!
# Texts on standard input

A text to classify is a word of the command line, or stands on standard input. On standard input its
line ends are made plain and the blanks around it are removed before anything else is looked at; a
word is taken as it is. But every text is examined without the blanks around it, and what is printed
and logged is made from the report alone. So if two texts differ in nothing but those blanks, then a
run with the one as a word and a run with the other on standard input are the same run, with the
same options behind, and also where it is blocked, refused or breaks off.

## Main definitions

* `Choice`: the other options, with their arguments

## Main results

* `strip_strip`: a text that has been stripped has no blanks around it
* `read_choices`: the arguments for choices are read as their options
* `perform_fromInput`: both requests are carried out in the same way
* `run_fromInput`: both runs are the same
-/

namespace StatementShape

/-! ### Blanks around a text -/

namespace Text

/-- **A text that has been stripped** has no blanks around it. -/
theorem strip_strip (cs : List Char) : strip (strip cs) = strip cs := by
  -- what is left begins as it did before the blanks at the end were removed
  have hfront : (strip cs).dropWhile isBlank = strip cs := by
    rw [List.dropWhile_eq_self_iff]
    intro hlen
    have hbegins : strip cs <+: cs.dropWhile isBlank := List.rdropWhile_prefix isBlank _
    rw [hbegins.getElem hlen]
    exact List.dropWhile_get_zero_not isBlank cs (hlen.trans_le hbegins.length_le)
  calc strip (strip cs)
      = dropEndWhile isBlank ((strip cs).dropWhile isBlank) := rfl
    _ = dropEndWhile isBlank (strip cs) := by rw [hfront]
    _ = strip cs := List.rdropWhile_idempotent isBlank _

end Text

namespace CommandLine

open Config (plainLines_of_not_mem)
open Report (Format)

/-! ### The other options -/

/-- Choices of the other options of `classify`. A value is `joined` to its option, or is the
next argument. -/
inductive Choice where
  | dialect (name : List Char) (joined : Bool)
  | format (name : List Char) (joined : Bool)
  | noLog
  | help
  deriving DecidableEq, Repr

/-- The arguments for an option with a value. -/
def spelled (name : String) (value : List Char) (joined : Bool) : List (List Char) :=
  if joined then [name.toList ++ '=' :: value] else [name.toList, value]

namespace Choice

/-- The arguments for a choice. -/
def arguments : Choice → List (List Char)
  | dialect name joined => spelled "--dialect" name joined
  | format name joined => spelled "--format" name joined
  | noLog => ["--no-log".toList]
  | help => ["--help".toList]

/-- The option that is chosen, with its value. -/
def option : Choice → String × List Char
  | dialect name _ => ("--dialect", name)
  | format name _ => ("--format", name)
  | noLog => ("--no-log", [])
  | help => ("--help", [])

theorem option_ne (c : Choice) : c.option.1 ≠ "--from-stdin" := by
  cases c <;> simp [option]

end Choice

/-- The arguments for a choice are read as its option. -/
theorem read_arguments (c : Choice) (rest : List (List Char)) :
    Arguments.read Command.classify.rules true (c.arguments ++ rest) =
      (Arguments.read Command.classify.rules true rest).map
        (Arguments.withOption c.option.1 c.option.2) := by
  cases c with
  | dialect name joined => cases joined <;> rfl
  | format name joined => cases joined <;> rfl
  | noLog => rfl
  | help => rfl

/-- **The arguments for choices** are read as their options. -/
theorem read_choices (choices : List Choice) :
    Arguments.read Command.classify.rules true (choices.flatMap Choice.arguments) =
      .ok { options := choices.map Choice.option } := by
  induction choices with
  | nil => rfl
  | cons c choices ih =>
    rw [List.flatMap_cons, read_arguments, ih]
    rfl

/-! ### Both command lines -/

/-- What options ask for, with a text from some source: help, or that the text be classified. -/
def asks (word : Option (List Char)) (fromInput : Bool) (a : Arguments) : Reading :=
  (Reading.early? .classify a).getD
    (match Reading.formatOf a with
    | .error e => .refused .classify e
    | .ok format =>
      .request (.classify word fromInput (a.value? "--dialect") format (a.has "--no-log")))

section Readings

variable {word : Option (List Char)} {sql : List Char} {a : Arguments}

/-- The option for standard input takes nothing away from what the others ask for. -/
theorem asks_withOption (fromInput : Bool) :
    asks word fromInput (a.withOption "--from-stdin" []) = asks word fromInput a := by
  have hvalue {name : String} (hname : name ≠ "--from-stdin") :
      (a.withOption "--from-stdin" []).value? name = a.value? name := by
    have hlookup : List.lookup name [("--from-stdin", ([] : List Char))] = none := by
      rw [List.lookup_cons, beq_false_of_ne hname]
      rfl
    rw [Arguments.value?, Arguments.withOption, List.reverse_cons, List.lookup_append, hlookup,
      Option.or_none]
    rfl
  have hformat : Reading.formatOf (a.withOption "--from-stdin" []) = Reading.formatOf a := by
    rw [Reading.formatOf, hvalue (by decide)]
    rfl
  rw [asks, hformat, hvalue (by decide)]
  rfl

/-- Options with at most one word ask for that word, or for the text on standard input. -/
theorem classify_of_read {args : List (List Char)}
    (hread : Arguments.read Command.classify.rules true args = .ok a)
    (hwords : a.words.length ≤ 1) :
    Reading.classify args = asks a.words.head? (a.has "--from-stdin") a := by
  simp only [Reading.classify, Reading.within, hread, asks]
  congr 1
  cases Reading.formatOf a with
  | error e => rfl
  | ok format =>
    cases hw : a.words with
    | nil => rfl
    | cons w more =>
      cases more with
      | nil => rfl
      | cons => simp [hw] at hwords

/-- A word that does not begin with a dash is read as a word. -/
theorem read_word (hdash : sql.head? ≠ some '-') (rest : List (List Char)) :
    Arguments.read Command.classify.rules true (sql :: rest) =
      (Arguments.read Command.classify.rules true rest).map (Arguments.withWord sql) := by
  have hends : sql ≠ ['-', '-'] := by
    rintro rfl
    exact hdash rfl
  have hoption : Arguments.isOption sql = false := by
    unfold Arguments.isOption
    split
    · exact absurd rfl hdash
    · rfl
  rw [Arguments.read, if_neg hends, if_neg (by simp [hoption]), if_pos rfl]

theorem ofArguments_classify (args : List (List Char)) :
    Reading.ofArguments ("classify".toList :: args) = Reading.classify args := rfl

/-- A command line that names standard input asks for the text there. -/
theorem ofArguments_fromInput (choices : List Choice) :
    Reading.ofArguments ("classify".toList :: "--from-stdin".toList ::
        choices.flatMap Choice.arguments) =
      asks none true { options := choices.map Choice.option } := by
  have hread : Arguments.read Command.classify.rules true
      ("--from-stdin".toList :: choices.flatMap Choice.arguments) =
        (Arguments.read Command.classify.rules true (choices.flatMap Choice.arguments)).map
          (Arguments.withOption "--from-stdin" []) := rfl
  rw [read_choices] at hread
  rw [ofArguments_classify, classify_of_read hread (Nat.zero_le 1)]
  exact asks_withOption true

/-- A command line with a word asks for the word. -/
theorem ofArguments_word (choices : List Choice) (hdash : sql.head? ≠ some '-') :
    Reading.ofArguments ("classify".toList :: sql :: choices.flatMap Choice.arguments) =
      asks (some sql) false { options := choices.map Choice.option } := by
  have hread := read_word hdash (choices.flatMap Choice.arguments)
  rw [read_choices] at hread
  have hgiven : (Arguments.withWord sql { options := choices.map Choice.option }).has
      "--from-stdin" = false := by
    simp [Arguments.has, Arguments.withWord, Choice.option_ne]
  rw [ofArguments_classify, classify_of_read hread (Nat.le_refl 1), hgiven]
  rfl

/-- Options that ask for something before all else ask for help or the version. -/
theorem eq_help_or_version {c : Command} {r : Reading} (h : Reading.early? c a = some r) :
    r = .help c ∨ r = .version := by
  obtain ⟨o, -, rfl⟩ := Option.map_eq_some_iff.mp h
  exact ite_eq_or_eq _ _ _

end Readings

/-! ### Both runs -/

section Runs

variable {s : Surroundings} {sql input : List Char} {dialect : Option (List Char)}
  {format : Option Format} {noLog : Bool}

theorem classifyText_strip (s : Surroundings) (settings : Config.Settings) (sql : List Char)
    (dialect : Option (List Char)) (format : Option Format) (noLog : Bool) (h : Home) :
    classifyText s settings (Text.strip sql) dialect format noLog h =
      classifyText s settings sql dialect format noLog h := by
  simp only [classifyText, Classify.examine, Text.strip_strip]

/-- **Both requests** are carried out in the same way. -/
theorem perform_fromInput (hblank : Text.strip sql ≠ []) (hreturn : '\r' ∉ input)
    (hsame : Text.strip input = Text.strip sql) (h : Home) :
    perform { s with input } (.classify none true dialect format noLog) h =
      perform s (.classify (some sql) false dialect format noLog) h := by
  have hword : source s (some sql) false = .ok sql := by
    refine source_eq_ok.mpr (.word ?_)
    rintro rfl
    exact hblank rfl
  have hinput : source { s with input } none true = .ok (Text.strip sql) := by
    refine source_eq_ok.mpr (.input rfl ?_ hblank)
    rw [plainLines_of_not_mem hreturn, hsame]
  cases hload : Config.load h.config with
  | error e => simp only [perform, hload]
  | ok settings =>
    simp only [perform, hload, hinput, hword]
    -- standard input has been read, and nothing else depends on it
    exact classifyText_strip s settings sql (chosenDialect dialect settings) format noLog h

/-- **Both runs are the same**: one that is given a text as a word, and one that finds the text on
standard input, where the blanks around it may be others. The text is not blank, the word does not
begin with a dash, and on standard input there is no carriage return. The other options stand
behind, in any number and order. Both runs say the same, end in the same way, and leave the same
files. -/
theorem run_fromInput (s : Surroundings) (h : Home) (choices : List Choice)
    (hblank : ∃ c ∈ sql, Text.isBlank c = false) (hdash : sql.head? ≠ some '-')
    (hreturn : '\r' ∉ input) (hsame : Text.strip input = Text.strip sql) :
    run { s with input }
        ("classify".toList :: "--from-stdin".toList :: choices.flatMap Choice.arguments) h =
      run s ("classify".toList :: sql :: choices.flatMap Choice.arguments) h := by
  have hsome : Text.strip sql ≠ [] := by
    intro hnil
    obtain ⟨c, hc, hplain⟩ := hblank
    rw [Text.strip_nil_iff.mp hnil c hc] at hplain
    cases hplain
  simp only [run, ofArguments_fromInput, ofArguments_word choices hdash, asks]
  cases hearly : Reading.early? .classify { options := choices.map Choice.option } with
  | some r => rcases eq_help_or_version hearly with rfl | rfl <;> rfl
  | none =>
    rw [Option.getD_none]
    cases hformat : Reading.formatOf { options := choices.map Choice.option } with
    | error e => rfl
    | ok format => exact perform_fromInput hsome hreturn hsame h

end Runs

/-- A text with blanks around it. -/
def spacedText : List Char := "\n SELECT 1 ;\n".toList

/-- The sample text with blanks around it, with options behind. -/
theorem run_fromInput_spaced :
    run { sampleSurroundings with input := spacedText }
        ["classify".toList, "--from-stdin".toList, "--format=json".toList, "--dialect".toList,
          "hive".toList] {} =
      run sampleSurroundings
        ["classify".toList, spacedText, "--format=json".toList, "--dialect".toList,
          "hive".toList] {} :=
  run_fromInput sampleSurroundings {} [.format "json".toList true, .dialect "hive".toList false]
    ⟨'S', by decide, by decide⟩ (by decide) (by decide) rfl

end CommandLine

end StatementShape
