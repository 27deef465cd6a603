/-!
# Options and words

The arguments of a command are options, which begin with a dash, and words. Two dashes alone end the
options. A value is joined to its option by an equals sign, or is the next argument.

## Main definitions

* `OptionRule`: an option that a command knows
* `OptionFault`: why arguments are refused
* `Arguments`, `Arguments.read`: options and words, in their order
-/

namespace StatementShape.CommandLine

/-- An option that a command knows: its name with the dashes, and whether it takes a value. -/
structure OptionRule where
  name : String
  takesValue : Bool := false
  deriving DecidableEq, Repr

/-- Faults in options. -/
inductive OptionFault where
  | unknown (name : List Char)
  | missingValue (name : List Char)
  | needlessValue (name : List Char)
  deriving DecidableEq, Repr

/-- Arguments of a command: the options given, each with its value, and the words. -/
structure Arguments where
  options : List (String × List Char) := []
  words : List (List Char) := []
  deriving DecidableEq, Repr

namespace Arguments

/-- An option in front of other arguments. -/
def withOption (name : String) (value : List Char) (a : Arguments) : Arguments :=
  { a with options := (name, value) :: a.options }

/-- A word in front of other arguments. -/
def withWord (word : List Char) (a : Arguments) : Arguments := { a with words := word :: a.words }

/-- Whether an argument is an option: it begins with a dash and is longer than that. -/
def isOption : List Char → Bool
  | '-' :: _ :: _ => true
  | _ => false

/-- The name of an option, without a value joined to it. -/
def optionName (arg : List Char) : List Char := arg.takeWhile (· ≠ '=')

/-- The value joined to an option, if there is one. -/
def joinedValue? (arg : List Char) : Option (List Char) :=
  match arg.dropWhile (· ≠ '=') with
  | _ :: value => some value
  | [] => none

/-- The name in a complaint about an unknown option: of an option with one dash, the first
letter. -/
def unknownName (arg : List Char) : List Char :=
  match arg with
  | '-' :: '-' :: _ => optionName arg
  | _ => arg.take 2

/-- Reading arguments. Where `mixed`, options may stand behind words; otherwise the first word
ends them. -/
def read (rules : List OptionRule) (mixed : Bool) : List (List Char) → Except OptionFault Arguments
  | [] => .ok {}
  | arg :: rest =>
    if arg = ['-', '-'] then .ok { words := rest }
    else if isOption arg then
      match rules.find? (·.name.toList == optionName arg) with
      | none => .error (.unknown (unknownName arg))
      | some rule =>
        match rule.takesValue, joinedValue? arg with
        | true, some value => (read rules mixed rest).map (withOption rule.name value)
        | true, none =>
          match rest with
          | value :: rest => (read rules mixed rest).map (withOption rule.name value)
          | [] => .error (.missingValue rule.name.toList)
        | false, some _ => .error (.needlessValue rule.name.toList)
        | false, none => (read rules mixed rest).map (withOption rule.name [])
    else if mixed then (read rules mixed rest).map (withWord arg)
    else .ok { words := arg :: rest }

/-- Whether an option is given. -/
def has (a : Arguments) (name : String) : Bool := a.options.any (·.1 == name)

/-- The value of an option: that of its last occurrence. -/
def value? (a : Arguments) (name : String) : Option (List Char) := a.options.reverse.lookup name

end Arguments

end StatementShape.CommandLine
