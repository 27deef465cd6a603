import StatementShape.CommandLine.Command
import StatementShape.Config.Display
import StatementShape.Report.Render

/-!
# Requests

A command line is read as a request, as a wish for help or the version, or is refused.

## Main definitions

* `Request`: what the program is asked to do
* `UsageError`, `UsageError.text`: why a command line is refused
* `Reading`: the outcome of reading a command line
* `Reading.ofArguments`: reading it
-/

namespace StatementShape.CommandLine

open Config (quoted)
open Report (Format)

/-- Requests. -/
inductive Request where
  | classify (sql : Option (List Char)) (fromInput : Bool) (dialect : Option (List Char))
      (format : Option Format) (noLog : Bool)
  | show_
  | set (key value : List Char)
  deriving DecidableEq, Repr

/-- Reasons to refuse a command line. -/
inductive UsageError where
  | option (f : OptionFault)
  | noCommand
  | unknownCommand (name : List Char)
  | missingWord (name : String)
  | extraWords (words : List (List Char))
  | unknownFormat (name : List Char)
  | badDialect (message : String)
  | badSetting (message : String)
  | twoSources
  | noSource
  | emptyInput
  deriving DecidableEq, Repr

namespace UsageError

/-- The wording of a reason. -/
def message : UsageError → String
  | option (.unknown name) => "No such option " ++ String.ofList (quoted name) ++ "."
  | option (.missingValue name) =>
    "Option " ++ String.ofList (quoted name) ++ " requires an argument."
  | option (.needlessValue name) =>
    "Option " ++ String.ofList (quoted name) ++ " does not take a value."
  | noCommand => "Missing command."
  | unknownCommand name => "No such command " ++ String.ofList (quoted name) ++ "."
  | missingWord name => "Missing argument '" ++ name ++ "'."
  | extraWords words =>
    (if words.length = 1 then "Got unexpected extra argument ("
      else "Got unexpected extra arguments (")
      ++ String.intercalate " " (words.map String.ofList) ++ ")"
  | unknownFormat name =>
    "Invalid value for '--format': " ++ String.ofList (quoted name)
      ++ " is not one of 'json', 'text'."
  | badDialect message => "Invalid value for '--dialect': " ++ message
  | badSetting message => "Invalid value: " ++ message
  | twoSources => "Provide SQL as an argument or --from-stdin, not both."
  | noSource => "Missing argument 'SQL'. Provide SQL or use --from-stdin."
  | emptyInput => "--from-stdin: stdin was empty."

/-- Whether the usage of the command is shown with a reason: not where a value is missing or
needless. -/
def showsUsage : UsageError → Bool
  | option (.missingValue _) | option (.needlessValue _) => false
  | _ => true

/-- The text for a reason, in a command. -/
def text (c : Command) (e : UsageError) : String :=
  (if e.showsUsage then c.usage ++ c.hint ++ "\n" else "") ++ "Error: " ++ e.message ++ "\n"

end UsageError

/-- Outcomes of reading a command line. -/
inductive Reading where
  | request (r : Request)
  | help (c : Command)
  | version
  /-- A group is called without anything. -/
  | nothing (c : Command)
  | refused (c : Command) (e : UsageError)
  deriving DecidableEq, Repr

namespace Reading

/-- What options ask for before all else: the first that asks for help or the version. -/
def early? (c : Command) (a : Arguments) : Option Reading :=
  (a.options.find? fun o => o.1 == "--help" || o.1 == "--version").map fun o =>
    if o.1 == "--help" then .help c else .version

/-- Reading the arguments of a command, and going on with them. -/
def within (c : Command) (mixed : Bool) (args : List (List Char)) (next : Arguments → Reading) :
    Reading :=
  match Arguments.read c.rules mixed args with
  | .error f => .refused c (.option f)
  | .ok a => (early? c a).getD (next a)

/-- Reading a group of commands: the command by its name, with the arguments behind it. An
unknown name that begins with a dash is first read as an option. -/
def group (c : Command) (find : List Char → Option (List (List Char) → Reading))
    (args : List (List Char)) : Reading :=
  if args.isEmpty then .nothing c
  else within c false args fun a =>
    match a.words with
    | [] => .refused c .noCommand
    | name :: rest =>
      match find name with
      | some command => command rest
      | none =>
        let unknown := .refused c (.unknownCommand name)
        if Arguments.isOption name then within c false (name :: rest) fun _ => unknown
        else unknown

/-- A format that is given by its name. -/
def formatOf (a : Arguments) : Except UsageError (Option Format) :=
  match a.value? "--format" with
  | none => .ok none
  | some name =>
    match Format.ofName? (String.ofList name) with
    | some f => .ok (some f)
    | none => .error (.unknownFormat name)

/-- The arguments of `classify`. -/
def classify (args : List (List Char)) : Reading :=
  within .classify true args fun a =>
    match formatOf a with
    | .error e => .refused .classify e
    | .ok format =>
      match a.words with
      | _ :: extra :: more => .refused .classify (.extraWords (extra :: more))
      | words => .request (.classify words.head? (a.has "--from-stdin") (a.value? "--dialect") format
          (a.has "--no-log"))

/-- The arguments of `config show`. -/
def configShow (args : List (List Char)) : Reading :=
  within .configShow true args fun a =>
    if a.words.isEmpty then .request .show_ else .refused .configShow (.extraWords a.words)

/-- The arguments of `config set`. -/
def configSet (args : List (List Char)) : Reading :=
  within .configSet true args fun a =>
    match a.words with
    | [] => .refused .configSet (.missingWord "KEY")
    | [_] => .refused .configSet (.missingWord "VALUE")
    | [key, value] => .request (.set key value)
    | _ :: _ :: more => .refused .configSet (.extraWords more)

/-- The commands of `config`. -/
def configCommand (name : List Char) : Option (List (List Char) → Reading) :=
  if name = "show".toList then some configShow
  else if name = "set".toList then some configSet
  else none

/-- The commands of the program. -/
def mainCommand (name : List Char) : Option (List (List Char) → Reading) :=
  if name = "classify".toList then some classify
  else if name = "config".toList then some (group .config configCommand)
  else none

/-- Reading a command line. -/
def ofArguments (args : List (List Char)) : Reading := group .main mainCommand args

end Reading

end StatementShape.CommandLine
