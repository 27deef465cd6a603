import StatementShape.CommandLine.Words

/-!
# Commands

The commands, the options they know, and the texts of their help.

## Main definitions

* `Command`: the commands
* `Command.rules`: the options of a command
* `Command.usage`, `Command.help`: how it is called, and all about it
-/

namespace StatementShape.CommandLine

/-- Commands. Two of them are groups of commands. -/
inductive Command where
  | main | classify | config | configShow | configSet
  deriving DecidableEq, Repr

namespace Command

/-- The words that name a command. -/
def path : Command → String
  | main => "sqlshape"
  | classify => "sqlshape classify"
  | config => "sqlshape config"
  | configShow => "sqlshape config show"
  | configSet => "sqlshape config set"

/-- What may stand behind a command's name. -/
def pieces : Command → String
  | main | config => "[OPTIONS] COMMAND [ARGS]..."
  | classify => "[OPTIONS] [SQL]"
  | configShow => "[OPTIONS]"
  | configSet => "[OPTIONS] KEY VALUE"

/-- How a command is called. -/
def usage (c : Command) : String := "Usage: " ++ c.path ++ " " ++ c.pieces ++ "\n"

/-- Where to find help on a command. -/
def hint (c : Command) : String := "Try '" ++ c.path ++ " --help' for help.\n"

/-- The options of a command. -/
def rules : Command → List OptionRule
  | main => [{ name := "--version" }, { name := "--help" }]
  | classify =>
    [{ name := "--from-stdin" }, { name := "--dialect", takesValue := true },
      { name := "--format", takesValue := true }, { name := "--no-log" }, { name := "--help" }]
  | config | configShow | configSet => [{ name := "--help" }]

/-- Lines, each with its line end. -/
def joinLines (ls : List String) : String := String.join (ls.map (· ++ "\n"))

/-- The text of a command's help below its usage. -/
def description : Command → List String
  | main => [
    "",
    "  sqlshape: result-set and SELECT classification for SQL statements.",
    "",
    "Options:",
    "  --version  Show the version and exit.",
    "  --help     Show this message and exit.",
    "",
    "Commands:",
    "  classify  Report whether SQL yields a result set and whether it is a SELECT.",
    "  config    Manage defaults (~/.sqlshape/config.toml)."]
  | classify => [
    "",
    "  Report whether SQL yields a result set and whether it is a SELECT.",
    "",
    "Options:",
    "  --from-stdin          Read SQL from stdin.",
    "  --dialect TEXT        SQL dialect (hive, spark, duckdb, etc.)",
    "  --format [json|text]  Output format. Defaults to the configured format, else",
    "                        text.",
    "  --no-log              Do not record this run in the classification log.",
    "  --help                Show this message and exit."]
  | config => [
    "",
    "  Manage defaults (~/.sqlshape/config.toml).",
    "",
    "Options:",
    "  --help  Show this message and exit.",
    "",
    "Commands:",
    "  set   Set a default.",
    "  show  Show the effective defaults."]
  | configShow => [
    "",
    "  Show the effective defaults.",
    "",
    "Options:",
    "  --help  Show this message and exit."]
  | configSet => [
    "",
    "  Set a default.",
    "",
    "  Examples:",
    "    sqlshape config set dialect hive",
    "    sqlshape config set format json",
    "    sqlshape config set log false",
    "",
    "Options:",
    "  --help  Show this message and exit."]

/-- All about a command. -/
def help (c : Command) : String := c.usage ++ joinLines c.description

/-- The version of the program. -/
def versionText : String := "sqlshape, version 0.1.0\n"

end Command

end StatementShape.CommandLine
