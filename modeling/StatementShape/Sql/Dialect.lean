import StatementShape.Sql.Keyword
import StatementShape.Text.Blank
import StatementShape.Text.Case

/-!
# SQL dialects

A dialect fixes how text is cut into tokens (its quotes, comments, escapes and words) and a few
choices of the grammar. The standard dialect has single-quoted strings, double-quoted identifiers,
quotes that are escaped by doubling, and nested comments; every other dialect is given by what it
changes.

## Main definitions

* `Dialect`: the dialects
* `Lexical`, `Dialect.lexical`: the conventions for tokens
* `Conventions`, `Dialect.conventions`: the choices of the grammar
* `DialectFault`, `Dialect.ofSetting`: the dialect of a setting, or why there is none

## Main results

* `Dialect.ofSetting_name`: a plain name is the setting of its dialect
-/

namespace StatementShape.Sql

/-- The dialects. -/
inductive Dialect where
  | standard | hive | spark | duckdb | postgres | mysql | bigquery | sqlite | snowflake | tsql
  | presto
  deriving DecidableEq, Repr

namespace Dialect

/-! ### Names -/

/-- The name of a dialect. The standard dialect has the empty name. -/
def name : Dialect → String
  | standard => ""
  | hive => "hive"
  | spark => "spark"
  | duckdb => "duckdb"
  | postgres => "postgres"
  | mysql => "mysql"
  | bigquery => "bigquery"
  | sqlite => "sqlite"
  | snowflake => "snowflake"
  | tsql => "tsql"
  | presto => "presto"

/-- All dialects. -/
def all : List Dialect :=
  [standard, hive, spark, duckdb, postgres, mysql, bigquery, sqlite, snowflake, tsql, presto]

end Dialect

/-! ### Settings -/

/-- Reasons for which a setting gives no dialect. -/
inductive DialectFault where
  | unknownName (name : String)
  | unknownOption (name : String)
  | unknownStrategy (name : String)
  deriving DecidableEq, Repr

namespace DialectFault

/-- The wording of a reason. -/
def message : DialectFault → String
  | unknownName name => "Unknown dialect '" ++ name ++ "'."
  | unknownOption name => "Unknown setting '" ++ name ++ "'."
  | unknownStrategy name => "'" ++ name ++ "' is not a valid NormalizationStrategy"

end DialectFault

namespace Dialect

/-- The texts between marks, at least one. -/
def piecesAt (mark : Char) : List Char → List (List Char)
  | [] => [[]]
  | c :: cs =>
    if c = mark then [] :: piecesAt mark cs
    else match piecesAt mark cs with
      | piece :: more => (c :: piece) :: more
      | [] => [[c]]

/-- What an option may be called. Options do not change how text is read. -/
def optionNames : List String := ["normalization_strategy", "version"]

/-- How names can be normalised, as the option for it may say. -/
def strategies : List String :=
  ["LOWERCASE", "UPPERCASE", "CASE_SENSITIVE", "CASE_INSENSITIVE", "CASE_INSENSITIVE_UPPERCASE"]

/-- An option of a setting: its name, and its value if it has exactly one. -/
def optionOf (text : List Char) : String × Option String :=
  let parts := (piecesAt '=' text).map fun p => String.ofList (Text.strip p)
  (parts.headD "", match parts with
    | [_, value] => some value
    | _ => none)

/-- The fault of some options, if they have one: the last value given for a strategy must be
one, and all options must be known. -/
def optionFault? (options : List (String × Option String)) : Option DialectFault :=
  let strategy := (options.reverse.lookup "normalization_strategy").bind id
  match strategy.filter fun s => !strategies.contains (Text.upper s.toList) with
  | some s => some (.unknownStrategy (Text.upper s.toList))
  | none => (options.find? fun o => !optionNames.contains o.1).map fun o => .unknownOption o.1

/-- The dialect of a setting: its name in front of the first comma, blanks aside, and behind
each comma an option. The empty name is that of the standard dialect. -/
def ofSetting (setting : String) : Except DialectFault Dialect :=
  match piecesAt ',' setting.toList with
  | [] => .ok standard
  | name :: options =>
    let wanted := String.ofList (Text.strip name)
    match all.find? (·.name == wanted) with
    | none => .error (.unknownName (String.ofList name))
    | some d =>
      match optionFault? (options.map optionOf) with
        | some fault => .error fault
        | none => .ok d

/-- A plain name is the setting of its dialect. -/
theorem ofSetting_name (d : Dialect) : (ofSetting d.name).toOption = some d := by
  cases d <;> decide +kernel

end Dialect

/-! ### Lexical conventions -/

/-- A quotation: how it opens and closes, the kind of token it makes, whether escapes are plain
text in it, and the base of its digits if it holds a number. -/
structure Quotation where
  opening : List Char
  closing : List Char
  kind : TokenKind := .string
  raw : Bool := false
  base : Option Nat := none

/-- A quotation with one mark at both ends, behind each of the given words. -/
def quotations (before : List String) (mark : String) (kind : TokenKind) : List Quotation :=
  before.map fun w => { opening := (w ++ mark).toList, closing := mark.toList, kind := kind }

/-- Hexadecimal and bit strings: digits of a base between single quotes. -/
def digitStrings (before : List String) (kind : TokenKind) (base : Nat) : List Quotation :=
  (quotations before "'" kind).map fun q => { q with base := some base }

/-- Lexical conventions of a dialect. The fields default to those of the standard dialect. -/
structure Lexical where
  /-- Characters that are tokens of their own. -/
  marks : List (Char × TokenKind) := sharedMarks
  /-- Marks that do not end a bare name. -/
  nameMarks : List Char := []
  /-- Spellings with a kind of their own; the first entry of a spelling counts. -/
  words : List (String × TokenKind) := sharedWords
  /-- Plain strings. -/
  strings : List Quotation := [{ opening := ['\''], closing := ['\''] }]
  /-- Strings with letters in front. -/
  markedStrings : List Quotation := []
  /-- Quotes of identifiers, opening and closing. -/
  identifiers : List (Char × Char) := [('"', '"')]
  /-- Characters that escape a quote or each other. -/
  escapes : List Char := ['\'']
  /-- The same, in byte strings. -/
  byteEscapes : List Char := escapes
  /-- Whether escapes count in raw strings too. -/
  rawEscapes : Bool := true
  /-- Comments: how they open, and how they close unless at the end of the line. -/
  comments : List (String × Option String) :=
    [("--", none), ("/*", some "*/"), ("\x7b#", some "#\x7d")]
  /-- Whether block comments nest. -/
  nestedComments : Bool := true
  /-- Whether a comment that opens with a plus sign is a hint. -/
  hints : Bool := true
  /-- Kinds that take the rest of the statement as raw text. -/
  commands : List TokenKind := [.command, .execute, .fetch, .show_, .rename]
  /-- Whether a dollar sign opens a string that the same tag closes. -/
  heredocs : Bool := false
  /-- Letters behind a number that name its type. -/
  numberSuffixes : List String := []
  /-- Whether a bare name may begin with a digit. -/
  digitNames : Bool := false
  /-- Whether an underscore may stand in a number. -/
  spacedNumbers : Bool := false
  /-- Whether `0x` and `0b` begin a number of that base. -/
  hexNumbers : Bool := false
  bitNumbers : Bool := false

/-- The shared words without some, behind additions of a dialect. -/
def wordsWith (added : List (String × TokenKind)) (removed : List String) :
    List (String × TokenKind) :=
  added ++ sharedWords.filter fun w => !removed.contains w.1

/-- Strings in single and double quotes. -/
def bothQuotes : List Quotation :=
  [{ opening := ['\''], closing := ['\''] }, { opening := ['"'], closing := ['"'] }]

/-- Words of `hive` and `spark` beyond the shared ones. -/
def hiveWords : List (String × TokenKind) :=
  spell .command ["ADD ARCHIVE", "ADD ARCHIVES", "ADD FILE", "ADD FILES", "ADD JAR", "ADD JARS",
    "MSCK REPAIR"]
  ++ [("MINUS", .except), ("REFRESH", .refresh), ("TIMESTAMP AS OF", .timestampSnapshot),
    ("VERSION AS OF", .versionSnapshot)]

/-- The conventions of `hive`: both quotes for strings, backquoted identifiers, backslash
escapes, letters behind numbers. -/
def hiveLexical : Lexical where
  marks := ('$', .parameter) :: sharedMarks
  words := wordsWith hiveWords []
  strings := bothQuotes
  identifiers := [('`', '`')]
  escapes := ['\\']
  numberSuffixes := ["L", "S", "Y", "D", "F", "BD"]
  digitNames := true

/-- The lexical conventions of each dialect. -/
def Dialect.lexical : Dialect → Lexical
  | .standard => {}
  | .hive => hiveLexical
  | .spark => { hiveLexical with
      markedStrings :=
        (["X", "x"].flatMap fun w => digitStrings [w] .hexString 16)
        ++ (quotations ["X", "x"] "\"" .hexString).map (fun q => { q with base := some 16 })
        ++ ((quotations ["r", "R"] "'" .rawString) ++ quotations ["r", "R"] "\"" .rawString).map
            (fun q => { q with raw := true })
      rawEscapes := false }
  | .duckdb => {
      marks := ('$', .parameter) :: sharedMarks
      words := wordsWith
        ([("//", .div), ("**", .dstar), ("^@", .caretAt), ("@>", .atGt), ("<@", .ltAt),
          ("ATTACH", .attach), ("DETACH", .detach), ("FORCE", .force), ("INSTALL", .install),
          ("LOGICAL", .type), ("ONLY", .only), ("PIVOT_WIDER", .pivot),
          ("POSITIONAL", .positional), ("RESET", .command), ("ROW", .struct), ("SIGNED", .type),
          ("SUMMARIZE", .summarize), ("MACRO", .function)]
          ++ spell .type ["BITSTRING", "UBIGINT", "UINTEGER", "USMALLINT", "UTINYINT", "UHUGEINT",
            "TIMESTAMP_S", "TIMESTAMP_MS", "TIMESTAMP_NS", "TIMESTAMP_US"]) []
      markedStrings := quotations ["e", "E"] "'" .byteString
      hints := false
      heredocs := true
      spacedNumbers := true
      commands := [.command, .execute, .fetch, .rename] }
  | .postgres => {
      marks := ('$', .heredocString) :: sharedMarks
      nameMarks := ['$']
      words := wordsWith
        ([("~", .rlike), ("@@", .dat), ("@>", .atGt), ("<@", .ltAt), ("?&", .questionAmp),
          ("?|", .questionPipe), ("#-", .hashDash), ("|/", .pipeSlash), ("||/", .dpipeSlash),
          ("ONLY", .only)]
          ++ spell .command ["DECLARE", "DO", "EXEC", "REFRESH", "REINDEX", "RESET"]
          ++ spell .type ["BIGSERIAL", "HSTORE", "MONEY", "NAME", "POINT", "SERIAL", "SMALLSERIAL",
            "XML"]
          ++ spell .pseudoType ["CSTRING", "OID", "REGCLASS", "REGCOLLATION", "REGCONFIG",
            "REGDICTIONARY", "REGNAMESPACE", "REGOPER", "REGOPERATOR", "REGPROC", "REGPROCEDURE",
            "REGROLE", "REGTYPE"]) ["DIV"]
      markedStrings := digitStrings ["b", "B"] .bitString 2 ++ digitStrings ["x", "X"] .hexString 16
        ++ quotations ["e", "E"] "'" .byteString
      byteEscapes := ['\'', '\\']
      hints := false
      heredocs := true
      bitNumbers := true
      hexNumbers := true }
  | .mysql => {
      words := wordsWith
        ([("CHARSET", .characterSet), ("DISTINCTROW", .distinct), ("EXPLAIN", .describe),
          ("FORCE", .force), ("IGNORE", .ignore), ("KEY", .key), ("LOCK TABLES", .command),
          ("MEMBER OF", .memberOf), ("MOD", .mod), ("SEPARATOR", .separator), ("START", .begin_),
          ("UNLOCK TABLES", .command), ("@@", .sessionParameter)]
          ++ spell .type ["SERIAL", "SIGNED", "SIGNED INTEGER", "UNSIGNED", "UNSIGNED INTEGER",
            "YEAR"]
          ++ spell .introducer ["_ASCII", "_BIG5", "_BINARY", "_CP1250", "_CP1251", "_CP1256",
            "_CP1257", "_CP850", "_CP852", "_CP866", "_CP932", "_DEC8", "_EUCJPMS", "_EUCKR",
            "_GB18030", "_GB2312", "_GBK", "_GEOSTD8", "_GREEK", "_HEBREW", "_HP8", "_KEYBCS2",
            "_KOI8R", "_KOI8U", "_LATIN1", "_LATIN2", "_LATIN5", "_LATIN7", "_MACCE", "_MACROMAN",
            "_SJIS", "_SWE7", "_TIS620", "_UCS2", "_UJIS", "_UTF8", "_UTF16", "_UTF16LE", "_UTF32",
            "_UTF8MB3", "_UTF8MB4"]) []
      strings := bothQuotes
      identifiers := [('`', '`')]
      escapes := ['\'', '"', '\\']
      markedStrings := digitStrings ["b", "B"] .bitString 2 ++ digitStrings ["x", "X"] .hexString 16
      comments := [("--", none), ("#", none), ("/*", some "*/"), ("\x7b#", some "#\x7d")]
      nestedComments := false
      digitNames := true
      bitNumbers := true
      hexNumbers := true
      commands := [.command, .execute, .fetch, .rename, .replace] }
  | .bigquery => {
      words := wordsWith
        ([("ANY TYPE", .type), ("BEGIN TRANSACTION", .begin_), ("BYTEINT", .type),
          ("BYTES", .type), ("CURRENT_DATETIME", .currentValue), ("DECLARE", .declare),
          ("EXPORT", .export_), ("FLOAT64", .type), ("FOR SYSTEM_TIME", .timestampSnapshot),
          ("MODEL", .schemaObject), ("NOT DETERMINISTIC", .nameWord), ("RECORD", .struct)]
          ++ spell .command ["BEGIN", "ELSEIF", "EXCEPTION", "LOOP", "REPEAT", "WHILE"])
        ["DIV", "VALUES"]
      strings := bothQuotes
        ++ [{ opening := "\"\"\"".toList, closing := "\"\"\"".toList },
          { opening := "'''".toList, closing := "'''".toList }]
      markedStrings := ["'", "\"", "\"\"\"", "'''"].flatMap fun mark =>
        quotations ["b", "B"] mark .byteString
          ++ (quotations ["r", "R"] mark .rawString).map fun q => { q with raw := true }
      identifiers := [('`', '`')]
      escapes := ['\\']
      comments := [("--", none), ("#", none), ("/*", some "*/"), ("\x7b#", some "#\x7d")]
      nestedComments := false
      hints := false
      hexNumbers := true }
  | .sqlite => {
      words := wordsWith
        [("ATTACH", .attach), ("DETACH", .detach), ("INDEXED BY", .indexedBy), ("MATCH", .nameWord)]
        []
      identifiers := [('"', '"'), ('[', ']'), ('`', '`')]
      markedStrings := digitStrings ["x", "X"] .hexString 16
      nestedComments := false
      hints := false
      hexNumbers := true
      commands := [.command, .execute, .fetch, .show_, .rename, .replace] }
  | .snowflake => {
      marks := ('$', .parameter) :: ('!', .exclamation) :: sharedMarks
      nameMarks := ['$']
      words := wordsWith
        ([("BYTEINT", .type), ("MATCH_CONDITION", .matchCondition), ("MINUS", .except),
          ("NCHAR VARYING", .type), ("REMOVE", .command), ("RM", .command),
          ("SAMPLE", .tableSample), ("SQL_DOUBLE", .type), ("SQL_VARCHAR", .type),
          ("TIMESTAMP_TZ", .timeType), ("TOP", .top)]
          ++ spell .schemaObject ["FILE FORMAT", "STAGE", "STORAGE INTEGRATION", "STREAMLIT", "TAG",
            "WAREHOUSE"]
          ++ spell .nameWord ["GET", "PUT"]) []
      strings := [{ opening := ['\''], closing := ['\''] }]
      markedStrings :=
        { opening := ['$', '$'], closing := ['$', '$'], kind := .rawString, raw := true }
          :: digitStrings ["x", "X"] .hexString 16
      escapes := ['\\', '\'']
      comments := [("--", none), ("//", none), ("/*", some "*/"), ("\x7b#", some "#\x7d")]
      nestedComments := false
      hints := false
      hexNumbers := true
      commands := [.command, .execute, .fetch, .rename] }
  | .tsql => {
      nameMarks := ['@', '$', '#']
      words := wordsWith
        ([("CLUSTERED INDEX", .index), ("NONCLUSTERED INDEX", .index), ("DECLARE", .declare),
          ("EXEC", .execute), ("FOR SYSTEM_TIME", .timestampSnapshot), ("GO", .command),
          ("OPTION", .option), ("OUTPUT", .returning), ("PRINT", .command), ("PROC", .procedure),
          ("TOP", .top), ("UPDATE STATISTICS", .command)]
          ++ spell .type ["DATETIME2", "DATETIMEOFFSET", "IMAGE", "MONEY", "NTEXT", "ROWVERSION",
            "SMALLDATETIME", "SMALLMONEY", "SQL_VARIANT", "TIMESTAMP", "UNIQUEIDENTIFIER", "XML"])
        []
      strings := bothQuotes
      identifiers := [('[', ']'), ('"', '"')]
      hints := false
      hexNumbers := true
      commands := [.command, .execute, .fetch, .show_, .rename, .end_] }
  | .presto => {
      words := wordsWith
        ([("START", .begin_), ("ROW", .struct)]
          ++ spell .command ["DEALLOCATE PREPARE", "DESCRIBE INPUT", "DESCRIBE OUTPUT",
            "RESET SESSION"]
          ++ spell .type ["IPADDRESS", "IPPREFIX", "TDIGEST", "HYPERLOGLOG"])
        ["QUALIFY"]
      markedStrings := digitStrings ["x", "X"] .hexString 16
        ++ quotations ["U&", "u&"] "'" .unicodeString
      nestedComments := false
      hints := false
      hexNumbers := true }

/-! ### Conventions of the grammar -/

/-- Choices of the grammar of a dialect. The fields default to the standard dialect's. -/
structure Conventions where
  /-- Whether a cast that fails is an error, so that `CAST` is the strict cast. -/
  strictCast : Bool := true
  /-- Whether `VALUES` without a parenthesis behind it is a name. -/
  valuesNeedParen : Bool := true
  /-- Whether a string may name a column. -/
  stringAliases : Bool := false
  /-- Whether a set operator must say `DISTINCT` or `ALL`. -/
  explicitDistinct : Bool := false
  /-- Whether two bars concatenate strings. -/
  barsConcatenate : Bool := true
  /-- Whether the caret is a power. -/
  caretIsPower : Bool := false
  /-- Whether a hash sign is an operator on bits. -/
  hashIsOperator : Bool := false
  /-- Whether a hash sign may stand in front of a name. -/
  hashNames : Bool := false
  /-- Whether a table sample stands in front of the alias. -/
  sampleBeforeAlias : Bool := false
  /-- Whether an unknown word can name a type. -/
  namedTypes : Bool := true
  /-- Whether a table may be followed by its partitions. -/
  tablePartitions : Bool := false
  /-- Whether `SHOW` is a statement of its own. -/
  showStatements : Bool := false
  /-- Whether a setting needs a sign in front of its value. -/
  settingsNeedSign : Bool := true
  /-- Whether a source of a common table expression may leave out `AS`. -/
  optionalAs : Bool := false
  /-- Whether a colon behind a column reaches into a value. -/
  colonPaths : Bool := false

/-- The choices of each dialect. -/
def Dialect.conventions : Dialect → Conventions
  | .standard => {}
  | .hive => { strictCast := false, valuesNeedParen := false, sampleBeforeAlias := true,
               namedTypes := false }
  | .spark => { strictCast := false, valuesNeedParen := false, sampleBeforeAlias := true,
                namedTypes := false, optionalAs := true }
  | .duckdb => { caretIsPower := true, showStatements := true }
  | .postgres => { caretIsPower := true, hashIsOperator := true }
  | .mysql => { stringAliases := true, barsConcatenate := false, valuesNeedParen := false,
                namedTypes := false, tablePartitions := true, showStatements := true }
  | .bigquery => { explicitDistinct := true, namedTypes := false }
  | .sqlite => { stringAliases := true }
  | .snowflake => { showStatements := true, colonPaths := true, namedTypes := false }
  | .tsql => { stringAliases := true, hashNames := true, settingsNeedSign := false }
  | .presto => { namedTypes := false }

end StatementShape.Sql
