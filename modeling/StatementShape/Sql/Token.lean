/-!
# SQL tokens

A token is a stretch of SQL text with a kind: a punctuation mark, an operator, a literal, a quoted
identifier, a keyword or a bare name. Keywords that the grammar never tells apart share a kind.

## Main definitions

* `TokenKind`: the kinds
* `Token`: a kind with its text and place
* `TokenKind.isName`, `TokenKind.isTableAlias`, `TokenKind.isReserved`: which kinds can stand for a
  name, and where
* `TokenKind.isType`, `TokenKind.isFunctionName`, `TokenKind.isCreatable`: which kinds can begin a
  type or a call, and which name a kind of schema object
* `Token.isWord`: tokens that spell a keyword or a bare name, or a mark
-/

namespace StatementShape.Sql

/-- Token kinds. -/
inductive TokenKind where
  -- punctuation
  | lParen | rParen | lBracket | rBracket | lBrace | rBrace | amp | caret | colon | comma | dash
  | dot | eq | gt | lt | mod | not | pipe | plus | semicolon | slash | backslash | star | tilde
  | placeholder | parameter | hash | exclamation
  -- operators
  | ampLt | ampGt | dcolon | questionDcolon | dpipe | pipeGt | gte | lte | neq | colonEq
  | nullsafeEq | arrow | darrow | farrow | hashArrow | dhashArrow | lrArrow | damp | dquestion
  | adjacent | atGt | ltAt | caretAt | dstar | dat | questionAmp | questionPipe | hashDash
  | pipeSlash | dpipeSlash | sessionParameter | blockStart | blockEnd
  -- literals and names
  | string | number | identifier | var | heredocString | nationalString | rawString
  | unicodeString | bitString | byteString | hexString | hint | introducer
  -- words of queries
  | all | as_ | and | anti | any | apply | array | asc | asof | between | case | characterSet
  | clusterBy | collate | connectBy | cross | cube | currentValue | desc | distinct
  | distributeBy | div | else_ | end_ | escape | except | exists_ | fetch | filter | final | first
  | for_ | from_ | full | glob | groupBy | groupingSets | having | ilike | in_ | indexedBy | inner
  | intersect | interval | into | irlike | is | isnull | join | lateral | left | like | limit
  | list | lock | map | matchCondition | natural | notnull | null | object | offset | on | only
  | or | orderBy | ordinality | outer | over | overlaps | partition | partitionBy | percent | pivot
  | positional | qualify | range | recursive | returning | right | rlike | rollup | row | rows
  | select | semi | set | similarTo | some | sortBy | startWith | straightJoin | struct
  | summarize | tableSample | then_ | timestampSnapshot | top | true_ | false_ | union | unnest
  | unpivot | using | values | versionSnapshot | when | where_ | window | with_ | xor
  -- words that begin or qualify statements
  | alter | analyze | attach | begin_ | cache | command | comment | commit | constraint | copy
  | create | declare | default | delete | describe | detach | drop | execute | export_ | force
  | foreignKey | format | function | grant | ignore | index | insert | key | kill | load | merge
  | install | next | operator | overwrite | pragma | primaryKey | procedure | references | refresh
  | rename | replace | revoke | rollback | schema | session | settings | show_ | table | temporary
  | truncate | uncache | unique | update | use | column | database | view | memberOf | separator
  -- other schema objects, types and names
  | schemaObject | type | timeType | unknown | enum | nullable | json | pseudoType | nameWord
  | callWord | option
  deriving DecidableEq, Repr

/-- A token: its kind, its text (unquoted, or the keyword with single spaces), the offsets where
it starts and stops, and the line and column of its last character, counted from 1. -/
structure Token where
  kind : TokenKind
  text : String
  start : Nat
  stop : Nat
  line : Nat
  column : Nat
  deriving DecidableEq, Repr

namespace TokenKind

/-! ### Types and schema objects -/

/-- Kinds that begin a type. -/
def isType : TokenKind → Bool
  | type | timeType | unknown | enum | nullable | json | pseudoType | array | list | map | object
  | struct | interval | range | union => true
  | _ => false

/-- Types with type parameters, in angle brackets or parentheses. -/
def isNested : TokenKind → Bool
  | array | list | map | nullable | object | range | struct | union => true
  | _ => false

/-- Types whose parameters are fields. -/
def isStruct : TokenKind → Bool
  | struct | object | union => true
  | _ => false

/-- Schema objects that are named like tables. -/
def isDatabaseObject : TokenKind → Bool
  | database | schema | table | view | schemaObject => true
  | _ => false

/-- Schema objects that can be created and dropped. -/
def isCreatable : TokenKind → Bool
  | column | constraint | foreignKey | function | index | procedure => true
  | k => k.isDatabaseObject

/-- Schema objects that can be altered. -/
def isAlterable : TokenKind → Bool
  | index | table | view | session => true
  | _ => false

/-! ### Names -/

/-- Reserved kinds never stand for a name: single punctuation marks and `SELECT`. -/
def isReserved : TokenKind → Bool
  | lParen | rParen | lBracket | rBracket | lBrace | rBrace | amp | caret | colon | comma | dash
  | dot | eq | gt | lt | mod | not | pipe | plus | semicolon | slash | backslash | star | tilde
  | placeholder | parameter | hash | unknown | select => true
  | _ => false

/-- Kinds that stand for a name without quotes: bare names, and the keywords that no rule needs
in the place of a name. -/
def isName : TokenKind → Bool
  | var | all | analyze | anti | any | apply | array | asc | asof | attach | begin_ | cache | case
  | collate | column | command | comment | commit | constraint | copy | cube | currentValue
  | database | default | delete | desc | describe | detach | div | end_ | enum | escape | execute
  | exists_ | export_ | false_ | filter | final | first | foreignKey | format | full | function
  | index | interval | is | isnull | json | key | kill | left | limit | list | load | lock | map
  | merge | nameWord | natural | next | nullable | object | offset | operator | ordinality | overlaps
  | overwrite | partition | percent | pivot | positional | pragma | procedure | pseudoType | range
  | recursive | references | refresh | rename | replace | right | rollup | row | rows | schema
  | schemaObject | semi | session | set | settings | show_ | some | struct | table | temporary
  | timeType | top | true_ | truncate | type | unique | unknown | unnest | unpivot | update | use
  | view | window | callWord | declare => true
  | _ => false

/-- Kinds that can name a table in a source: names, less the words that continue a join. -/
def isTableAlias : TokenKind → Bool
  | anti | asof | full | left | lock | natural | right | semi | window | positional => false
  | k => k.isName

/-- Kinds that can name a function in front of a parenthesis. -/
def isFunctionName : TokenKind → Bool
  | all | any | collate | command | currentValue | exists_ | filter | first | format | glob
  | identifier | index | insert | isnull | ilike | like | merge | next | offset | primaryKey | range
  | replace | rlike | row | some | table | truncate | unnest | var | left | right | window | xor
  | schemaObject | callWord => true
  | k => k.isType && k != union

end TokenKind

/-- Tokens that spell themselves: all but strings and quoted identifiers, whose text is data. -/
def Token.isWord (t : Token) : Bool := t.kind != .string && t.kind != .identifier

end StatementShape.Sql
