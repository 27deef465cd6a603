/-!
# SQL expressions

What the grammar recognises, as trees. Each node has a kind and the parts that were read for it, in
the order of the text. Statements, clauses, queries, operators, names and literals are all nodes;
what a name or a literal says is not kept.

## Main definitions

* `ExpressionKind`: the kinds
* `ExpressionKind.key`: the name a kind is reported under
* `Expression`: the trees
* `Expression.find?`: the first node of a kind
* `ExpressionKind.isQuery`: queries, parenthesized ones included
-/

namespace StatementShape.Sql

/-- Kinds of expressions. -/
inductive ExpressionKind where
  -- queries and their parts
  | select | union | intersect | except | subquery | values | table | lateral | unnest | summarize
  | with_ | cte | from_ | join | where_ | group | having | qualify | order | ordered | limit
  | offset | fetch | lock | tableSample | cluster | distribute | sort | connect | windowClause
  | into | tableAlias | pivot | hint | partition | schema | columnDef | constraint | version
  | tableHint | distinct | star | when_ | returning | onConflict | property | setItem
  -- statements
  | insert | multitableInserts | update | delete | merge | create | drop | alter | set | use
  | truncateTable | transaction | commit | rollback | cache | uncache | comment | grant | revoke | pragma
  | kill | loadData | describe | show_ | copy | analyze | command | attach | detach | declare
  -- names and literals
  | column | identifier | dot | var | literal | national | rawString | unicodeString | bitString
  | byteString | hexString | introducer | null | boolean | placeholder | parameter
  | sessionParameter | dataType | pseudoType | interval
  -- operators
  | aliased | aliases | paren | tuple | neg | not | bitwiseNot | sqrt | cbrt | or | and | xor | eq
  | neq | nullSafeEq | nullSafeNeq | gt | gte | lt | lte | is | in_ | between | like | ilike
  | regexpLike | regexpILike | similarTo | glob | overlaps | escape | adjacent | extendsLeft
  | extendsRight | operator | memberOf | comprehension | bitwiseAnd | bitwiseOr | bitwiseXor
  | bitwiseLeftShift | bitwiseRightShift | dPipe | coalesce | add | sub | mul | div | intDiv | mod
  | pow | collate | distance | propertyEq | kwarg | lambda | slice | atTimeZone | arrayContainsAll
  | arrayOverlaps | jsonExtract | jsonExtractScalar | jsonbExtract | jsonbExtractScalar
  | jsonbContains | jsonbContainsAny | jsonbContainsAll | jsonbDelete | textSearch | array | bracket
  | struct | concat
  -- calls
  | cast | tryCast | case | if_ | any | all | exists_ | anonymous | window | windowSpec | filter
  | withinGroup | ignoreNulls | respectNulls | havingMax
  /-- A call of a function that the language knows, by its report name. -/
  | call (name : String)
  deriving DecidableEq, Repr

namespace ExpressionKind

/-- The name a kind is reported under. -/
def key : ExpressionKind → String
  | select => "select" | union => "union" | intersect => "intersect" | except => "except"
  | subquery => "subquery" | values => "values" | table => "table" | lateral => "lateral"
  | unnest => "unnest" | summarize => "summarize" | with_ => "with" | cte => "cte"
  | from_ => "from" | join => "join" | where_ => "where" | group => "group" | having => "having"
  | qualify => "qualify" | order => "order" | ordered => "ordered" | limit => "limit"
  | offset => "offset" | fetch => "fetch" | lock => "lock" | tableSample => "tablesample"
  | cluster => "cluster" | distribute => "distribute" | sort => "sort" | connect => "connect"
  | windowClause => "window" | into => "into" | tableAlias => "tablealias" | pivot => "pivot"
  | hint => "hint" | partition => "partition" | schema => "schema" | columnDef => "columndef"
  | constraint => "constraint" | version => "version" | tableHint => "withtablehint"
  | distinct => "distinct" | star => "star" | when_ => "when" | returning => "returning"
  | onConflict => "onconflict" | property => "property" | setItem => "setitem"
  | insert => "insert" | multitableInserts => "multitableinserts" | update => "update"
  | delete => "delete" | merge => "merge"
  | create => "create" | drop => "drop" | alter => "alter" | set => "set" | use => "use"
  | truncateTable => "truncatetable" | transaction => "transaction" | commit => "commit"
  | rollback => "rollback" | cache => "cache" | uncache => "uncache" | comment => "comment"
  | grant => "grant" | revoke => "revoke" | pragma => "pragma" | kill => "kill"
  | loadData => "loaddata" | describe => "describe" | show_ => "show" | copy => "copy"
  | analyze => "analyze" | command => "command" | attach => "attach" | detach => "detach"
  | declare => "declare" | column => "column" | identifier => "identifier" | dot => "dot"
  | var => "var" | literal => "literal" | national => "national" | rawString => "rawstring"
  | unicodeString => "unicodestring" | bitString => "bitstring" | byteString => "bytestring"
  | hexString => "hexstring" | introducer => "introducer" | null => "null"
  | boolean => "boolean" | placeholder => "placeholder" | parameter => "parameter"
  | sessionParameter => "sessionparameter" | dataType => "datatype" | pseudoType => "pseudotype"
  | interval => "interval" | aliased => "alias" | aliases => "aliases" | paren => "paren"
  | tuple => "tuple" | neg => "neg" | not => "not" | bitwiseNot => "bitwisenot" | sqrt => "sqrt"
  | cbrt => "cbrt" | or => "or" | and => "and" | xor => "xor" | eq => "eq" | neq => "neq"
  | nullSafeEq => "nullsafeeq" | nullSafeNeq => "nullsafeneq" | gt => "gt" | gte => "gte"
  | lt => "lt" | lte => "lte" | is => "is" | in_ => "in" | between => "between" | like => "like"
  | ilike => "ilike" | regexpLike => "regexplike" | regexpILike => "regexpilike"
  | similarTo => "similarto" | glob => "glob" | overlaps => "overlaps" | escape => "escape"
  | adjacent => "adjacent" | extendsLeft => "extendsleft" | extendsRight => "extendsright"
  | operator => "operator" | memberOf => "jsonarraycontains" | comprehension => "comprehension"
  | bitwiseAnd => "bitwiseand" | bitwiseOr => "bitwiseor" | bitwiseXor => "bitwisexor"
  | bitwiseLeftShift => "bitwiseleftshift" | bitwiseRightShift => "bitwiserightshift"
  | dPipe => "dpipe" | coalesce => "coalesce" | add => "add" | sub => "sub" | mul => "mul"
  | div => "div" | intDiv => "intdiv" | mod => "mod" | pow => "pow" | collate => "collate"
  | distance => "distance" | propertyEq => "propertyeq" | kwarg => "kwarg" | lambda => "lambda"
  | slice => "slice" | atTimeZone => "attimezone" | arrayContainsAll => "arraycontainsall"
  | arrayOverlaps => "arrayoverlaps" | jsonExtract => "jsonextract"
  | jsonExtractScalar => "jsonextractscalar" | jsonbExtract => "jsonbextract"
  | jsonbExtractScalar => "jsonbextractscalar" | jsonbContains => "jsonbcontains"
  | jsonbContainsAny => "jsonbcontainsanytopkeys" | jsonbContainsAll => "jsonbcontainsalltopkeys"
  | jsonbDelete => "jsonbdeleteatpath" | textSearch => "matchagainst" | array => "array"
  | bracket => "bracket" | struct => "struct" | concat => "concat" | cast => "cast"
  | tryCast => "trycast" | case => "case" | if_ => "if" | any => "any" | all => "all"
  | exists_ => "exists" | anonymous => "anonymous" | window => "window"
  | windowSpec => "windowspec" | filter => "filter" | withinGroup => "withingroup"
  | ignoreNulls => "ignorenulls" | respectNulls => "respectnulls" | havingMax => "havingmax"
  | call name => name

/-- Queries: selections, set operations and parenthesized queries. -/
def isQuery : ExpressionKind → Bool
  | select | union | intersect | except | subquery => true
  | _ => false

/-- Queries without parentheses. -/
def isBareQuery : ExpressionKind → Bool
  | select | union | intersect | except => true
  | _ => false

/-- What clauses behind a query can modify. -/
def takesModifiers : ExpressionKind → Bool
  | select | union | intersect | except | subquery | table => true
  | _ => false

/-- What common table expressions can stand in front of. -/
def takesWith : ExpressionKind → Bool
  | select | union | intersect | except | subquery | insert | update | delete | merge | create =>
    true
  | _ => false

end ExpressionKind

/-- Expressions as trees of kinds. -/
inductive Expression where
  | node (kind : ExpressionKind) (parts : List Expression)
  deriving Repr

namespace Expression

/-- The kind of the outermost node. -/
def kind : Expression → ExpressionKind
  | node k _ => k

/-- The parts of the outermost node. -/
def parts : Expression → List Expression
  | node _ ps => ps

/-- The name of the outermost node's kind. -/
def key (e : Expression) : String := e.kind.key

mutual

/-- The first node of a kind, a node before its parts. -/
def find? (k : ExpressionKind) : Expression → Option Expression
  | e@(node k' parts) => if k' = k then some e else findIn? k parts

/-- The first node of a kind in a list of trees. -/
def findIn? (k : ExpressionKind) : List Expression → Option Expression
  | [] => none
  | e :: es => (find? k e).or (findIn? k es)

end

@[simp] theorem kind_node (k : ExpressionKind) (ps : List Expression) : (node k ps).kind = k := rfl

@[simp] theorem parts_node (k : ExpressionKind) (ps : List Expression) :
    (node k ps).parts = ps := rfl

mutual

/-- What is found has the kind that was looked for. -/
theorem kind_of_find? {k : ExpressionKind} :
    ∀ {e r : Expression}, find? k e = some r → r.kind = k
  | node k' parts, r, h => by
    unfold find? at h
    split at h
    · next hk => cases h; exact hk
    · exact kind_of_findIn? h

/-- What is found in a list has the kind that was looked for. -/
theorem kind_of_findIn? {k : ExpressionKind} :
    ∀ {es : List Expression} {r : Expression}, findIn? k es = some r → r.kind = k
  | [], _, h => by simp [findIn?] at h
  | e :: es, r, h => by
    unfold findIn? at h
    cases he : find? k e with
    | some r' => rw [he] at h; simp only [Option.some_or, Option.some.injEq] at h
                 exact h ▸ kind_of_find? he
    | none => rw [he] at h; simp only [Option.none_or] at h; exact kind_of_findIn? h

end

end Expression

end StatementShape.Sql
