import StatementShape.Sql.Token

/-!
# Keywords and operators

The words and marks that have a token kind of their own, as a table from spelling to kind. Spellings
are in capitals; a spelling of several words has one space between them. A dialect takes the shared
table, adds spellings, which win over shared ones, and leaves some out.

## Main definitions

* `sharedMarks`: single punctuation characters
* `sharedWords`: operators, keywords and the names of types
-/

namespace StatementShape.Sql

/-- Single marks: one character, one token. A backquote that opens no identifier reads like the
name of the unknown type. -/
def sharedMarks : List (Char × TokenKind) := [
  ('(', .lParen), (')', .rParen), ('[', .lBracket), (']', .rBracket), ('{', .lBrace),
  ('}', .rBrace), ('&', .amp), ('^', .caret), (':', .colon), (',', .comma), ('-', .dash),
  ('.', .dot), ('=', .eq), ('>', .gt), ('<', .lt), ('%', .mod), ('!', .not), ('|', .pipe),
  ('+', .plus), (';', .semicolon), ('/', .slash), ('\\', .backslash), ('*', .star), ('~', .tilde),
  ('?', .placeholder), ('@', .parameter), ('#', .hash), ('`', .unknown)]

/-- Quote characters end a bare name wherever they stand, in every dialect. -/
def quoteMarks : List Char := ['\'', '`', '"']

/-- Spellings of one kind. -/
def spell (kind : TokenKind) (words : List String) : List (String × TokenKind) :=
  words.map fun w => (w, kind)

/-- Operators of several characters. -/
def sharedOperators : List (String × TokenKind) := [
  ("&<", .ampLt), ("&>", .ampGt), ("==", .eq), ("::", .dcolon), ("?::", .questionDcolon),
  ("||", .dpipe), ("|>", .pipeGt), (">=", .gte), ("<=", .lte), ("<>", .neq), ("!=", .neq),
  (":=", .colonEq), ("<=>", .nullsafeEq), ("->", .arrow), ("->>", .darrow), ("=>", .farrow),
  ("#>", .hashArrow), ("#>>", .dhashArrow), ("<->", .lrArrow), ("&&", .damp), ("??", .dquestion),
  ("-|-", .adjacent), ("~~~", .glob), ("~~", .like), ("~~*", .ilike), ("~*", .irlike)]
    ++ spell .blockStart ["\x7b%", "\x7b%+", "\x7b%-", "\x7b\x7b+", "\x7b\x7b-"]
    ++ spell .blockEnd ["%\x7d", "+%\x7d", "-%\x7d", "+\x7d\x7d", "-\x7d\x7d"]

/-- Words of queries. -/
def queryWords : List (String × TokenKind) := [
  ("ALL", .all), ("AND", .and), ("ANTI", .anti), ("ANY", .any), ("APPLY", .apply),
  ("ARRAY", .array), ("ASC", .asc), ("AS", .as_), ("ASOF", .asof), ("BETWEEN", .between),
  ("CASE", .case), ("CHARACTER SET", .characterSet), ("CLUSTER BY", .clusterBy),
  ("COLLATE", .collate), ("CONNECT BY", .connectBy), ("CROSS", .cross), ("CUBE", .cube),
  ("CURRENT_DATE", .currentValue), ("CURRENT_TIME", .currentValue),
  ("CURRENT_TIMESTAMP", .currentValue), ("CURRENT_USER", .currentValue),
  ("CURRENT_SCHEMA", .callWord), ("DESC", .desc), ("DISTINCT", .distinct),
  ("DISTRIBUTE BY", .distributeBy), ("DIV", .div), ("ELSE", .else_), ("END", .end_),
  ("ESCAPE", .escape), ("EXCEPT", .except), ("EXISTS", .exists_), ("FETCH", .fetch),
  ("FILTER", .filter), ("FIRST", .first), ("FOR", .for_), ("FROM", .from_), ("FULL", .full),
  ("GLOB", .glob), ("GROUP BY", .groupBy), ("GROUPING SETS", .groupingSets), ("HAVING", .having),
  ("ILIKE", .ilike), ("IN", .in_), ("INNER", .inner), ("INTERSECT", .intersect),
  ("INTERVAL", .interval), ("INTO", .into), ("IS", .is), ("ISNULL", .isnull), ("JOIN", .join),
  ("LATERAL", .lateral), ("LEFT", .left), ("LIKE", .like), ("LIMIT", .limit), ("LIST", .list),
  ("LOCK", .lock), ("MAP", .map), ("NATURAL", .natural), ("NOT", .not), ("NOTNULL", .notnull),
  ("NULL", .null), ("OBJECT", .object), ("OFFSET", .offset), ("ON", .on), ("OR", .or),
  ("ORDER BY", .orderBy), ("ORDINALITY", .ordinality), ("OUTER", .outer), ("OVER", .over),
  ("OVERLAPS", .overlaps), ("PARTITION", .partition), ("PARTITION BY", .partitionBy),
  ("PARTITIONED BY", .partitionBy), ("PARTITIONED_BY", .partitionBy), ("PERCENT", .percent),
  ("PIVOT", .pivot), ("QUALIFY", .qualify), ("RANGE", .range), ("RECURSIVE", .recursive),
  ("REGEXP", .rlike), ("RETURNING", .returning), ("RIGHT", .right), ("RLIKE", .rlike),
  ("ROLLUP", .rollup), ("ROW", .row), ("ROWS", .rows), ("SELECT", .select), ("SEMI", .semi),
  ("SET", .set), ("SIMILAR TO", .similarTo), ("SOME", .some), ("SORT BY", .sortBy),
  ("START WITH", .startWith), ("STRAIGHT_JOIN", .straightJoin), ("STRUCT", .struct),
  ("TABLESAMPLE", .tableSample), ("THEN", .then_), ("TRUE", .true_), ("FALSE", .false_),
  ("UNION", .union), ("UNNEST", .unnest), ("UNPIVOT", .unpivot), ("USING", .using),
  ("VALUES", .values), ("WHEN", .when), ("WHERE", .where_), ("WINDOW", .window), ("WITH", .with_),
  ("XOR", .xor)]

/-- Words that begin or qualify statements. -/
def statementWords : List (String × TokenKind) := [
  ("ALTER", .alter), ("ANALYZE", .analyze), ("BEGIN", .begin_), ("CACHE", .cache),
  ("CALL", .command), ("COLUMN", .column), ("COMMENT", .comment), ("COMMIT", .commit),
  ("CONSTRAINT", .constraint), ("COPY", .copy), ("CREATE", .create), ("DATABASE", .database),
  ("DEFAULT", .default), ("DELETE", .delete), ("DESCRIBE", .describe), ("DROP", .drop),
  ("EXECUTE", .execute), ("EXPLAIN", .command), ("FOREIGN KEY", .foreignKey),
  ("FORMAT", .format), ("FUNCTION", .function), ("GRANT", .grant), ("INDEX", .index),
  ("INSERT", .insert), ("KILL", .kill), ("LOAD", .load), ("MERGE", .merge), ("NEXT", .next),
  ("NAMESPACE", .schemaObject), ("OPERATOR", .operator), ("OPTIMIZE", .command),
  ("OVERWRITE", .overwrite), ("PRAGMA", .pragma), ("PREPARE", .command),
  ("PRIMARY KEY", .primaryKey), ("PROCEDURE", .procedure), ("REFERENCES", .references),
  ("RENAME", .rename), ("REPLACE", .replace), ("ROLLBACK", .rollback), ("SCHEMA", .schema),
  ("SEQUENCE", .schemaObject), ("SESSION", .session), ("SETTINGS", .settings), ("SHOW", .show_),
  ("TABLE", .table), ("TEMP", .temporary), ("TEMPORARY", .temporary), ("TRUNCATE", .truncate),
  ("UNCACHE", .uncache), ("UNIQUE", .unique), ("UPDATE", .update), ("USE", .use),
  ("VACUUM", .command), ("VIEW", .view)]
    ++ spell .nameWord ["AUTOINCREMENT", "AUTO_INCREMENT", "KEEP", "VOLATILE"]

/-- Names of types. -/
def typeWords : List (String × TokenKind) :=
  spell .type ["BIT", "BOOL", "BOOLEAN", "BYTE", "MEDIUMINT", "INT1", "TINYINT", "INT16", "SHORT",
    "SMALLINT", "HUGEINT", "UHUGEINT", "INT2", "INTEGER", "INT", "INT4", "INT32", "INT64", "INT128",
    "INT256", "LONG", "BIGINT", "INT8", "UINT", "UINT128", "UINT256", "DEC", "DECIMAL",
    "DECIMAL32", "DECIMAL64", "DECIMAL128", "DECIMAL256", "BIGDECIMAL", "BIGNUMERIC", "NUMBER",
    "NUMERIC", "FIXED", "REAL", "FLOAT", "FLOAT4", "FLOAT8", "DOUBLE", "DOUBLE PRECISION", "JSONB",
    "CHAR", "CHARACTER", "CHAR VARYING", "CHARACTER VARYING", "NCHAR", "VARCHAR", "VARCHAR2",
    "NVARCHAR", "NVARCHAR2", "BPCHAR", "STR", "STRING", "TEXT", "LONGTEXT", "MEDIUMTEXT",
    "TINYTEXT", "CLOB", "LONGVARCHAR", "BINARY", "BLOB", "LONGBLOB", "MEDIUMBLOB", "TINYBLOB",
    "BYTEA", "VARBINARY", "DATE", "DATETIME", "INT4RANGE", "INT4MULTIRANGE", "INT8RANGE",
    "INT8MULTIRANGE", "NUMRANGE", "NUMMULTIRANGE", "TSRANGE", "TSMULTIRANGE", "TSTZRANGE",
    "TSTZMULTIRANGE", "DATERANGE", "DATEMULTIRANGE", "GEOGRAPHY", "GEOMETRY", "INET", "UUID",
    "VARIANT", "VECTOR", "USER-DEFINED"]
  ++ spell .timeType ["TIME", "TIMETZ", "TIMESTAMP", "TIMESTAMPTZ", "TIMESTAMPLTZ", "TIMESTAMP_LTZ",
    "TIMESTAMPNTZ", "TIMESTAMP_NTZ"]
  ++ [("ENUM", .enum), ("NULLABLE", .nullable), ("JSON", .json), ("UNKNOWN", .unknown)]

/-- The shared table of operators, keywords and types. -/
def sharedWords : List (String × TokenKind) :=
  sharedOperators ++ queryWords ++ statementWords ++ typeWords

end StatementShape.Sql
