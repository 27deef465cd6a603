import StatementShape.Text.Case

/-!
# Known functions

Calls of a known function must have as many arguments as it takes; calls of any other name may have
any number. A function can have several names.

## Main definitions

* `Signature`: the report name of a function and the numbers of arguments it takes
* `Signature.takes`: whether a number of arguments fits
* `knownFunctions`: the functions, by their names in capitals
-/

namespace StatementShape.Sql

/-- A signature: the name a call is reported under, the least number of arguments, and the
largest, if there is one. -/
structure Signature where
  key : String
  least : Nat
  most : Option Nat

/-- Whether a number of arguments fits. -/
def Signature.takes (s : Signature) (n : Nat) : Bool := s.least ≤ n && s.most.all (n ≤ ·)

/-- The report name of a function that is called by its own name: small letters, without low
lines. -/
def reportName (name : String) : String :=
  Text.lower (String.ofList (name.toList.filter (· != '_')))

/-- Functions of a range of arguments that are reported under their own names. -/
def functions (least : Nat) (most : Option Nat) (names : List String) :
    List (String × Signature) :=
  names.map fun name => (name, { key := reportName name, least, most })

/-- Other names of a function, which report it all the same. -/
def synonyms (key : String) (least : Nat) (most : Option Nat) (names : List String) :
    List (String × Signature) :=
  names.map fun name => (name, { key, least, most })

/-- Functions of numbers. -/
def numberFunctions : List (String × Signature) :=
  functions 0 (some 3) ["RAND"]
  ++ synonyms "rand" 0 (some 3) ["RANDOM"]
  ++ functions 1 (some 1) ["ABS", "ACOS", "ASIN", "ATAN", "CBRT", "COS", "EXP", "FACTORIAL",
    "IS_INF", "IS_NAN", "LN", "SIGN", "SIN", "SQRT", "TAN"]
  ++ synonyms "isinf" 1 (some 1) ["ISINF"]
  ++ synonyms "isnan" 1 (some 1) ["ISNAN"]
  ++ synonyms "sign" 1 (some 1) ["SIGNUM"]
  ++ functions 1 (some 2) ["LOG"]
  ++ synonyms "log" 0 none ["LOG2", "LOG10"]
  ++ functions 1 (some 3) ["CEIL", "FLOOR", "ROUND"]
  ++ synonyms "ceil" 1 (some 3) ["CEILING"]
  ++ functions 2 none ["MOD"]
  ++ functions 2 (some 2) ["POW", "SAFE_DIVIDE"]
  ++ synonyms "pow" 2 (some 2) ["POWER"]

/-- Functions of texts. -/
def textFunctions : List (String × Signature) :=
  functions 0 (some 2) ["UUID"]
  ++ synonyms "uuid" 0 (some 2) ["GENERATE_UUID"]
  ++ functions 1 (some 1) ["FROM_BASE64", "HEX", "LOWER", "MD5", "REVERSE", "SHA", "SOUNDEX",
    "TO_BASE64", "UNICODE", "UPPER"]
  ++ synonyms "hex" 1 (some 1) ["TO_HEX"]
  ++ synonyms "lower" 1 (some 1) ["LCASE"]
  ++ synonyms "upper" 1 (some 1) ["UCASE"]
  ++ synonyms "sha" 1 (some 1) ["SHA1"]
  ++ functions 1 (some 2) ["INITCAP", "SHA2", "UNHEX"]
  ++ functions 1 (some 3) ["LENGTH", "PARSE_JSON", "STRING_TO_ARRAY", "SUBSTRING", "TO_CHAR"]
  ++ synonyms "length" 1 (some 3) ["LEN", "CHAR_LENGTH", "CHARACTER_LENGTH"]
  ++ synonyms "parsejson" 1 (some 3) ["JSON_PARSE"]
  ++ synonyms "stringtoarray" 1 (some 3) ["SPLIT_BY_STRING", "STRTOK_TO_ARRAY"]
  ++ synonyms "substring" 1 (some 3) ["SUBSTR"]
  ++ synonyms "trim" 1 (some 4) ["LTRIM", "RTRIM"]
  ++ functions 1 (some 5) ["TO_NUMBER"]
  ++ functions 1 (some 6) ["LEVENSHTEIN"]
  ++ functions 1 none ["CHR", "CONCAT", "CONCAT_WS", "MD5_DIGEST"]
  ++ synonyms "chr" 1 none ["CHAR"]
  ++ functions 2 (some 2) ["ENCODE", "ENDS_WITH", "LEFT", "REPEAT", "RIGHT", "STARTS_WITH"]
  ++ synonyms "endswith" 2 (some 2) ["ENDSWITH"]
  ++ synonyms "startswith" 2 (some 2) ["STARTSWITH"]
  ++ functions 2 (some 3) ["CONTAINS", "NUMBER_TO_STR", "REGEXP_LIKE", "REGEXP_SPLIT", "REPLACE",
    "SPLIT"]
  ++ functions 2 (some 4) ["STR_POSITION", "PAD"]
  ++ synonyms "pad" 2 (some 4) ["LPAD", "RPAD", "LEFTPAD", "RIGHTPAD"]
  ++ synonyms "strposition" 2 (some 4) ["STRPOS", "CHARINDEX", "INSTR", "LOCATE"]
  ++ functions 2 (some 6) ["REGEXP_EXTRACT", "REGEXP_REPLACE"]
  ++ functions 2 none ["JSON_EXTRACT", "JSON_EXTRACT_SCALAR"]
  ++ functions 3 (some 3) ["SPLIT_PART", "SUBSTRING_INDEX", "TRANSLATE"]
  ++ functions 4 (some 4) ["STUFF"]

/-- Functions of times. -/
def timeFunctions : List (String × Signature) :=
  functions 0 (some 1) ["CURRENT_DATE", "CURRENT_DATETIME", "CURRENT_TIME"]
  ++ functions 0 (some 2) ["CURRENT_TIMESTAMP", "STR_TO_UNIX", "TIME"]
  ++ functions 0 (some 4) ["TIMESTAMP"]
  ++ functions 0 none ["DATE"]
  ++ functions 1 (some 1) ["DATE_STR_TO_DATE", "DAY", "DAY_OF_MONTH", "DAY_OF_WEEK",
    "DAY_OF_YEAR", "HOUR", "MINUTE", "MONTH", "QUARTER", "SECOND", "TIME_STR_TO_DATE",
    "TIME_STR_TO_UNIX", "TIME_TO_UNIX", "TO_DAYS", "UNIX_DATE", "WEEK_OF_YEAR", "YEAR"]
  ++ synonyms "dayofmonth" 1 (some 1) ["DAYOFMONTH"]
  ++ synonyms "dayofweek" 1 (some 1) ["DAYOFWEEK"]
  ++ synonyms "dayofyear" 1 (some 1) ["DAYOFYEAR"]
  ++ synonyms "weekofyear" 1 (some 1) ["WEEKOFYEAR"]
  ++ functions 1 (some 2) ["DATETIME", "LAST_DAY", "TIME_STR_TO_TIME", "UNIX_TO_STR", "WEEK"]
  ++ synonyms "lastday" 1 (some 2) ["LAST_DAY_OF_MONTH"]
  ++ functions 1 (some 3) ["STR_TO_DATE", "TS_OR_DS_TO_DATE"]
  ++ functions 1 (some 6) ["UNIX_TO_TIME"]
  ++ functions 2 (some 2) ["ADD_MONTHS"]
  ++ functions 2 (some 3) ["DATE_ADD", "DATE_DIFF", "DATE_SUB", "DATE_TRUNC", "DATETIME_ADD",
    "DATETIME_DIFF", "DATETIME_SUB", "DATETIME_TRUNC", "MONTHS_BETWEEN", "TIME_ADD", "TIME_DIFF",
    "TIME_SUB", "TIME_TRUNC", "TIMESTAMP_ADD", "TIMESTAMP_DIFF", "TIMESTAMP_SUB",
    "TIMESTAMP_TRUNC"]
  ++ synonyms "datediff" 2 (some 3) ["DATEDIFF"]
  ++ synonyms "timestampdiff" 2 (some 3) ["TIMESTAMPDIFF"]
  ++ functions 2 (some 4) ["STR_TO_TIME", "TIME_TO_STR"]
  ++ functions 3 (some 3) ["DATE_FROM_PARTS"]
  ++ synonyms "datefromparts" 3 (some 3) ["DATEFROMPARTS"]

/-- Functions of groups and windows. -/
def groupFunctions : List (String × Signature) :=
  functions 0 (some 1) ["ROW_NUMBER"]
  ++ functions 0 none ["COUNT", "CUME_DIST", "DENSE_RANK", "NTILE", "PERCENT_RANK", "RANK"]
  ++ functions 1 (some 1) ["ANY_VALUE", "AVG", "COUNT_IF", "FIRST_VALUE", "LAST_VALUE",
    "LOGICAL_AND", "LOGICAL_OR", "MEDIAN", "STDDEV", "STDDEV_POP", "STDDEV_SAMP", "SUM",
    "VARIANCE", "VARIANCE_POP"]
  ++ synonyms "countif" 1 (some 1) ["COUNTIF"]
  ++ synonyms "logicaland" 1 (some 1) ["BOOL_AND", "BOOLAND_AGG"]
  ++ synonyms "logicalor" 1 (some 1) ["BOOL_OR", "BOOLOR_AGG"]
  ++ synonyms "stddev" 1 (some 1) ["STDEV"]
  ++ synonyms "variance" 1 (some 1) ["VARIANCE_SAMP", "VAR_SAMP"]
  ++ synonyms "variancepop" 1 (some 1) ["VAR_POP"]
  ++ functions 1 (some 2) ["APPROX_DISTINCT", "ARRAY_AGG", "FIRST", "LAST", "PERCENTILE_CONT",
    "PERCENTILE_DISC"]
  ++ synonyms "approxdistinct" 1 (some 2) ["APPROX_COUNT_DISTINCT"]
  ++ functions 1 (some 3) ["GROUP_CONCAT", "LAG", "LEAD"]
  ++ functions 1 none ["MAX", "MIN"]
  ++ functions 2 (some 2) ["CORR", "COVAR_POP", "COVAR_SAMP", "NTH_VALUE", "QUANTILE"]
  ++ functions 2 (some 3) ["ARG_MAX", "ARG_MIN"]
  ++ synonyms "argmax" 2 (some 3) ["ARGMAX", "MAX_BY"]
  ++ synonyms "argmin" 2 (some 3) ["ARGMIN", "MIN_BY"]
  ++ functions 2 (some 4) ["APPROX_QUANTILE"]

/-- Functions of arrays and maps. -/
def collectionFunctions : List (String × Signature) :=
  functions 0 none ["ARRAY", "LIST", "STRUCT"]
  ++ functions 0 (some 2) ["MAP"]
  ++ functions 1 (some 1) ["FLATTEN", "MAP_FROM_ENTRIES", "TO_ARRAY"]
  ++ functions 1 (some 2) ["ARRAY_SIZE", "ARRAY_SORT", "ARRAY_SUM", "SORT_ARRAY"]
  ++ synonyms "arraysize" 1 (some 2) ["ARRAY_LENGTH"]
  ++ functions 1 (some 4) ["STR_TO_MAP", "UNNEST"]
  ++ functions 1 none ["ARRAY_CONCAT", "EXPLODE", "EXPLODE_OUTER", "POSEXPLODE",
    "POSEXPLODE_OUTER"]
  ++ synonyms "arrayconcat" 1 none ["ARRAY_CAT"]
  ++ functions 2 (some 2) ["ARRAY_ALL", "ARRAY_ANY", "ARRAY_CONTAINS", "ARRAY_CONTAINS_ALL",
    "ARRAY_FILTER", "ARRAY_OVERLAPS", "TRANSFORM"]
  ++ synonyms "arraycontains" 2 (some 2) ["ARRAY_HAS"]
  ++ synonyms "arraycontainsall" 2 (some 2) ["ARRAY_HAS_ALL"]
  ++ synonyms "arrayfilter" 2 (some 2) ["FILTER"]
  ++ functions 2 (some 3) ["ARRAY_TO_STRING"]
  ++ synonyms "arraytostring" 2 (some 3) ["ARRAY_JOIN"]
  ++ functions 2 (some 4) ["GENERATE_SERIES"]
  ++ functions 2 none ["VAR_MAP"]
  ++ functions 3 (some 4) ["REDUCE"]

/-- Functions that choose among their arguments, and the rest. -/
def choiceFunctions : List (String × Signature) :=
  functions 0 (some 1) ["CURRENT_SCHEMA", "CURRENT_USER"]
  ++ functions 0 (some 3) ["XOR"]
  ++ functions 1 none ["COALESCE", "GREATEST", "LEAST"]
  ++ synonyms "coalesce" 1 none ["IFNULL", "NVL"]
  ++ functions 2 (some 2) ["NULLIF"]
  ++ functions 2 (some 3) ["IF", "NVL2"]
  ++ synonyms "if" 2 (some 3) ["IIF"]

/-- The known functions. -/
def knownFunctions : List (String × Signature) :=
  numberFunctions ++ textFunctions ++ timeFunctions ++ groupFunctions ++ collectionFunctions
    ++ choiceFunctions

/-- The function of a name in capitals, if it is known. -/
def knownFunction? (name : String) : Option Signature := knownFunctions.lookup name

end StatementShape.Sql
