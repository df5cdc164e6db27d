import Prepared.Literal.Dialect

/-!
# Words

The words that the grammar knows, and what each of them can be besides itself:
a name, the name of a function, a type, a kind of object to define. All words
are in capitals; a phrase of several words counts as one.
-/

namespace Prepared.Grammar

def reservedWords : List String :=
  ["ALTER", "ANALYZE", "AND", "AS", "BETWEEN", "CHARACTER SET", "CLUSTER BY", "CONNECT BY", "CREATE", "CROSS",
    "DISTINCT", "DISTRIBUTE BY", "DROP", "ELSE", "EXCEPT", "FETCH", "FOR", "FROM", "GLOB", "GRANT", "GROUP BY",
    "GROUPING SETS", "HAVING", "ILIKE", "IN", "INNER", "INSERT", "INTERSECT", "INTO", "JOIN", "LATERAL", "LIKE",
    "NOT", "NOTNULL", "ON", "OR", "ORDER BY", "OUTER", "OVER", "PARTITION BY", "PARTITIONED BY", "PRIMARY KEY",
    "QUALIFY", "REGEXP", "RETURNING", "REVOKE", "RLIKE", "ROLLBACK", "SELECT", "SIMILAR TO", "SORT BY",
    "START WITH", "STRAIGHT_JOIN", "TABLESAMPLE", "THEN", "UNCACHE", "UNION", "USING", "VALUES", "WHEN", "WHERE",
    "WITH", "XOR"]

/-- Words with a meaning of their own that may also be names. -/
def softWords : List String :=
  ["ALL", "ANTI", "ANY", "APPLY", "ASC", "ASOF", "AUTOINCREMENT", "AUTO_INCREMENT", "BEGIN", "CACHE", "CALL",
    "CASE", "COLLATE", "COLUMN", "COMMENT", "COMMIT", "CONSTRAINT", "COPY", "CUBE", "CURRENT_DATE",
    "CURRENT_SCHEMA", "CURRENT_TIME", "CURRENT_TIMESTAMP", "CURRENT_USER", "DATABASE", "DEFAULT", "DELETE",
    "DESC", "DESCRIBE", "DIV", "END", "ESCAPE", "EXECUTE", "EXISTS", "EXPLAIN", "FALSE", "FILTER", "FIRST",
    "FOREIGN KEY", "FORMAT", "FULL", "FUNCTION", "INDEX", "IS", "ISNULL", "KEEP", "KILL", "LEFT", "LIMIT", "LOAD",
    "LOCK", "MERGE", "NAMESPACE", "NATURAL", "NEXT", "OFFSET", "OPERATOR", "OPTIMIZE", "ORDINALITY", "OVERLAPS",
    "OVERWRITE", "PARTITION", "PERCENT", "PIVOT", "PRAGMA", "PREPARE", "PROCEDURE", "RANGE", "RECURSIVE",
    "REFERENCES", "RENAME", "REPLACE", "RIGHT", "ROLLUP", "ROW", "ROWS", "SCHEMA", "SEMI", "SEQUENCE", "SESSION",
    "SET", "SETTINGS", "SHOW", "SOME", "TABLE", "TEMP", "TEMPORARY", "TRIGGER", "TRUE", "TRUNCATE", "UNIQUE",
    "UNNEST", "UNPIVOT", "UPDATE", "USE", "VACUUM", "VIEW", "VOLATILE", "WINDOW"]

def nestingTypes : List String := ["ARRAY", "LIST", "MAP", "NULLABLE", "OBJECT", "RANGE", "STRUCT"]

def typeWords : List String :=
  nestingTypes ++
    ["BIGDECIMAL", "BIGINT", "BIGNUMERIC", "BINARY", "BIT", "BLOB", "BOOL", "BOOLEAN", "BPCHAR", "BYTE", "BYTEA",
      "CHAR", "CHAR VARYING", "CHARACTER", "CHARACTER VARYING", "CLOB", "DATE", "DATETIME", "DEC", "DECIMAL",
      "DOUBLE", "DOUBLE PRECISION", "ENUM", "FIXED", "FLOAT", "FLOAT4", "FLOAT8", "GEOGRAPHY", "GEOMETRY",
      "HUGEINT", "INET", "INT", "INT1", "INT16", "INT2", "INT32", "INT4", "INT64", "INT8", "INTEGER", "INTERVAL",
      "JSON", "JSONB", "LONG", "LONGBLOB", "LONGTEXT", "LONGVARCHAR", "MEDIUMBLOB", "MEDIUMINT", "MEDIUMTEXT",
      "NCHAR", "NULL", "NUMBER", "NUMERIC", "NVARCHAR", "NVARCHAR2", "REAL", "SHORT", "SMALLINT", "STR", "STRING",
      "TEXT", "TIME", "TIMESTAMP", "TIMESTAMPLTZ", "TIMESTAMPNTZ", "TIMESTAMPTZ", "TIMESTAMP_LTZ",
      "TIMESTAMP_NTZ", "TIMETZ", "TINYBLOB", "TINYINT", "TINYTEXT", "UINT", "UNKNOWN", "UUID", "VARBINARY",
      "VARCHAR", "VARCHAR2", "VARIANT", "VECTOR"]

def isMomentType (w : String) : Bool :=
  ["TIME", "TIMETZ", "TIMESTAMP", "TIMESTAMPTZ", "TIMESTAMPLTZ", "TIMESTAMP_LTZ"].contains w

def isUnit (w : String) : Bool :=
  ["YEAR", "QUARTER", "MONTH", "WEEK", "DAY", "HOUR", "MINUTE", "SECOND", "MILLISECOND", "MICROSECOND",
    "NANOSECOND"].any fun u => w == u || w == u ++ "S"

/-- Words besides ordinary names and types that may be called as functions. -/
def callableWords : List String :=
  ["ALL", "ANY", "CALL", "COLLATE", "CURRENT_DATE", "CURRENT_SCHEMA", "CURRENT_TIME", "CURRENT_TIMESTAMP",
    "CURRENT_USER", "EXISTS", "EXPLAIN", "FILTER", "FIRST", "FORMAT", "GLOB", "ILIKE", "INDEX", "INSERT",
    "ISNULL", "LEFT", "LIKE", "MERGE", "NEXT", "OFFSET", "OPTIMIZE", "PREPARE", "PRIMARY KEY", "RANGE", "REGEXP",
    "REPLACE", "RIGHT", "RLIKE", "ROW", "SEQUENCE", "SOME", "TABLE", "TRUNCATE", "UNNEST", "VACUUM", "WINDOW",
    "XOR"]

/-- Functions that take a fixed number of arguments: the least, and the most if there is one. -/
def arities : List (String × Nat × Option Nat) :=
  [("ABS", 1, some 1), ("AVG", 1, some 1), ("CEIL", 1, some 3), ("COALESCE", 1, none), ("COUNT", 0, none),
    ("EXP", 1, some 1), ("FLOOR", 1, some 3), ("GREATEST", 1, none), ("INITCAP", 1, some 2), ("LEAST", 1, none),
    ("LENGTH", 1, some 3), ("LN", 1, some 1), ("LOWER", 1, some 1), ("MAX", 1, none), ("MIN", 1, none),
    ("NULLIF", 2, some 2), ("POWER", 2, some 2), ("ROUND", 1, some 3), ("SIGN", 1, some 1), ("SQRT", 1, some 1),
    ("SUM", 1, some 1), ("UPPER", 1, some 1)]

def sharedPhrases : List (String × String) :=
  [("CHAR", "VARYING"), ("CHARACTER", "SET"), ("CHARACTER", "VARYING"), ("CLUSTER", "BY"), ("CONNECT", "BY"),
    ("DISTRIBUTE", "BY"), ("DOUBLE", "PRECISION"), ("FOREIGN", "KEY"), ("GROUP", "BY"), ("GROUPING", "SETS"),
    ("FOR", "TIMESTAMP"), ("FOR", "VERSION"), ("ORDER", "BY"), ("PARTITION", "BY"), ("PARTITIONED", "BY"),
    ("PRIMARY", "KEY"), ("SIMILAR", "TO"), ("SORT", "BY"), ("START", "WITH")]

end Grammar

namespace Dialect

def phrases (d : Dialect) : List (String × String) :=
  Grammar.sharedPhrases ++ match d with
    | .mysql => [("LOCK", "TABLES"), ("SIGNED", "INTEGER"), ("UNLOCK", "TABLES"), ("UNSIGNED", "INTEGER")]
    | .postgres => [("CONSTRAINT", "TRIGGER")]
    | .bigquery => [("ANY", "TYPE"), ("BEGIN", "TRANSACTION"), ("FOR", "SYSTEM_TIME")]
    | .tsql => [("FOR", "SYSTEM_TIME"), ("UPDATE", "STATISTICS")]
    | .spark => [("ADD", "FILE"), ("ADD", "FILES"), ("ADD", "JAR"), ("ADD", "JARS"), ("MSCK", "REPAIR")]
    | .snowflake => [("FILE", "FORMAT")]
    | _ => []

/-- Words that hand everything after them to the server when a statement begins with them. -/
def commands : Dialect → List String
  | .mysql =>
    ["CALL", "EXECUTE", "FETCH", "LOCK TABLES", "OPTIMIZE", "PREPARE", "RENAME", "REPLACE", "UNLOCK TABLES",
      "VACUUM"]
  | .tsql =>
    ["CALL", "EXPLAIN", "FETCH", "GO", "OPTIMIZE", "PREPARE", "PRINT", "RENAME", "SHOW", "UPDATE STATISTICS",
      "VACUUM"]
  | d =>
    ["CALL", "EXECUTE", "EXPLAIN", "FETCH", "OPTIMIZE", "PREPARE", "RENAME", "VACUUM"] ++ match d with
      | .duckdb => ["RESET"]
      | .snowflake => ["REMOVE", "RM"]
      | .sqlite => ["REPLACE", "SHOW"]
      | .postgres =>
        ["CONSTRAINT TRIGGER", "DECLARE", "DO", "EXEC", "REFRESH", "REINDEX", "RESET", "SHOW"]
      | .bigquery => ["BEGIN", "ELSEIF", "EXCEPTION", "LOOP", "REPEAT", "SHOW", "WHILE"]
      | .spark => ["ADD FILE", "ADD FILES", "ADD JAR", "ADD JARS", "MSCK REPAIR", "SHOW"]
      | _ => ["SHOW"]

/-- What can be shown by a dialect that looks into such statements. -/
def exhibits : Dialect → List String
  | .mysql =>
    ["BINARY", "BINLOG", "CHARACTER SET", "CHARSET", "COLLATION", "COLUMNS", "CREATE", "DATABASES", "ENGINE",
      "ENGINES", "ERRORS", "EVENTS", "FULL", "FUNCTION", "GLOBAL", "GRANTS", "INDEX", "MASTER", "OPEN", "PLUGINS",
      "PRIVILEGES", "PROCEDURE", "PROCESSLIST", "PROFILE", "PROFILES", "RELAYLOG", "REPLICA", "REPLICAS",
      "SCHEMAS", "SESSION", "SLAVE", "STATUS", "STORAGE", "TABLE", "TABLES", "TRIGGERS", "VARIABLES", "WARNINGS"]
  | .snowflake =>
    ["COLUMNS", "FUNCTIONS", "IMPORTED", "OBJECTS", "PRIMARY", "PROCEDURES", "SCHEMAS", "SEQUENCES", "STAGES",
      "TABLES", "TERSE", "UNIQUE", "USERS", "VIEWS", "WAREHOUSES"]
  | .duckdb => ["ALL", "TABLES"]
  | _ => []

/-- Does the word begin a query that another is taken away from? -/
def differences : Dialect → List String
  | .oracle | .snowflake => ["EXCEPT", "MINUS"]
  | _ => ["EXCEPT"]

def reserves (d : Dialect) (w : String) : Bool :=
  match d, w with
  | .snowflake, "RETURNING" => false
  | .bigquery, "VALUES" => false
  | d, w => Grammar.reservedWords.contains w || d.differences.contains w

def ownTypes : Dialect → List String
  | .mysql => ["SET", "SIGNED", "SIGNED INTEGER", "UNSIGNED", "UNSIGNED INTEGER", "YEAR"]
  | .postgres =>
    ["BIGSERIAL", "CSTRING", "DATERANGE", "HSTORE", "INT4RANGE", "INT8RANGE", "MONEY", "NUMRANGE", "OID", "POINT",
      "REGCLASS", "REGPROC", "REGTYPE", "SERIAL", "SMALLSERIAL", "TSRANGE", "TSTZRANGE", "XML"]
  | .bigquery => ["ANY TYPE", "BYTEINT", "BYTES", "FLOAT64", "RECORD"]
  | .snowflake => ["BYTEINT", "DECFLOAT", "SQL_DOUBLE", "SQL_VARCHAR", "TIMESTAMP_TZ"]
  | .clickhouse =>
    ["AGGREGATEFUNCTION", "BFLOAT16", "DATE32", "DATETIME64", "DECIMAL128", "DECIMAL256", "DECIMAL32", "DECIMAL64",
      "DYNAMIC", "ENUM16", "ENUM8", "FIXEDSTRING", "FLOAT32", "FLOAT64", "INT128", "INT256", "IPV4", "IPV6",
      "LINESTRING", "LOWCARDINALITY", "MULTILINESTRING", "MULTIPOLYGON", "NESTED", "NOTHING", "POINT", "POLYGON",
      "RING", "SIMPLEAGGREGATEFUNCTION", "TUPLE", "UINT128", "UINT16", "UINT256", "UINT32", "UINT64", "UINT8"]
  | .tsql =>
    ["DATETIME2", "DATETIMEOFFSET", "IMAGE", "MONEY", "NTEXT", "ROWVERSION", "SMALLDATETIME", "SMALLMONEY",
      "SQL_VARIANT", "UNIQUEIDENTIFIER", "XML"]
  | _ => []

def isType (d : Dialect) (w : String) : Bool := Grammar.typeWords.contains w || d.ownTypes.contains w

def hasCustomTypes : Dialect → Bool
  | .mysql | .bigquery | .snowflake | .clickhouse | .spark => false
  | _ => true

def isKeyword (d : Dialect) (w : String) : Bool :=
  d.reserves w || Grammar.softWords.contains w || d.isType w || d.commands.contains w

def definable (d : Dialect) : List String :=
  ["COLUMN", "CONSTRAINT", "DATABASE", "FOREIGN KEY", "FUNCTION", "INDEX", "NAMESPACE", "PROCEDURE", "SCHEMA",
    "SEQUENCE", "TABLE", "TRIGGER", "VIEW"] ++ match d with
    | .postgres => ["TYPE"]
    | .duckdb => ["MACRO"]
    | .tsql => ["PROC"]
    | .clickhouse => ["DICTIONARY"]
    | .bigquery => ["MODEL"]
    | .snowflake => ["FILE FORMAT", "STAGE", "STREAMLIT", "TAG", "WAREHOUSE"]
    | _ => []

def nestsComments : Dialect → Bool
  | .mysql | .sqlite | .bigquery | .snowflake => false
  | _ => true

def lineMarks : Dialect → List String
  | .mysql | .bigquery | .clickhouse => ["--", "#"]
  | .snowflake => ["--", "//"]
  | _ => ["--"]

def stringMarks : Dialect → List Char
  | .mysql | .bigquery | .spark => ['\'', '"']
  | _ => ['\'']

def stringLetters : Dialect → List Char
  | .mysql => ['b', 'B', 'n', 'N', 'x', 'X']
  | .postgres => ['b', 'B', 'e', 'E', 'n', 'N', 'x', 'X']
  | .bigquery => ['b', 'B', 'r', 'R']
  | .spark => ['r', 'R', 'x', 'X']
  | .sqlite | .clickhouse | .snowflake => ['n', 'N', 'x', 'X']
  | _ => ['n', 'N']

/-- Letters that may stand between a zero and the digits of a number in base sixteen or two. -/
def baseLetters : Dialect → List Char
  | .mysql | .postgres | .clickhouse => ['b', 'B', 'x', 'X']
  | .sqlite | .bigquery | .snowflake | .spark | .tsql => ['x', 'X']
  | _ => []

def nameMarks : Dialect → List (Char × Char)
  | .mysql | .bigquery | .spark => [(backtick, backtick)]
  | .sqlite => [('"', '"'), ('[', ']'), (backtick, backtick)]
  | .tsql => [('[', ']'), ('"', '"')]
  | .clickhouse => [('"', '"'), (backtick, backtick)]
  | _ => [('"', '"')]
where
  backtick : Char := Char.ofNat 0x60

/-- Signs that do not end a word once it has begun. -/
def wordSigns : Dialect → List Char
  | .postgres | .snowflake | .clickhouse => ['$']
  | .oracle | .tsql => ['$', '@', '#']
  | _ => []

def hasDollarMarkers : Dialect → Bool
  | .postgres | .duckdb | .snowflake | .clickhouse => true
  | _ => false

/-- May a string stand between two dollar signs, with a word in between on both sides? -/
def hasDollarQuotes : Dialect → Bool
  | .postgres | .duckdb | .snowflake | .clickhouse => true
  | _ => false

/-- Does a selection know how to take the first rows only? -/
def hasTop : Dialect → Bool
  | .oracle | .snowflake | .tsql => true
  | _ => false

/-- May a string name a selected value without a word in between? -/
def namesByString : Dialect → Bool
  | .mysql | .spark | .sqlite | .tsql => true
  | _ => false

/-- Must the operator say whether equal rows are kept? -/
def mustQualify : Dialect → (operator : String) → Bool
  | .bigquery, _ => true
  | .clickhouse, operator => operator == "UNION"
  | _, _ => false

/-- Does every added column repeat the word that adds it? -/
def repeatsAdd : Dialect → Bool
  | .oracle | .snowflake | .tsql | .spark => false
  | _ => true

end Prepared.Dialect
