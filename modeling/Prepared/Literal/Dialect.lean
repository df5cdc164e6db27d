import Prepared.Config
import Prepared.Text.Similarity

/-!
# Dialects

The SQL dialects that literals are written in and statements are read in, and
the settings that name them. All of them quote with single quotes. Some double
a quote inside, the others put a backslash before it.
-/

namespace Prepared

open Text

/-- Why a setting names no dialect: there is none of the name, or the setting is no text. -/
inductive DialectError
  | unknown (name : String)
  | notText (shown typeName : String)
  | overlong (e : Number.Overlong)
deriving DecidableEq, Repr

inductive Dialect
  | generic
  | postgres
  | sqlite
  | duckdb
  | oracle
  | tsql
  | mysql
  | clickhouse
  | bigquery
  | snowflake
  | spark
deriving DecidableEq, Repr

namespace Dialect

def name : Dialect → String
  | .generic => ""
  | .postgres => "postgres"
  | .sqlite => "sqlite"
  | .duckdb => "duckdb"
  | .oracle => "oracle"
  | .tsql => "tsql"
  | .mysql => "mysql"
  | .clickhouse => "clickhouse"
  | .bigquery => "bigquery"
  | .snowflake => "snowflake"
  | .spark => "spark"

def all : List Dialect :=
  [.generic, .postgres, .sqlite, .duckdb, .oracle, .tsql, .mysql, .clickhouse, .bigquery, .snowflake, .spark]

/-- Dialects that are known by name only, and the ones that they write like. -/
def relatives : List (String × Dialect) :=
  [("athena", .generic), ("databricks", .spark), ("doris", .mysql), ("dremio", .generic), ("drill", .generic),
    ("druid", .generic), ("dune", .generic), ("exasol", .generic), ("fabric", .tsql), ("hive", .spark),
    ("materialize", .postgres), ("presto", .generic), ("prql", .generic), ("redshift", .snowflake),
    ("risingwave", .postgres), ("singlestore", .mysql), ("solr", .generic), ("spark2", .spark),
    ("starrocks", .mysql), ("tableau", .generic), ("teradata", .generic), ("trino", .generic)]

def known : List (String × Dialect) := all.map (fun d => (d.name, d)) ++ relatives

/-- Blanks around a name do not count. -/
def ofName? (s : String) : Option Dialect := known.lookup (String.ofList (trim s.toList))

def suggestion? (s : String) : Option String := closest? (known.map (·.1)) s.toList

/-- The name in a setting; what may follow it after a comma does not change how literals are written. -/
def nameIn (setting : String) : String := String.ofList (setting.toList.takeWhile (· != ','))

end Dialect

def DialectError.failure : DialectError → Failure
  | .unknown name =>
    let hint := (Dialect.suggestion? name).elim "" fun s => s!" Did you mean {s}?"
    .foreign .value (s!"Unknown dialect '{name}'." ++ hint)
  | .notText shown typeName => .foreign .value s!"Invalid dialect type for '{shown}': '<class '{typeName}'>'."
  | .overlong e => .overlong e

namespace Dialect

/-- The name of a type, with the module that it is from. -/
def qualifiedName : Value → String
  | .typed .. => "sqlprep.parameters.types.TypedParameter"
  | v => v.typeName

/-- The dialect that a setting names; nothing, and whatever counts as nothing, is
the generic one. -/
def ofSetting (setting : Value) : Except DialectError Dialect :=
  if setting.truthy then
    match setting with
    | .text s => (ofName? (nameIn s)).elim (.error (.unknown (nameIn s))) .ok
    | v =>
      match v.plain with
      | .ok shown => .error (.notText (String.ofList shown) (qualifiedName v))
      | .error e => .error (.overlong e)
  else .ok .generic

def doublesQuote : Dialect → Bool
  | .bigquery | .snowflake | .spark => false
  | _ => true

def hasEscapes : Dialect → Bool
  | .mysql | .clickhouse | .bigquery | .snowflake | .spark => true
  | _ => false

end Dialect
end Prepared
