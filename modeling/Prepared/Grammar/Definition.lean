import Prepared.Grammar.Change

/-!
# Definitions

Statements that create, drop and alter what a database is made of. Where the
rest of one is not understood it is handed over as it is; only a beginning that
cannot be read stops the reading.
-/

namespace Prepared.Grammar

open Parse

def handOver : Parse Form := do
  rest
  return .command

def definable? (d : Dialect) : Parse (Option String) := do
  match ← get with
  | .word w :: ts =>
    if d.definable.contains w then
      set ts
      return some w
    else return none
  | _ => return none

/-! ## Properties -/

def bareProperties : List (List String) :=
  [["TEMP"], ["TEMPORARY"], ["EXTERNAL"], ["MATERIALIZED"], ["GLOBAL"], ["UNLOGGED"], ["TRANSIENT"], ["VOLATILE"],
    ["SECURE"], ["STRICT"], ["DETERMINISTIC"], ["IMMUTABLE"], ["STABLE"], ["STREAMING"], ["ICEBERG"],
    ["MULTISET"], ["SET"], ["DYNAMIC"], ["HEAP"], ["NO", "PRIMARY", "INDEX"], ["CONTAINS", "SQL"],
    ["READS", "SQL", "DATA"], ["MODIFIES", "SQL", "DATA"], ["SQL", "SECURITY", "DEFINER"],
    ["SQL", "SECURITY", "INVOKER"], ["ON", "COMMIT", "PRESERVE", "ROWS"], ["ON", "COMMIT", "DELETE", "ROWS"],
    ["WITH", "DATA"], ["WITH", "NO", "DATA"], ["CALLED", "ON", "NULL", "INPUT"],
    ["RETURNS", "NULL", "ON", "NULL", "INPUT"], ["COPY", "GRANTS"]]

def sequenceProperties : List (List String) :=
  [["NO", "CYCLE"], ["NO", "CACHE"], ["NO", "MINVALUE"], ["NO", "MAXVALUE"], ["CYCLE"], ["SESSION"], ["KEEP"],
    ["ORDER"], ["NOCYCLE"], ["NOCACHE"], ["NOMINVALUE"], ["NOMAXVALUE"], ["NOKEEP"], ["NOORDER"], ["NOSCALE"],
    ["NOSHARD"], ["SCALE", "EXTEND"], ["SCALE", "NOEXTEND"], ["SHARD", "EXTEND"], ["SHARD", "NOEXTEND"]]

def valuedProperties : List (List String) :=
  [["ALGORITHM"], ["AUTO_INCREMENT"], ["CHARACTER SET"], ["CHARSET"], ["COLLATE"], ["COMMENT"], ["DEFINER"],
    ["DISTKEY"], ["DISTSTYLE"], ["ENGINE"], ["EXECUTE", "AS"], ["FORMAT"], ["INCREMENT", "BY"], ["INCREMENT"],
    ["LANGUAGE"], ["LOCATION"], ["MAXVALUE"], ["MINVALUE"], ["OWNED", "BY"], ["ROW_FORMAT"], ["SAMPLE", "BY"],
    ["START WITH"], ["START"], ["USING"]]

def listProperties : List String :=
  ["CLUSTER BY", "INHERITS", "OPTIONS", "PARTITION BY", "PARTITIONED BY", "PRIMARY KEY", "PROPERTIES", "SORTKEY",
    "TBLPROPERTIES", "WITH"]

def valueOfProperty (r : Rules) : Parse Unit := do
  discard <| accept "="
  discard <| accept "AS"
  match ← r.bitwise with
  | some _ => return
  | none => needTrue (anyName r.dialect)

def propertyItem (r : Rules) : Parse (Option Unit) := do
  match ← definedColumn r with
  | some _ => do
    discard <| afterMark "=" (valueOfProperty r)
    return some ()
  | none => return none

def partitionBound (r : Rules) : Parse Unit := do
  let bound := enclosed (listed r.bitwise)
  if ← accept "DEFAULT" then return
  else if ← acceptAll ["FOR", "VALUES", "IN"] then discard bound
  else if ← acceptAll ["FOR", "VALUES", "FROM"] then
    discard bound
    expect "TO"
    discard bound
  else if ← acceptAll ["FOR", "VALUES", "WITH", "(", "MODULUS"] then
    needTrue acceptNumber
    expect ","
    expect "REMAINDER"
    needTrue acceptNumber
    expect ")"
  else fail

/-- How the rows of a table are laid out in a file, by the marks between their parts. -/
def delimiters : Parse Unit :=
  many do
    let marked ← acceptAny
      [["FIELDS", "TERMINATED", "BY"], ["ESCAPED", "BY"], ["COLLECTION", "ITEMS", "TERMINATED", "BY"],
        ["MAP", "KEYS", "TERMINATED", "BY"], ["LINES", "TERMINATED", "BY"], ["NULL", "DEFINED", "AS"]]
    if marked then needTrue acceptString
    return marked

/-- Where and how the rows of a table are kept. -/
def storage (r : Rules) : Parse Bool := do
  if ← accept "STORED" then
    if ← accept "BY" then needTrue (nameOrString r.dialect)
    else
      discard <| accept "AS"
      let input ← afterMark "INPUTFORMAT" (needTrue acceptString)
      let output ← afterMark "OUTPUTFORMAT" (needTrue acceptString)
      if !input && !output then needTrue (nameOrString r.dialect)
    return true
  else if ← acceptAll ["ROW", "FORMAT", "SERDE"] then
    needTrue acceptString
    if ← acceptAll ["WITH", "SERDEPROPERTIES"] then discard <| enclosed (listed (propertyItem r))
    return true
  else if ← acceptAll ["ROW", "FORMAT"] then
    discard <| accept "DELIMITED"
    delimiters
    return true
  else if ← acceptAll ["CLUSTERED", "BY"] then
    discard <| enclosed (listed (column r))
    if ← acceptAll ["SORTED", "BY"] then discard <| enclosed (listed (ordered r))
    discard <| accept "INTO"
    discard acceptNumber
    discard <| accept "BUCKETS"
    return true
  else return false

/-- How long rows are kept, and what becomes of them then. -/
def lifetime (r : Rules) : Parse Bool := afterMark "TTL" do
  let item : Parse (Option Form) := do
    let age ← r.bitwise
    if ← accept "RECOMPRESS" then discard <| need r.bitwise
    else if ← acceptAny [["TO", "DISK"], ["TO", "VOLUME"]] then needTrue acceptString
    else discard <| accept "DELETE"
    return age
  discard <| listed item
  whereClause r

/-- Where a definition holds: in a cluster, or in a part of the storage. -/
def place (r : Rules) : Parse Bool := afterMark "ON" do
  if ← pure (r.dialect == .clickhouse) <&&> accept "CLUSTER" then needTrue (nameOrString r.dialect)
  else
    needTrue (anyName r.dialect)
    discard <| columns r

def property (r : Rules) : Parse Bool := do
  let before ← get
  discard <| accept "DEFAULT"
  if ← acceptAny bareProperties then return true
  else if ← acceptAny sequenceProperties then return true
  else if ← accept "CACHE" then
    discard acceptNumber
    return true
  else if ← pure (r.dialect == .oracle) <&&> acceptAny [["FORCE"], ["PRIVATE"]] then return true
  else if ← storage r <||> lifetime r then return true
  else if ← accept "SETTINGS" then
    discard <| listed (assignment r)
    return true
  else if ← accept "TO" then r.table {}
  else if ← acceptAny valuedProperties then
    valueOfProperty r
    return true
  else if ← acceptOne listProperties then
    if ← follows ["("] then
      discard <| enclosed (listed (propertyItem r))
      return true
    else if (← expression r).isSome then return true
    else
      set before
      return false
  else if ← accept "ORDER BY" then
    discard <| need (expression r)
    return true
  else if ← accept "LIKE" then
    likeTable r
    return true
  else if ← acceptAll ["PARTITION", "OF"] then
    needTrue (r.table { hasColumns := true })
    partitionBound r
    return true
  else if ← place r then return true
  else if ← accept "RETURNS" then
    if ← accept "TABLE" then needTrue (columns r) else needTrue r.typeName
    return true
  else
    set before
    match ← column r with
    | some _ =>
      if ← accept "=" then
        valueOfProperty r
        return true
    | none => pure ()
    set before
    return false

def properties (r : Rules) : Parse Bool := do
  let some ← property r
  if some then
    many do
      discard <| accept ","
      property r
  return some

/-! ## Creating -/

def argumentDefinition (r : Rules) : Parse (Option Form) := do
  let f ← parameter r
  if r.dialect == .tsql then
    if ← accept "=" then discard <| need r.condition
    discard <| acceptOne ["OUT", "OUTPUT", "READONLY"]
  return f

def signature (r : Rules) (isProcedure : Bool) : Parse Unit := do
  needTrue (tableName r true)
  if ← accept "(" then
    discard <| listed (argumentDefinition r)
    expect ")"
  else if r.dialect == .tsql && isProcedure then
    if !(← followsOne ["AS", "WITH"]) then discard <| listed (argumentDefinition r)

/-- Text between doubled dollar signs where those are no quotes. -/
def dollarText : Parse Bool := do
  let found ← acceptAll ["$", "$"]
  if found then
    many do
      let more := (← upcoming).isSome && !(← follows ["$", "$"])
      if more then skip
      return more
    if !(← acceptAll ["$", "$"]) then fail
  return found

def functionBody (r : Rules) : Parse Unit := do
  discard <| properties r
  discard <| accept "AS"
  let quoted ← dollarText
  discard <| properties r
  if quoted then return
  discard <| accept "BEGIN"
  discard <| accept "RETURN"
  if ← acceptString then discard <| properties r else discard r.statement
  discard <| accept "END"

def index (r : Rules) : Parse Unit := do
  if !(← accept "ON") then
    needTrue (anyName r.dialect)
    discard <| accept "ON"
  discard <| accept "TABLE"
  needTrue (tableName r true)
  indexColumns r

def trigger (r : Rules) : Parse Unit := do
  needTrue (tableName r true)
  if ← acceptAny [["BEFORE"], ["AFTER"], ["INSTEAD", "OF"]] then
    let event : Parse Bool := do
      let named ← acceptOne ["INSERT", "UPDATE", "DELETE", "TRUNCATE"]
      if ← pure named <&&> accept "OF" then discard <| listed (found (name r.dialect))
      return named
    if ← event then many do if ← accept "OR" then event else return false
    if ← accept "ON" then needTrue (tableName r true)
    if ← accept "FOR" then
      discard <| accept "EACH"
      discard <| acceptOne ["ROW", "STATEMENT"]
    if ← accept "WHEN" then discard <| enclosed (need r.condition)
    if ← accept "EXECUTE" then
      if ← acceptOne ["FUNCTION", "PROCEDURE"] then discard <| function r false

/-- A type: a choice of strings, or a list of parts. -/
def customType (r : Rules) : Parse Unit := do
  needTrue (tableName r true)
  if ← accept "AS" then
    if ← acceptOne ["ENUM", "RANGE"] then discard <| enclosed (listed r.equality)
    else discard <| columns r

/-- A table or anything that is named like one, and what fills it. -/
def tableLike (r : Rules) (kind : String) : Parse Unit := do
  needTrue (tableName r true)
  discard <| accept ","
  discard <| columns r
  discard <| properties r
  let filled ← accept "AS"
  if !(← followsOne ["SELECT", "WITH", "("]) then discard <| properties r
  let source ← rowSource r
  if source.isNone && filled then discard <| attempt (tableName r true)
  if kind == "TABLE" || kind == "SEQUENCE" then discard <| properties r
  if kind == "VIEW" then discard <| acceptAll ["WITH", "NO", "SCHEMA", "BINDING"]
  discard <| accept "SHALLOW"
  if ← acceptOne ["CLONE", "COPY"] then needTrue (r.table { hasColumns := true })

def create (r : Rules) : Parse Form := do
  discard <| acceptAny [["OR", "REPLACE"], ["OR", "ALTER"], ["OR", "REFRESH"]]
  discard <| accept "UNIQUE"
  discard <| acceptAny [["CLUSTERED", "COLUMNSTORE"], ["NONCLUSTERED", "COLUMNSTORE"], ["COLUMNSTORE"]]
  if ← follows ["TABLE", "FUNCTION"] then skip
  let kind ← match ← definable? r.dialect with
    | some kind => pure (some kind)
    | none => if ← properties r then definable? r.dialect else pure none
  match kind with
  | none => handOver
  | some kind =>
    discard <| accept "CONCURRENTLY"
    discard <| acceptAll ["IF", "NOT", "EXISTS"]
    match kind with
    | "FUNCTION" | "MACRO" | "PROCEDURE" | "PROC" =>
      signature r (kind == "PROCEDURE" || kind == "PROC")
      functionBody r
    | "INDEX" => index r
    | "TRIGGER" => trigger r
    | "TYPE" => customType r
    | "COLUMN" | "CONSTRAINT" | "FOREIGN KEY" => if (← upcoming).isNone then fail
    | kind => tableLike r kind
    if (← upcoming).isSome && !(← followsOne [")", ","]) then handOver else return .create

/-! ## Dropping and altering -/

def drop (r : Rules) : Parse Form := do
  discard <| acceptOne ["TEMP", "TEMPORARY"]
  discard <| acceptOne ["MATERIALIZED", "ICEBERG"]
  match ← definable? r.dialect with
  | none => handOver
  | some kind =>
    discard <| accept "CONCURRENTLY"
    discard <| acceptAll ["IF", "EXISTS"]
    if kind == "COLUMN" then discard <| need (column r) else needTrue (tableName r true)
    discard <| place r
    if ← follows ["("] then discard <| enclosed (listed (found r.typeName))
    discard <| accept "CASCADE"
    discard <| accept "CONSTRAINTS"
    discard <| accept "PURGE"
    discard <| accept "RESTRICT"
    return .drop

def addedColumn (r : Rules) : Parse Bool := do
  let before ← get
  discard <| accept "COLUMN"
  discard <| acceptAll ["IF", "NOT", "EXISTS"]
  if (← definedColumn r) == some .column then
    if ← accept "AFTER" then discard <| need (column r) else discard <| accept "FIRST"
    return true
  else
    set before
    return false

def addsConstraint : Parse Bool :=
  followsOne ["CONSTRAINT", "FOREIGN KEY", "INDEX", "KEY", "PRIMARY KEY", "UNIQUE"]

/-- What is added to a table; nothing if there is none of it. -/
def addition (r : Rules) : Parse Bool := do
  if !(← addsConstraint) && (← pure (!r.dialect.repeatsAdd) <||> accept "COLUMNS") then
    if ← columns r then return true
    else return !(← listed (found (addedColumn r))).isEmpty
  else
    let constraint : Parse (Option Unit) := do
      if ← tableConstraint r then
        many (columnConstraint r)
        return some ()
      else fail
    let first ← if ← addsConstraint then constraint else found (addedColumn r)
    let more ← listedMore (do
      if ← accept "ADD" then if ← addsConstraint then constraint else found (addedColumn r)
      else if ← addsConstraint then constraint
      else return none) (← get).length
    return first.isSome || !more.isEmpty

def columnAlteration (r : Rules) : Parse Bool := do
  discard <| accept "COLUMN"
  discard <| need (field r true)
  if ← acceptAny [["DROP", "DEFAULT"], ["DROP", "NOT", "NULL"], ["SET", "NOT", "NULL"], ["SET", "VISIBLE"],
      ["SET", "INVISIBLE"]] then return true
  else if ← acceptAll ["SET", "DEFAULT"] then
    discard <| need r.condition
    return true
  else if ← accept "COMMENT" then acceptString
  else
    discard <| acceptAll ["SET", "DATA"]
    discard <| accept "TYPE"
    let typed ← r.typeName
    if ← accept "COLLATE" then discard <| need r.bitwise
    if ← accept "USING" then discard <| need r.condition
    return typed

/-- What is dropped from a table: something definable, or whatever the server understands. -/
def removal (r : Rules) : Parse Bool := do
  if ← follows ["PARTITION"] then
    discard <| listed (do
      if ← accept "PARTITION" then
        discard <| enclosed (listed (expression r))
        return some ()
      else return none)
    return true
  else
    discard <| drop r
    discard <| listedMore (do if ← accept "DROP" then some <$> drop r else return none) (← get).length
    return true

def renamed (r : Rules) : Parse Bool := do
  if ← accept "COLUMN" then
    discard <| acceptAll ["IF", "EXISTS"]
    let old ← column r
    let marked ← accept "TO"
    let new ← column r
    return old.isSome && marked && new.isSome
  else
    discard <| accept "TO"
    needTrue (table r { hasColumns := true })
    return true

def setting (r : Rules) : Parse Unit := do
  if ← acceptAny [["LOGGED"], ["UNLOGGED"], ["WITHOUT", "CLUSTER"], ["WITHOUT", "OIDS"]] then return
  else if ← acceptAny
      [["TABLESPACE"], ["LOCATION"], ["ACCESS", "METHOD"], ["FILE", "FORMAT"], ["FILE FORMAT"], ["FILEFORMAT"]] then
    discard <| field r false
  else if ← follows ["("] <||> acceptAll ["TABLE", "PROPERTIES"] then
    discard <| enclosed (listed (assignment r))
  else if ← acceptOne ["TAG", "TAGS"] then discard <| listed (assignment r)
  else
    if ← accept "SERDE" then discard <| field r false
    discard <| properties r

def columnChange (r : Rules) : Parse Bool := do
  discard <| accept "COLUMN"
  discard <| need (field r true)
  discard <| need (field r true)
  needTrue r.typeName
  if ← accept "COMMENT" then needTrue acceptString
  return true

def replacedPart (r : Rules) : Parse Bool := do
  if ← accept "PARTITION" then
    if ← accept "ID" then needTrue acceptString else discard <| listed (expression r)
    if ← accept "FROM" then
      needTrue (tableName r false)
      return true
  return false

/-- What is done to a table, by its first word; something has to follow that. -/
def alteration (r : Rules) (w : String) : Parse Bool := do
  match w with
  | "ADD" => addition r
  | "ALTER" => columnAlteration r
  | "MODIFY" => if r.dialect == .mysql then columnAlteration r else return false
  | "AS" => return (← query r {}).isSome
  | "CHANGE" => if r.dialect == .spark then columnChange r else return false
  | "CLUSTER BY" =>
    discard <| enclosed (listed (ordered r))
    return true
  | "DELETE" =>
    whereClause r
    return true
  | "DROP" => removal r
  | "RENAME" => renamed r
  | "REPLACE" => if r.dialect == .clickhouse then replacedPart r else return false
  | "SET" =>
    setting r
    return true
  | "SWAP" =>
    discard <| accept "WITH"
    needTrue (table r { hasColumns := true })
    return true
  | "UNSET" =>
    if r.dialect == .snowflake then
      discard <| accept "TAG"
      return !(← listed (found (name r.dialect))).isEmpty
    else return false
  | _ => return false

def sessionAlteration (r : Rules) : Parse Form := do
  if ← accept "SET" then discard <| listed (r.equality)
  else
    expect "UNSET"
    discard <| listed (found (name r.dialect))
  return .alter

def alterationEnding (r : Rules) : Parse Unit := do
  discard <| acceptAll ["NOT", "VALID"]
  discard <| listed (found (property r))
  if r.dialect == .spark then discard <| accept "CASCADE"

def alter (r : Rules) : Parse Form := do
  if ← accept "SESSION" then sessionAlteration r
  else if !(← acceptAny [["TABLE"], ["ICEBERG", "TABLE"], ["VIEW"], ["INDEX"]]) then handOver
  else
    discard <| acceptAll ["IF", "EXISTS"]
    discard <| accept "ONLY"
    needTrue (table r { hasColumns := true })
    discard <| acceptAll ["WITH", "CHECK"]
    discard <| place r
    match ← get with
    | .word w :: t :: ts =>
      set (t :: ts)
      if ← alteration r w then
        alterationEnding r
        if (← upcoming).isNone then return .alter else handOver
      else handOver
    | _ => handOver

end Prepared.Grammar
