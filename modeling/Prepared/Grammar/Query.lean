import Prepared.Grammar.Column

/-!
# Queries

Selections, the tables that they read, and the operators that combine whole
queries. An intersection binds more tightly than a union or a difference.
-/

namespace Prepared.Grammar

open Parse

/-! ## Tables -/

def tablePart (r : Rules) (hasColumns : Bool) : Parse Bool := do
  if ← pure (!hasColumns) <&&> call r false then return true
  nameOrString r.dialect

def tableName (r : Rules) (hasColumns : Bool) : Parse Bool := do
  if !(← tablePart r hasColumns) then return false
  many do
    if ← accept "." then
      discard <| tablePart r hasColumns
      return true
    else return false
  return true

def tableAlias (r : Rules) (barred : List String) : Parse Bool := do
  if ← startsLimit r then return false
  let d := r.dialect
  let renamed ←
    if ← accept "AS" then anyName d
    else do
      if ← nameBut d barred then pure true else acceptString
  let before ← get
  if ← accept "(" then
    if (← listed (parameter r)).isEmpty then
      set before
      return renamed
    else
      expect ")"
      return true
  else return renamed

/-- The values of a column that become columns, or the columns that become values. -/
def pivotColumns (r : Rules) : Parse Bool := do
  let item : Parse (Option Unit) := do
    let value ← match ← r.query {} with
      | some f => pure (some f)
      | none => r.condition
    discard <| accept "AS"
    discard r.bitwise
    return value.map fun _ => ()
  if (← column r).isNone then return false
  expect "IN"
  if ← accept "(" then
    if ← accept "ANY" then discard <| order r else discard <| listed item
    expect ")"
  else needTrue (name r.dialect)
  return true

def pivot (r : Rules) : Parse Bool := do
  let before ← get
  let turnsRows ← accept "PIVOT"
  if !(← pure turnsRows <||> accept "UNPIVOT") then return false
  if !turnsRows then discard <| acceptAny [["INCLUDE", "NULLS"], ["EXCLUDE", "NULLS"]]
  if !(← accept "(") then
    set before
    return false
  let items ← if turnsRows then listed (named r (termIf (function r false))) else listed (column r)
  if items.isEmpty then fail
  expect "FOR"
  many (attempt (pivotColumns r))
  if ← acceptAll ["DEFAULT", "ON", "NULL"] then discard <| enclosed r.bitwise
  expect ")"
  if !(← followsOne ["PIVOT", "UNPIVOT"]) then discard <| tableAlias r barredBehindTable
  return true

/-- The moment in the past at which a table is looked at. -/
def moment (r : Rules) : Parse Unit := do
  let before ← get
  if ← acceptOne ["AT", "BEFORE", "END"] then
    let kinds := ["OFFSET", "STATEMENT", "STREAM", "TIMESTAMP", "VERSION"]
    if ← accept "(" <&&> acceptOne kinds <&&> accept "=>" then
      discard <| need r.bitwise
      expect ")"
    else set before

/-- A table by its name, as it is now or was, and as it is or turned. -/
def tableReference (r : Rules) (hasColumns : Bool) : Parse Bool := do
  let found ← tableName r hasColumns
  if found then
    moment r
    many (pivot r)
  return found

def version (r : Rules) : Parse Unit := do
  if ← acceptOne ["FOR SYSTEM_TIME", "FOR TIMESTAMP", "FOR VERSION"] then
    if ← acceptOne ["FROM", "BETWEEN"] then
      discard <| need r.bitwise
      discard <| acceptOne ["TO", "AND"]
      discard <| need r.bitwise
    else if ← acceptAll ["CONTAINED", "IN"] then discard <| enclosed (listed r.bitwise)
    else if !(← accept "ALL") then
      discard <| acceptAll ["AS", "OF"]
      discard <| operand r

def indexHintWords : List String := ["FORCE", "IGNORE", "USE"]

def indexHint (r : Rules) : Parse Bool := do
  let hinted ← pure (r.dialect == .mysql) <&&> acceptOne indexHintWords
  if hinted then
    discard <| acceptOne ["INDEX", "KEY"]
    discard <| afterMark "FOR" (needTrue (anyName r.dialect))
    names r.dialect
  return hinted

def row (r : Rules) : Parse (Option Unit) := do
  if ← accept "(" then
    let items ← listed (expression r)
    expect ")"
    if items.isEmpty && r.dialect == .clickhouse then throw .emptyRow
    return some ()
  else return (← expression r).map fun _ => ()

def rows (r : Rules) : Parse Bool := do
  let wrapped ← acceptAll ["(", "VALUES"]
  if !(← pure wrapped <||> accept "VALUES") then return false
  if (← listed (row r)).isEmpty then fail
  if wrapped then expect ")"
  discard <| tableAlias r barredBehindTable
  return true

/-- The items of a value as rows. -/
def unnest (r : Rules) : Parse Bool := do
  if !(← follows ["UNNEST", "("]) then return false
  skip
  discard <| enclosed (listed r.equality)
  discard <| acceptAll ["WITH", "ORDINALITY"]
  discard <| tableAlias r barredBehindTable
  if ← acceptAll ["WITH", "OFFSET"] then
    discard <| accept "AS"
    discard <| name r.dialect
  return true

/-- A table that is made anew for every row of the tables before it. -/
def lateral (r : Rules) : Parse Bool := do
  let applied ← acceptAny [["CROSS", "APPLY"], ["OUTER", "APPLY"]]
  if !(← pure applied <||> accept "LATERAL") then return false
  let view ← if applied then pure false else accept "VIEW"
  if view then discard <| accept "OUTER"
  match ← r.query { table := true } with
  | some _ => pure ()
  | none =>
    needTrue (unnest r <||> function r false <||> name r.dialect)
  if view then
    discard <| name r.dialect
    if ← accept "AS" then discard <| listed (found (name r.dialect))
  else discard <| tableAlias r barredBehindTable
  return true

def sample (r : Rules) : Parse Bool := afterMark "TABLESAMPLE" do
  if !(← follows ["("]) then discard <| anyName r.dialect
  expect "("
  discard <| listed r.bitwise
  discard <| acceptOne ["PERCENT", "ROWS"]
  expect ")"

def namedTable (r : Rules) (shape : TableShape) : Parse Unit := do
  if ← acceptAll ["ROWS", "FROM"] then discard <| enclosed (listed (found (r.table {})))
  else
    discard <| accept "ONLY"
    needTrue (tableReference r shape.hasColumns)
    discard <| accept "*"
  if shape.hasColumns then discard <| columns r
  else
    version r
    discard <| sample r
    discard <| tableAlias r (if r.dialect == .mysql then indexHintWords ++ shape.barred else shape.barred)
    if ← acceptAll ["WITH", "("] then
      discard <| listed (argument r true)
      expect ")"
    else many (indexHint r)
    many (pivot r)
    discard <| sample r
  if shape.joins then many r.joins
  if ← acceptAll ["WITH", "ORDINALITY"] then discard <| tableAlias r barredBehindTable

def table (r : Rules) (shape : TableShape) : Parse Bool := do
  if ← lateral r then return true
  else if ← unnest r then return true
  else if ← rows r then return true
  else if (← r.query { table := true }).isSome then
    many (pivot r)
    if shape.joins then many r.joins
    return true
  else
    namedTable r shape
    return true

/-- A join with the tables before it. A comma alone may stand at the end. -/
def join (r : Rules) : Parse Bool := do
  if ← accept "," then attempt (r.table {})
  else
    let before ← get
    let method ← acceptOne ["ASOF", "NATURAL"]
    discard <| acceptOne ["LEFT", "RIGHT", "FULL"]
    let crossing ← follows ["CROSS"]
    let straight ← follows ["STRAIGHT_JOIN"]
    discard <| acceptOne ["ANTI", "CROSS", "INNER", "OUTER", "SEMI", "STRAIGHT_JOIN"]
    let joined := (← accept "JOIN") || straight
    if !joined then set before
    let applied ← follows ["CROSS", "APPLY"] <||> follows ["OUTER", "APPLY"]
    if !joined && !applied then return false
    needTrue (r.table {})
    if ← accept "ON" then discard r.condition
    else if ← accept "USING" then discard <| enclosed (listed (column r))
    else if !method && !applied && !crossing then
      let before ← get
      let deeper ← r.joins
      if deeper then many r.joins
      if ← pure deeper <&&> accept "ON" then discard r.condition
      else if ← pure deeper <&&> accept "USING" then discard <| enclosed (listed (column r))
      else set before
    return true

/-! ## Clauses -/

/-- The rows of a query, in groups. -/
def grouping (r : Rules) : Parse (Option Unit) := do
  if ← acceptOne ["ROLLUP", "CUBE", "GROUPING SETS"] then
    if ← follows ["("] then discard <| enclosed (listed (expression r))
    return some ()
  else return (← r.condition).map fun _ => ()

def limit (r : Rules) : Parse Unit := do
  discard <| need (sum r)
  discard <| accept "PERCENT"
  if ← accept "," then discard <| need (sum r)
  if ← accept "BY" then discard <| listed r.bitwise

def fetch (r : Rules) : Parse Unit := do
  discard <| acceptOne ["FIRST", "NEXT"]
  if !(← followsOne ["ROW", "ROWS"]) then discard <| field r false
  discard <| accept "PERCENT"
  discard <| acceptOne ["ROW", "ROWS"]
  discard <| acceptAny [["ONLY"], ["WITH", "TIES"]]

/-- What the rows are kept for while they are read. -/
def lock (r : Rules) : Parse Bool := do
  let locked ← acceptAny
    [["FOR", "UPDATE"], ["FOR", "SHARE"], ["FOR", "NO", "KEY", "UPDATE"], ["FOR", "KEY", "SHARE"],
      ["LOCK", "IN", "SHARE", "MODE"]]
  if locked then
    if ← accept "OF" then discard <| listed (found (r.table {}))
    if ← accept "WAIT" then discard <| need r.unary
    else discard <| acceptAny [["NOWAIT"], ["SKIP", "LOCKED"]]
  return locked

def namedWindow (r : Rules) : Parse (Option Unit) := do
  if !(← name r.dialect) then return none
  discard <| accept "AS"
  expect "("
  if !(← followsOne ["ROWS", "RANGE", "PARTITION BY"]) then discard <| name r.dialect
  windowFrame r
  expect ")"
  return some ()

def clause (r : Rules) : Parse (Option String) := do
  if ← accept "WHERE" then
    discard <| need r.condition
    return some "WHERE"
  else if ← accept "GROUP BY" then
    discard <| acceptOne ["ALL", "DISTINCT"]
    discard <| listed (grouping r)
    discard <| acceptAny [["WITH", "ROLLUP"], ["WITH", "CUBE"], ["WITH", "TOTALS"]]
    return some "GROUP BY"
  else if ← accept "HAVING" then
    discard <| need r.condition
    return some "HAVING"
  else if ← accept "QUALIFY" then
    discard <| need r.condition
    return some "QUALIFY"
  else if ← accept "WINDOW" then
    discard <| listed (namedWindow r)
    return some "WINDOW"
  else if ← order r then return some "ORDER BY"
  else if ← acceptOne ["CLUSTER BY", "DISTRIBUTE BY", "SORT BY"] then
    discard <| listed (ordered r)
    return some "SORT BY"
  else if ← accept "LIMIT" then
    limit r
    return some "LIMIT"
  else if ← accept "FETCH" then
    fetch r
    return some "LIMIT"
  else if ← accept "OFFSET" then
    discard <| need (sum r)
    discard <| acceptOne ["ROW", "ROWS"]
    return some "OFFSET"
  else if ← acceptOne ["START WITH", "CONNECT BY"] then
    discard <| accept "NOCYCLE"
    discard <| need r.condition
    return some "CONNECT BY"
  else if ← sample r then return some "TABLESAMPLE"
  else if ← lock r then
    many (lock r)
    return some "FOR"
  else return none

/-- The clauses of a query, each at most once. -/
def clauses (r : Rules) : Nat → (seen : List String) → Parse Unit
  | 0, _ => return
  | n + 1, seen => do
    match ← clause r with
    | some c => if seen.contains c then fail else clauses r n (c :: seen)
    | none => return

/-- What may follow a query or rows: joins, and clauses. -/
def modifiers (r : Rules) (f : Form) : Parse Form := do
  if f.isQuery || f == .rows then
    many (join r)
    many (lateral r)
    clauses r (← get).length []
  return f

/-! ## Operators on queries -/

/-- How rows that occur in both queries count, and how columns are matched. -/
def qualifier (r : Rules) (operator : String) : Parse Unit := do
  if !(← acceptOne ["DISTINCT", "ALL"]) && r.dialect.mustQualify operator then fail
  if ← acceptAny [["BY", "NAME"], ["CORRESPONDING"], ["STRICT", "CORRESPONDING"]] then
    if ← acceptOne ["ON", "BY"] then names r.dialect

def rightQuery (r : Rules) (operator : String) : Parse Unit := do
  qualifier r operator
  discard <| need (r.query { nested := true, operators := false })

def intersections (r : Rules) (f : Form) : Parse Form := do
  let next := afterMark "INTERSECT" (rightQuery r "INTERSECT")
  if ← next then
    many next
    return .difference
  else return f

def operatorsFrom (r : Rules) : Nat → Form → Parse Form
  | 0, f => return f
  | n + 1, f => do
    if ← accept "UNION" then
      rightQuery r "UNION"
      discard <| intersections r .select
      operatorsFrom r n .union
    else if ← acceptOne r.dialect.differences then
      rightQuery r "EXCEPT"
      discard <| intersections r .select
      operatorsFrom r n .difference
    else return f

def operators (r : Rules) (f : Form) : Parse Form := do
  operatorsFrom r (← get).length (← intersections r f)

/-! ## Selections -/

def tableExpression (r : Rules) : Parse Unit := do
  if ← follows ["("] then fail
  needTrue (tableAlias r [])
  if ← acceptAll ["USING", "KEY"] then names r.dialect
  if r.dialect == .clickhouse then expect "AS" else discard <| accept "AS"
  discard <| acceptAny [["NOT", "MATERIALIZED"], ["MATERIALIZED"]]
  discard <| need (enclosed r.statement)

/-- A table expression, or a value with a name where those are of the same kind. -/
def commonExpression (r : Rules) : Parse Unit := do
  if r.dialect == .clickhouse then
    if !(← attempt (do tableExpression r; return true)) then
      discard <| need (assignment r)
      expect "AS"
      needTrue (name r.dialect)
  else tableExpression r

def tableExpressions (r : Rules) : Parse Unit := do
  discard <| accept "RECURSIVE"
  commonExpression r
  many do
    if ← acceptOne [",", "WITH"] then
      discard <| accept "WITH"
      commonExpression r
      return true
    else return false

def withTables (r : Rules) : Parse Form := do
  tableExpressions r
  let f ← need r.statement
  if f.takesTables then return f else fail

def selectionModes : List String :=
  ["HIGH_PRIORITY", "SQL_BIG_RESULT", "SQL_BUFFER_RESULT", "SQL_CALC_FOUND_ROWS", "SQL_NO_CACHE",
    "SQL_SMALL_RESULT", "STRAIGHT_JOIN"]

def selection (r : Rules) (hasSource : Bool) : Parse Unit := do
  discard <| accept "/*+"
  let ts ← get
  if (ts[1]?).any (· != .symbol ".") then
    let all ← accept "ALL"
    if ← accept "DISTINCT" then
      if all then fail
      if ← accept "ON" then discard <| row r
  if ← accept "AS" then discard <| acceptOne ["STRUCT", "VALUE"]
  if r.dialect == .mysql then many (acceptOne selectionModes)
  if r.dialect.hasTop then
    if ← accept "TOP" then
      if ← accept "(" then
        discard <| need (sum r)
        expect ")"
      else needTrue acceptNumber
      discard <| acceptAny [["PERCENT"], ["WITH", "TIES"]]
  discard <| listed (expression r)
  if ← accept "INTO" then
    discard <| accept "TEMPORARY"
    discard <| accept "UNLOGGED"
    discard <| accept "TABLE"
    needTrue (table r { hasColumns := true })
  if !hasSource then
    if ← accept "FROM" then needTrue (table r {})

/-- A query in parentheses, or a table where one may stand. -/
def enclosedQuery (r : Rules) (shape : QueryShape) : Parse Unit := do
  let f ←
    if ← accept "FROM" then do
      needTrue (r.table { joins := true })
      if ← accept "SELECT" then selection r true
      pure (some .select)
    else if shape.table then do
      needTrue (r.table {})
      pure (some .subquery)
    else r.query { nested := true, operators := false }
  match f with
  | some f => discard <| modifiers r (← operators r f)
  | none => pure ()
  expect ")"

/-- A query that begins with the rows that it reads. -/
def source (r : Rules) : Parse Bool := afterMark "FROM" (needTrue (table r {}))

/-- A selection, its source alone, or rows that are written out. -/
def plainQuery (r : Rules) : Parse (Option Form) := do
  let hasSource ← source r
  if ← accept "SELECT" then
    selection r hasSource
    return some (← modifiers r .select)
  else if hasSource then return some (← modifiers r .select)
  else if ← follows ["VALUES"] then
    discard <| rows r
    return some .rows
  else return none

def query (r : Rules) (shape : QueryShape) : Parse (Option Form) := do
  if ← accept "WITH" then return some (← withTables r)
  else if ← pure (shape.nested || shape.table) <&&> accept "(" then
    enclosedQuery r shape
    if shape.table then discard <| tableAlias r barredBehindTable
    return some .subquery
  else
    match ← plainQuery r with
    | some f => if shape.operators then return some (← operators r f) else return some f
    | none => return none

end Prepared.Grammar
