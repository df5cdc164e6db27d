import Prepared.Grammar.Definition

/-!
# Statements

A statement is told by its first word; without such a word it is a query or a
value. Of statements that concern only the server it is enough to know that
they are of that kind.
-/

namespace Prepared.Grammar

open Parse

/-- Statements that do nothing this library has a name for, whatever follows. -/
def otherStatements : Dialect → List String
  | .mysql => "EXPLAIN" :: "START" :: shared
  | .sqlite | .duckdb => "ATTACH" :: "DETACH" :: shared
  | .tsql => "EXEC" :: "EXECUTE" :: shared
  | .bigquery => "BEGIN TRANSACTION" :: shared
  | .oracle => "START" :: shared
  | _ => shared
where
  shared : List String :=
    ["ANALYZE", "BEGIN", "CACHE", "COMMIT", "COPY", "DESC", "DESCRIBE", "KILL", "MERGE", "PIVOT", "PRAGMA",
      "ROLLBACK", "UNCACHE", "UNPIVOT", "USE"]

def truncate (r : Rules) : Parse Form := do
  if ← follows ["("] then
    discard <| enclosed (listed (argument r true))
    return .term
  else
    discard <| accept "DATABASE"
    discard <| accept "TABLE"
    discard <| acceptAll ["IF", "EXISTS"]
    discard <| listed (found (table r { hasColumns := true }))
    discard <| place r
    discard <| acceptAny [["RESTART", "IDENTITY"], ["CONTINUE", "IDENTITY"]]
    discard <| acceptOne ["CASCADE", "RESTRICT"]
    partition r
    if (← upcoming).isSome then handOver else return .other

def assignedSetting (r : Rules) : Parse Bool := do
  let before ← get
  if ← acceptOne ["GLOBAL", "LOCAL", "SESSION"] then
    if ← accept "TRANSACTION" then
      rest
      return true
  match ← column r with
  | some _ =>
    if ← acceptOne ["=", ":=", "TO"] <||> pure (r.dialect == .tsql) then
      match ← r.statement with
      | some _ => return true
      | none =>
        needTrue (anyName r.dialect)
        return true
  | none => pure ()
  set before
  return false

def settings (r : Rules) : Parse Form := do
  let shared := ["TRANSACTION"]
  let words := if r.dialect == .mysql then "NAMES" :: "CHARSET" :: "CHARACTER SET" :: shared else shared
  if ← followsOne words then
    rest
    return .other
  else
    discard <| listed (found (assignedSetting r))
    if (← upcoming).isSome then handOver else return .other

def comment (r : Rules) : Parse Form := do
  discard <| acceptAll ["IF", "EXISTS"]
  discard <| accept "ON"
  discard <| accept "MATERIALIZED"
  match ← definable? r.dialect with
  | none => handOver
  | some _ =>
    rest
    return .other

/-- Rights are known by their object and by who gets or loses them. -/
def grant (r : Rules) (towards : String) : Parse Form := do
  let right : Parse (Option Unit) := do
    many do
      if ← followsOne [",", "ON", "("] then return false
      let more := (← upcoming).isSome
      if more then skip
      return more
    if ← follows ["("] then discard <| enclosed (listed (column r))
    return some ()
  discard <| listed right
  discard <| accept "ON"
  discard <| definable? r.dialect
  if !(← attempt (tableName r false) <&&> accept towards) then handOver
  else
    discard <| listed (do
      discard <| acceptOne ["ROLE", "GROUP"]
      found (name r.dialect))
    if towards == "TO" then discard <| acceptAll ["WITH", "GRANT", "OPTION"]
    else discard <| acceptOne ["CASCADE", "RESTRICT"]
    if (← upcoming).isSome then handOver else return .other

def wholeTable (r : Rules) : Parse Form := do
  needTrue (tableName r false)
  operators r (← modifiers r .select)

def showing (r : Rules) : Parse Form := do
  let known ← followsOne r.dialect.exhibits
  rest
  return if known then .other else .command

/-- A value or a query, and what may follow it. -/
def bare (r : Rules) : Parse (Option Form) := do
  let f ← match ← expression r with
    | some f => some <$> operators r f
    | none => query r {}
  match f with
  | some f => return some (← modifiers r f)
  | none => return none

def statement (r : Rules) : Parse (Option Form) := do
  let before ← get
  match before with
  | .word w :: ts =>
    let d := r.dialect
    set ts
    match w with
    | "INSERT" => some <$> insert r
    | "UPDATE" => some <$> update r
    | "DELETE" => some <$> delete r
    | "CREATE" => some <$> create r
    | "DROP" => some <$> drop r
    | "ALTER" => some <$> alter r
    | "TRUNCATE" => some <$> truncate r
    | "SET" => some <$> settings r
    | "COMMENT" => some <$> comment r
    | "GRANT" => some <$> grant r "TO"
    | "REVOKE" => some <$> grant r "FROM"
    | "LOAD" =>
      let known ← follows ["DATA"]
      rest
      return some (if known then .other else .command)
    | "SHOW" =>
      if d.exhibits.isEmpty then some <$> handOver else some <$> showing r
    | w =>
      if d.commands.contains w then some <$> handOver
      else if (otherStatements d).contains w then
        rest
        return some .other
      else
        set before
        if w == "TABLE" && (ts.head?).any (· matches .word _ | .name) then
          skip
          some <$> wholeTable r
        else bare r
  | _ => bare r

/-- The rules for what is nested at most `n` steps deep. -/
def rules (d : Dialect) : Nat → Rules
  | 0 =>
    { dialect := d, unary := fail, bitwise := fail, equality := fail, condition := fail, typeName := fail
      query := fun _ => fail, modifiers := fun _ => fail, operators := fun _ => fail, table := fun _ => fail
      joins := fail, statement := fail }
  | n + 1 =>
    let r := rules d n
    { dialect := d
      unary := unary r
      bitwise := bitwise r
      equality := equality r
      condition := condition r
      typeName := return (← typeExtent r d.hasCustomTypes).isSome
      query := query r
      modifiers := modifiers r
      operators := operators r
      table := table r
      joins := join r
      statement := statement r }

/-- Every way from one rule to another but three takes a token. -/
def depthFor (ts : List Token) : Nat := 4 * ts.length + 8

/-- Does the first word hand everything after it to the server? -/
def isCommand (d : Dialect) (ts : List Token) : Bool :=
  match ts with
  | .word "IF" :: .symbol "(" :: _ => false
  | .word w :: _ => d.commands.contains w || (w == "IF" && d != .tsql)
  | _ => false

/-- Splits off the part before the first semicolon. -/
def firstPart (ts : List Token) : List Token × List Token :=
  ts.span fun t => t != .symbol ";"

/-- The one statement that the tokens are, semicolons at its end aside. -/
def readTokens (d : Dialect) (ts : List Token) : Except Halt Form :=
  let (part, more) := firstPart ts
  if !(more.all (· == .symbol ";")) then .error .unreadable
  else if isCommand d part then .ok .command
  else
    match (statement (rules d (depthFor part))).run part with
    | .ok (some f, []) => .ok f
    | .ok _ => .error .unreadable
    | .error e => .error e

end Prepared.Grammar
