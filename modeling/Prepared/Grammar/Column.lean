import Prepared.Grammar.Expression

/-!
# Columns

The columns of a table and what is said of them: types, defaults, keys and
other constraints. A list of columns is told from a query in parentheses by its
first word.
-/

namespace Prepared.Grammar

open Parse

def names (d : Dialect) : Parse Unit := discard <| enclosed (listed (found (name d)))

/-- What happens to a key, and when it is checked. -/
def keyOption : Parse Bool := do
  if ← accept "ON" then
    if !(← acceptOne ["DELETE", "UPDATE"]) then fail
    if !(← acceptAny
        [["NO", "ACTION"], ["CASCADE"], ["RESTRICT"], ["SET", "NULL"], ["SET", "DEFAULT"]]) then fail
    return true
  else
    acceptAny
      [["NOT", "ENFORCED"], ["DEFERRABLE"], ["INITIALLY", "DEFERRED"], ["NORELY"], ["RELY"], ["MATCH", "FULL"]]

def reference (r : Rules) : Parse Unit := do
  needTrue (r.table { hasColumns := true })
  many keyOption

def check (r : Rules) : Parse Unit := do
  discard <| need (enclosed (assignment r))
  discard <| acceptAny [["NOT", "ENFORCED"], ["ENFORCED"]]

def keyParts (r : Rules) : Parse Unit := do
  let part : Parse (Option Unit) := do
    match ← field r true with
    | some f => do
      discard <| columnEnding r f
      discard <| acceptOne ["ASC", "DESC"]
      return some ()
    | none => return none
  discard <| enclosed (listed part)

def generated (r : Rules) : Parse Unit := do
  if !(← acceptAny [["BY", "DEFAULT"], ["ALWAYS"]]) then fail
  discard <| accept "AS"
  if ← accept "IDENTITY" then
    if ← accept "(" then
      many do
        if ← acceptOne ["START", "START WITH", "INCREMENT", "BY", "WITH", "MINVALUE", "MAXVALUE", "CYCLE", "NO"]
          then return true
        else return (← r.bitwise).isSome
      expect ")"
  else
    discard <| enclosed r.condition
    discard <| acceptOne ["STORED", "VIRTUAL", "PERSISTED"]

/-- Words for the present moment, which need no parentheses. -/
def momentWords : List String := ["CURRENT_DATE", "CURRENT_TIME", "CURRENT_TIMESTAMP"]

def columnConstraint (r : Rules) : Parse Bool := do
  let before ← get
  let isNamed ← accept "CONSTRAINT"
  if isNamed then needTrue (anyName r.dialect)
  if ← acceptAll ["NOT", "NULL"] then return true
  else if ← acceptOne ["NULL", "AUTO_INCREMENT", "AUTOINCREMENT"] then return true
  else if ← accept "IDENTITY" then
    if ← accept "(" then
      discard <| listed r.bitwise
      expect ")"
    return true
  else if ← accept "DEFAULT" then
    discard <| need r.bitwise
    return true
  else if ← accept "PRIMARY KEY" then
    discard <| acceptOne ["ASC", "DESC"]
    if ← follows ["("] then keyParts r
    many keyOption
    return true
  else if ← accept "UNIQUE" then
    discard <| acceptOne ["KEY", "INDEX"]
    if ← follows ["("] then keyParts r
    many keyOption
    return true
  else if ← accept "CHECK" then
    check r
    return true
  else if ← accept "REFERENCES" then
    reference r
    return true
  else if ← acceptOne ["COLLATE", "CHARACTER SET", "ENCODE", "COMPRESS"] then
    discard <| need (field r true)
    return true
  else if ← acceptOne ["COMMENT", "FORMAT", "TITLE"] then
    needTrue acceptString
    return true
  else if ← accept "GENERATED" then
    generated r
    return true
  else if ← acceptAll ["ON", "UPDATE"] then
    needTrue (function r false <||> acceptOne momentWords)
    return true
  else
    set before
    return false

/-- A column: its name, its type, and what is said of it. Without either it is only a name. -/
def columnDefinition (r : Rules) (computed : Bool) (head : Parse (Option Form)) : Parse (Option Form) := do
  let f ← head
  if !computed then discard <| accept "AS"
  let typed ← r.typeName
  let valued ←
    if ← pure (computed && !typed) <&&> accept "AS" then do
      discard <| need r.condition
      discard <| acceptOne ["STORED", "VIRTUAL", "PERSISTED"]
      pure true
    else if ← pure typed <&&> accept "AS" then do
      discard <| need r.condition
      pure true
    else pure false
  let constrained ← columnConstraint r
  if constrained then many (columnConstraint r)
  return if typed || valued || constrained then some .column else f

def definedColumn (r : Rules) : Parse (Option Form) := columnDefinition r true (field r true)

/-- A column or a parameter that is only named, perhaps with its type. -/
def parameter (r : Rules) : Parse (Option Form) :=
  columnDefinition r false (termIf (anyName r.dialect))

/-- A table whose columns are taken over, and what else of it is. -/
def likeTable (r : Rules) : Parse Unit := do
  needTrue (r.table { hasColumns := true })
  many do if ← acceptOne ["INCLUDING", "EXCLUDING"] then anyName r.dialect else return false

def whereClause (r : Rules) : Parse Unit :=
  discard <| afterMark "WHERE" (discard <| need r.condition)

/-- A column of an index: how it is ordered, how it is compared, and by which operator it excludes. -/
def indexColumn (r : Rules) : Parse (Option Unit) := do
  match ← r.condition with
  | none => return none
  | some _ => do
    if !(← followsOne ["ASC", "DESC", "NULLS", "WITH", ",", ")"]) then needTrue (r.table { hasColumns := true })
    direction r
    if ← accept "WITH" then
      if (← upcoming).isNone then fail else skip
    return some ()

def indexColumns (r : Rules) : Parse Unit := do
  if ← accept "USING" then needTrue (anyName r.dialect)
  if ← follows ["("] then discard <| enclosed (listed (indexColumn r))
  if ← accept "INCLUDE" then names r.dialect
  if ← accept "WITH" then discard <| enclosed (listed r.condition)
  whereClause r
  if ← accept "ON" then discard <| field r false

def tableConstraint (r : Rules) : Parse Bool := do
  let isNamed ← accept "CONSTRAINT"
  if isNamed then needTrue (anyName r.dialect)
  if ← accept "CHECK" then
    check r
    return true
  else if ← accept "PRIMARY KEY" then
    keyParts r
    many keyOption
    return true
  else if ← accept "FOREIGN KEY" then
    names r.dialect
    if ← accept "REFERENCES" then reference r
    many keyOption
    return true
  else if ← accept "UNIQUE" then
    discard <| acceptOne ["KEY", "INDEX"]
    if !(← follows ["("]) then discard <| name r.dialect
    keyParts r
    many keyOption
    return true
  else if ← accept "LIKE" then
    likeTable r
    return true
  else if ← accept "EXCLUDE" then
    indexColumns r
    return true
  else if ← pure (r.dialect == .mysql) <&&> acceptOne ["FULLTEXT", "INDEX", "KEY", "SPATIAL"] then
    discard <| acceptOne ["INDEX", "KEY"]
    if !(← follows ["("]) then discard <| name r.dialect
    keyParts r
    return true
  else return isNamed

/-- The columns of a table, unless the parenthesis belongs to a query. -/
def columns (r : Rules) : Parse Bool := do
  let before ← get
  if !(← accept "(") then return false
  if ← followsOne ["(", "WITH", "SELECT"] then
    set before
    return false
  let item : Parse (Option Form) := do
    if ← tableConstraint r then return some .column else definedColumn r
  discard <| listed item
  expect ")"
  return true

end Prepared.Grammar
