import Prepared.Grammar.Query

/-!
# Changes of rows

Insertions, updates and deletions.
-/

namespace Prepared.Grammar

open Parse

/-- What a change answers with. -/
def returning (r : Rules) : Parse Unit := do
  if r.dialect != .snowflake then
    discard <| afterMark "RETURNING" do
      if (← listed (expression r)).isEmpty then fail
      if ← accept "INTO" then needTrue (tablePart r false)

def limitClause (r : Rules) : Parse Unit := do
  discard <| order r
  discard <| afterMark "LIMIT" (limit r)

def rowSource (r : Rules) : Parse (Option Form) := do
  match ← query r { nested := true } with
  | some f => return some (← modifiers r (← operators r f))
  | none => return none

def conflict (r : Rules) : Parse Unit := do
  let clashes ← acceptAll ["ON", "CONFLICT"]
  let doubles ← if clashes then pure false else acceptAll ["ON", "DUPLICATE", "KEY"]
  if clashes then
    if ← acceptAll ["ON", "CONSTRAINT"] then needTrue (anyName r.dialect)
    else if ← follows ["("] then
      keyParts r
      whereClause r
  if clashes || doubles then
    let updates ← acceptAny [["DO", "UPDATE"], ["UPDATE"]]
    if !(← pure updates <||> acceptAny
        [["DO", "NOTHING"], ["ABORT"], ["FAIL"], ["IGNORE"], ["REPLACE"], ["ROLLBACK"]]) then fail
    if updates then
      discard <| accept "SET"
      discard <| listed r.equality
      whereClause r

def partition (r : Rules) : Parse Unit := do
  if ← acceptOne ["PARTITION", "PARTITION BY"] then
    discard <| enclosed (listed (expression r))

def insert (r : Rules) : Parse Form := do
  discard <| accept "/*+"
  discard <| accept "OVERWRITE"
  if r.dialect == .mysql then discard <| accept "IGNORE"
  if ← accept "OR" then
    discard <| acceptOne ["ABORT", "FAIL", "IGNORE", "REPLACE", "ROLLBACK"]
  discard <| accept "INTO"
  discard <| accept "TABLE"
  if ← accept "FUNCTION" then needTrue (function r false)
  else
    needTrue (table r { hasColumns := true })
    partition r
    if ← follows ["AS"] then discard <| tableAlias r barredBehindTable
  returning r
  discard <| acceptAll ["BY", "NAME"]
  partition r
  discard <| acceptAll ["DEFAULT", "VALUES"]
  if !(← rows r) then discard <| rowSource r
  conflict r
  returning r
  return .insert

def update (r : Rules) : Parse Form := do
  discard <| accept "/*+"
  needTrue (table r { joins := true, barred := "SET" :: barredBehindTable })
  if ← accept "SET" then discard <| listed r.equality
  returning r
  if ← accept "FROM" then needTrue (table r { joins := true })
  whereClause r
  returning r
  limitClause r
  return .update

def delete (r : Rules) : Parse Form := do
  discard <| accept "/*+"
  if !(← follows ["FROM"]) then discard <| listed (found (table r {}))
  returning r
  if ← accept "FROM" then needTrue (table r { joins := true })
  if ← accept "USING" then discard <| listed (found (table r { joins := true }))
  whereClause r
  returning r
  limitClause r
  return .delete

end Prepared.Grammar
