import Prepared.Value.Display
import Prepared.Value.Equality

/-!
# Effects

What a statement that returns no rows has done. Two effects are equal when
their numbers are, whatever query they come from.
-/

namespace Prepared

open Number

/-- Servers answer with whatever they like, so neither number is bound to be one. -/
structure Effect where
  lastInsertedId : Value := .null
  rowsAffected : Value := .int 0
  sql : Option String := none

namespace Effect

def equal (a b : Effect) : Except Incomparable Bool := do
  if ← a.lastInsertedId.equal b.lastInsertedId then a.rowsAffected.equal b.rowsAffected
  else return false

def description (e : Effect) : Except Overlong String := do
  let id ← e.lastInsertedId.description
  let rows ← e.rowsAffected.plain
  return "EffectResult(last_inserted_id=" ++ String.ofList id ++ ", rows_affected=" ++ String.ofList rows ++ ")"

end Effect
end Prepared
