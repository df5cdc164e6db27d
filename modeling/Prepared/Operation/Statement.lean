import Prepared.Grammar.Statement
import Prepared.Literal.Write
import Prepared.Operation.Keyword

/-!
# What a statement does

The operation of a template, told by the statement that it is. A statement that
cannot be read, or does nothing that has a name of its own, is judged by its
first word.
-/

namespace Prepared

namespace Grammar

def Form.operation? : Form → Option Operation
  | .select | .union => some .select
  | .insert => some .insert
  | .update => some .update
  | .delete => some .delete
  | .create | .drop | .alter => some .definition
  | .command => some .execute
  | _ => none

end Grammar

namespace Operation

open Grammar Text

/-- Why the operation of a template cannot be told. -/
inductive Unknown
  | dialect (e : DialectError)
  | emptyRow
deriving DecidableEq, Repr

def Unknown.failure : Unknown → Failure
  | .dialect e => e.failure
  | .emptyRow => .foreign .index "list index out of range"

/-- The operation of the statement that the text is, if it is one that has any. -/
def ofText? (d : Dialect) (sql : List Char) : Except Unknown (Option Operation) :=
  match tokens? d sql with
  | none => .ok none
  | some ts =>
    match readTokens d ts with
    | .ok f => .ok f.operation?
    | .error .unreadable => .ok none
    | .error .emptyRow => .error .emptyRow

/-- The operation of a template in the dialect that a setting names. -/
def detect (setting : Value) (sql : String) : Except Unknown Operation := do
  let d ← (Dialect.ofSetting setting).mapError .dialect
  return (← ofText? d sql.toList).getD (ofFirstWord sql.toList)

end Operation
end Prepared
