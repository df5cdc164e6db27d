import Prepared.Text.Blank
import Prepared.Text.Upper

/-!
# The leading keyword

What a statement does, told by its first word alone. A word ends at a blank and
nowhere else.
-/

namespace Prepared

open Text

inductive Operation
  | select
  | insert
  | update
  | delete
  | definition
  | execute
  | unknown
deriving DecidableEq, Repr

namespace Operation

def name : Operation → String
  | .select => "SELECT"
  | .insert => "INSERT"
  | .update => "UPDATE"
  | .delete => "DELETE"
  | .definition => "DDL"
  | .execute => "EXECUTE"
  | .unknown => "UNKNOWN"

def returnsRows (o : Operation) : Bool := o == .select

def keywords : List (String × Operation) :=
  [("SELECT", .select), ("WITH", .select), ("INSERT", .insert), ("UPDATE", .update), ("DELETE", .delete),
    ("CREATE", .definition), ("DROP", .definition), ("ALTER", .definition), ("TRUNCATE", .definition)]

def ofKeyword (word : List Char) : Operation := (keywords.lookup (String.ofList word)).getD .unknown

/-- Skipped before the first word, besides blanks. -/
def isOpening (c : Char) : Bool := c == ' ' || c == '\t' || c == '\r' || c == '\n' || c == '('

/-- The operation that the first word names, in any case. -/
def ofFirstWord (sql : List Char) : Operation :=
  ofKeyword (upper (firstWord (sql.dropWhile isOpening)))

end Operation
end Prepared
