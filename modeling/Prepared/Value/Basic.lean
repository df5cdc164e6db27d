import Prepared.Calendar
import Prepared.Number.Shortest
import Prepared.Text.Quoted
import Prepared.Text.Utf8

/-!
# Values

What a caller may bind to a placeholder, and what a server may answer. Every
bound value has a `Kind`, which decides how it is written into a query; a value
may already carry a kind of the caller's choice.
-/

namespace Prepared

open Number Text

/-- The tag that quoting decisions dispatch on. -/
inductive Kind
  | text
  | integer
  | float
  | boolean
  | null
  | other
deriving DecidableEq, Repr

def Kind.name : Kind → String
  | .text => "text"
  | .integer => "integer"
  | .float => "float"
  | .boolean => "boolean"
  | .null => "null"
  | .other => "opaque"

def Kind.all : List Kind := [.text, .integer, .float, .boolean, .null, .other]

def Kind.ofName? (s : String) : Option Kind := Kind.all.find? (·.name == s)

/-- Octets know whether they can be changed in place; it shows only in their description. -/
inductive Value
  | null
  | bool (b : Bool)
  | int (n : Int)
  | float (x : Binary64)
  | decimal (d : Decimal)
  | text (s : String)
  | octets (growable : Bool) (bytes : List UInt8)
  | date (d : Date)
  | dateTime (t : DateTime)
  | clock (t : Clock)
  | list (items : List Value)
  | tuple (items : List Value)
  | dict (entries : List (Value × Value))
  | typed (kind : Kind) (value : Value)
deriving Repr

namespace Value

/-- The kind of a value that carries none of its own. -/
def kind : Value → Kind
  | .null => .null
  | .bool _ => .boolean
  | .int _ => .integer
  | .float _ | .decimal _ => .float
  | .text _ | .octets .. => .text
  | _ => .other

/-- Zero, nothing and every empty collection are false. -/
def truthy : Value → Bool
  | .null => false
  | .bool b => b
  | .int n => n != 0
  | .float x => !x.isZero
  | .decimal d => !d.isZero
  | .text s => s != ""
  | .octets _ bytes => !bytes.isEmpty
  | .list items | .tuple items => !items.isEmpty
  | .dict entries => !entries.isEmpty
  | .date _ | .dateTime _ | .clock _ | .typed .. => true

def typeName : Value → String
  | .null => "NoneType"
  | .bool _ => "bool"
  | .int _ => "int"
  | .float _ => "float"
  | .decimal _ => "decimal.Decimal"
  | .text _ => "str"
  | .octets growable _ => if growable then "bytearray" else "bytes"
  | .date _ => "datetime.date"
  | .dateTime _ => "datetime.datetime"
  | .clock _ => "datetime.time"
  | .list _ => "list"
  | .tuple _ => "tuple"
  | .dict _ => "dict"
  | .typed .. => "TypedParameter"

end Value

structure Argument where
  kind : Kind
  value : Value
deriving Repr

namespace Argument

/-- Tags a value; one that already carries a kind keeps it. -/
def ofValue : Value → Argument
  | .typed kind value => ⟨kind, value⟩
  | value => ⟨value.kind, value⟩

def toValue (a : Argument) : Value := .typed a.kind a.value

def isText (a : Argument) : Bool := a.kind == .text

theorem ofValue_toValue (a : Argument) : ofValue a.toValue = a := rfl

end Argument
end Prepared
