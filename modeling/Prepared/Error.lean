import Prepared.Text.Blank
import Prepared.Value.Display
import Prepared.Value.Equality

/-!
# Errors

What can go wrong with a statement. The library's own errors form a small tree
of families; every other failure that reaches a caller is foreign or an
interrupt. `Raised.wrap` turns a foreign failure into one of the library's own
and keeps it as the cause; it lets the others pass.
-/

namespace Prepared

open Number Text

inductive Family
  | base
  | parameter
  | placeholderIndex
  | placeholderParse
  | parameterCount
  | transport
  | send
  | receive
  | statementState
  | unsupportedOperation
deriving DecidableEq, Repr

namespace Family

def name : Family → String
  | .base => "SQLPrepError"
  | .parameter => "ParameterError"
  | .placeholderIndex => "PlaceholderIndexError"
  | .placeholderParse => "PlaceholderParseError"
  | .parameterCount => "ParameterCountError"
  | .transport => "TransportError"
  | .send => "SendError"
  | .receive => "ReceiveError"
  | .statementState => "StatementStateError"
  | .unsupportedOperation => "UnsupportedOperationError"

def all : List Family :=
  [.base, .parameter, .placeholderIndex, .placeholderParse, .parameterCount, .transport, .send, .receive,
    .statementState, .unsupportedOperation]

def ofName? (s : String) : Option Family := all.find? (·.name == s)

def parent? : Family → Option Family
  | .base => none
  | .placeholderIndex | .placeholderParse | .parameterCount => some .parameter
  | .send | .receive => some .transport
  | .parameter | .transport | .statementState | .unsupportedOperation => some .base

/-- Parameter errors speak of a template. -/
def isParameter : Family → Bool
  | .parameter | .placeholderIndex | .placeholderParse | .parameterCount => true
  | _ => false

/-- Every family that an error belongs to, its own first. -/
def lineage : Family → List Family
  | .base => [.base]
  | .parameter => [.parameter, .base]
  | .placeholderIndex => [.placeholderIndex, .parameter, .base]
  | .placeholderParse => [.placeholderParse, .parameter, .base]
  | .parameterCount => [.parameterCount, .parameter, .base]
  | .transport => [.transport, .base]
  | .send => [.send, .transport, .base]
  | .receive => [.receive, .transport, .base]
  | .statementState => [.statementState, .base]
  | .unsupportedOperation => [.unsupportedOperation, .base]

theorem lineage_eq_cons (f : Family) :
    f.lineage = f :: (f.parent?.map lineage).getD [] := by
  cases f <;> rfl

end Family

/-- The name of a class of failures has no blanks in it. -/
structure ClassName where
  text : String
  text_ne_empty : text ≠ ""
  no_blank : ∀ c ∈ text.toList, isBlank c = false
deriving DecidableEq, Repr

/-- Failures that are not the library's own. -/
inductive ForeignKind
  | system
  | value
  | type
  | runtime
  | index
  | attribute
  | connectionReset
  | connectionAborted
  | timeout
  | endOfStream
  | overflow
  | invalidOperation
  | other (name : ClassName)
deriving DecidableEq, Repr

namespace ForeignKind

def name : ForeignKind → String
  | .system => "OSError"
  | .value => "ValueError"
  | .type => "TypeError"
  | .runtime => "RuntimeError"
  | .index => "IndexError"
  | .attribute => "AttributeError"
  | .connectionReset => "ConnectionResetError"
  | .connectionAborted => "ConnectionAbortedError"
  | .timeout => "TimeoutError"
  | .endOfStream => "StopAsyncIteration"
  | .overflow => "OverflowError"
  | .invalidOperation => "InvalidOperation"
  | .other name => name.text

/-- The kinds that can be asked for by their names. -/
def all : List ForeignKind :=
  [.system, .value, .type, .runtime, .index, .attribute, .connectionReset, .connectionAborted, .timeout,
    .endOfStream, .overflow]

def ofName? (s : String) : Option ForeignKind := all.find? (·.name == s)

/-- The names that a failure goes by, its own first. -/
def lineage (k : ForeignKind) : List String :=
  k.name :: (match k with
    | .index => ["LookupError"]
    | .connectionReset | .connectionAborted => ["ConnectionError", "OSError"]
    | .timeout => ["OSError"]
    | .overflow => ["ArithmeticError"]
    | .invalidOperation => ["DecimalException", "ArithmeticError"]
    | _ => []) ++ ["Exception", "BaseException", "object"]

end ForeignKind

/-- The names that an error of the family goes by. A marker without an argument
is an index out of range in the general sense too. -/
def Family.names (f : Family) : List String :=
  f.lineage.map (·.name) ++
    if f = .placeholderIndex then ForeignKind.index.lineage else ["Exception", "BaseException", "object"]

/-- Requests to stop: they are never converted into an error of the library. -/
inductive Interrupt
  | keyboard
  | cancelled
  | other (name : ClassName)
deriving DecidableEq, Repr

def Interrupt.name : Interrupt → String
  | .keyboard => "KeyboardInterrupt"
  | .cancelled => "CancelledError"
  | .other name => name.text

def Interrupt.ofName? (s : String) : Option Interrupt :=
  [Interrupt.keyboard, .cancelled].find? (·.name == s)

/-- An error of the library. `notes` are said before the detail. -/
structure Fault where
  family : Family
  detail : String
  notes : List String := []
  sql : Option String := none
deriving DecidableEq, Repr

namespace Fault

def message (f : Fault) : String :=
  String.ofList (trim (String.intercalate " " (f.notes ++ [f.detail])).toList)

/-- The error under the name of its family or of a narrower one. -/
def description (f : Fault) (name : String) : String :=
  if f.detail = "" then name else name ++ " - " ++ f.detail

/-- A parameter error shows the template it speaks of, unless that is empty. -/
def aboutTemplate (family : Family) (text : String) (sql : Option String) : Fault :=
  let detail := match sql with
    | some s => if s = "" then text else text ++ "\nSQL: " ++ s
    | none => text
  { family, detail, sql }

/-- An error from the values it was given: the ones that say nothing are left
out, and the first of the others is the detail, unless a detail is given. The
default stands in when there is neither. -/
def ofValues (family : Family) (values : List Value) (detail default : String) : Except Overlong Fault := do
  let texts ← (values.filter (·.truthy)).mapM fun v => v.plain.map String.ofList
  if detail ≠ "" then return { family, detail, notes := texts }
  else match texts with
    | [] => return { family, detail := default }
    | t :: ts => return { family, detail := t, notes := ts }

/-- Builds an error of any family. A parameter error takes a text and a
template, an unsupported operation has a text of its own when it is given none. -/
def build (family : Family) (values : List Value) (detail default : String) : Except Overlong Fault :=
  if family.isParameter then do
    let text ← (values.head?.getD (.text "")).plain
    let sql := match values with
      | _ :: .text s :: _ => some s
      | _ => none
    let f := aboutTemplate family (String.ofList text) sql
    return if f.detail = "" then { f with detail := default } else f
  else if family = .unsupportedOperation then
    match values.head?.getD .null with
    | .null => ofValues family [.text "Not implemented."] "" default
    | v => ofValues family [v] "" default
  else ofValues family values detail default

end Fault

inductive Failure
  | own (fault : Fault)
  | foreign (kind : ForeignKind) (text : String)
  | interrupt (kind : Interrupt) (text : String)
deriving DecidableEq, Repr

namespace Failure

def name : Failure → String
  | .own f => f.family.name
  | .foreign k _ => k.name
  | .interrupt k _ => k.name

def message : Failure → String
  | .own f => f.message
  | .foreign _ text => text
  | .interrupt _ text => text

/-- The failure as the last line of a report: its qualified name and its text. -/
def report (f : Failure) : String :=
  let name := match f with
    | .own _ => "sqlprep.exceptions." ++ f.name
    | .interrupt .cancelled _ => "asyncio.exceptions." ++ f.name
    | _ => f.name
  if f.message = "" then name else name ++ ": " ++ f.message

def overlong (e : Overlong) : Failure := .foreign .value e.message

def incomparable : Incomparable → Failure
  | .signaling => .foreign .invalidOperation "[<class 'decimal.InvalidOperation'>]"

end Failure

/-- A failure on its way to the caller, with what caused it. -/
structure Raised where
  failure : Failure
  cause : Option Failure := none
deriving DecidableEq, Repr

/-- A foreign failure becomes an error of the family, which says `lead` and then
the text of its cause, or the name of its cause if that leaves it nothing to say. -/
def Raised.wrap (family : Family) (lead : String) (r : Raised) : Raised :=
  match r.failure with
  | .foreign kind text =>
    let detail := lead ++ text
    { failure := .own { family, detail := if detail = "" then kind.name else detail }
      cause := some r.failure }
  | _ => r

end Prepared
