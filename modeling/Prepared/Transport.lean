import Prepared.Effect
import Prepared.Error

/-!
# Transports

What a connection talks to: a sink that takes queries and a source that yields
their outcome. A statement is used either for its effect or for its rows, and
each use has one call to send and one to receive. Failures of a call become
errors of the library.
-/

namespace Prepared

inductive Call
  | writeExec
  | writeQuery
  | readResult
  | readRows
deriving DecidableEq, Repr

namespace Call

def name : Call → String
  | .writeExec => "write_exec"
  | .writeQuery => "write_query"
  | .readResult => "read_result"
  | .readRows => "read_rows"

def all : List Call := [.writeExec, .writeQuery, .readResult, .readRows]

def ofName? (s : String) : Option Call := all.find? (·.name == s)

end Call

/-- How the callers of a connection wait: each blocks its thread, or they queue. -/
inductive Mode
  | blocking
  | waiting
deriving DecidableEq, Repr

inductive Role
  | sink
  | source
  | transport
deriving DecidableEq, Repr

namespace Role

def name (mode : Mode) (r : Role) : String :=
  let short := match r with
    | .sink => "RequestSink"
    | .source => "ResponseSource"
    | .transport => "Transport"
  match mode with
  | .blocking => short
  | .waiting => "Async" ++ short

def all : List Role := [.sink, .source, .transport]

def calls : Role → List Call
  | .sink => [.writeExec, .writeQuery]
  | .source => [.readResult, .readRows]
  | .transport => Call.all

/-- Whoever has the methods can play the role; it does not show whether they wait or block. -/
def isServedBy (r : Role) (methods : List String) : Bool := r.calls.all fun c => methods.contains c.name

theorem transport_isServedBy (methods : List String) :
    Role.transport.isServedBy methods = (Role.sink.isServedBy methods && Role.source.isServedBy methods) := by
  simp [isServedBy, calls, Call.all, Bool.and_assoc]

end Role

inductive Purpose
  | exec
  | query
deriving DecidableEq, Repr

namespace Purpose

def name : Purpose → String
  | .exec => "exec"
  | .query => "query"

def label : Purpose → String
  | .exec => "Exec"
  | .query => "Query"

def write : Purpose → Call
  | .exec => .writeExec
  | .query => .writeQuery

def read : Purpose → Call
  | .exec => .readResult
  | .query => .readRows

end Purpose

inductive Outcome
  | effect (e : Effect)
  | rows (v : Value)

structure Transport where
  result : Value := .tuple [.int 1, .int 1]
  rows : Value := .list [.list [.text "a"], .list [.text "b"]]
  sendError : Option Failure := none
  receiveError : Option Failure := none

def Value.items? : Value → Option (List Value)
  | .list items | .tuple items => some items
  | .dict entries => some (entries.map (·.1))
  | .text s => some (s.toList.map fun c => .text (String.singleton c))
  | .octets _ bytes => some (bytes.map fun b => .int b.toNat)
  | _ => none

def Value.pair (v : Value) : Except Failure (Value × Value) :=
  match v.items? with
  | some [a, b] => .ok (a, b)
  | some items =>
    if items.length < 2 then
      .error (.foreign .value s!"not enough values to unpack (expected 2, got {items.length})")
    else .error (.foreign .value "too many values to unpack (expected 2)")
  | none => .error (.foreign .type ("cannot unpack non-iterable " ++ v.typeName ++ " object"))

namespace Transport

def sendLead : String := "Cannot send query to server: "

def failing {α : Type} : Option Failure → α → Except Failure α
  | some f, _ => .error f
  | none, a => .ok a

def send (t : Transport) : Except Raised Unit :=
  (failing t.sendError ()).mapError fun f => Raised.wrap .send sendLead ⟨f, none⟩

/-- An effect has two numbers; an answer that is not a pair counts as not received. -/
def receive (t : Transport) (p : Purpose) (sql : String) : Except Raised Outcome :=
  Except.mapError (fun f => Raised.wrap .receive "" ⟨f, none⟩) <|
    match p with
    | .exec => do
      let (lastInsertedId, rowsAffected) ← (← failing t.receiveError t.result).pair
      return .effect { lastInsertedId, rowsAffected, sql }
    | .query => (failing t.receiveError t.rows).map .rows

end Transport
end Prepared
