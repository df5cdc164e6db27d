import Prepared.Statement

/-!
# Steps

What callers do with a connection. Statements go by names, and a name that is
used again passes to the newer statement. A step may leave other steps with the
transport, to be taken in the middle of its next call of a kind.
-/

namespace Prepared

/-- New answers and failures of a transport; what is not given stays. -/
structure Change where
  result : Option Value := none
  rows : Option Value := none
  sendError : Option (Option Failure) := none
  receiveError : Option (Option Failure) := none
  dropsHook : Bool := false

def Transport.apply (t : Transport) (c : Change) : Transport :=
  { result := c.result.getD t.result
    rows := c.rows.getD t.rows
    sendError := c.sendError.getD t.sendError
    receiveError := c.receiveError.getD t.receiveError }

/-- The settings that a statement is given, if any. -/
abbrev Settings := Option (List (String × Value))

inductive Step
  /-- Prepares a statement under a name. -/
  | prepare (name sql : String) (settings : Settings)
  /-- Makes a statement without a claim. -/
  | make (name sql : String) (settings : Settings)
  | use (name : String) (purpose : Purpose) (values : List Value)
  /-- Prepares and uses a statement at once. -/
  | direct (purpose : Purpose) (sql : String) (values : List Value)
  | close (name : String)
  | details (name : String)
  | operation (name : String)
  | change (change : Change)
  | hook (change : Change) (call : Call) (steps : List Step)
  /-- Cancels the task that was started with that number. -/
  | cancel (task : Nat)

inductive Answer
  | prepared (numInput : Int) (inherits : Bool)
  | effect (e : Effect)
  | rows (v : Value)
  | details (d : Statement.Details)
  | operation (o : Operation)
  | changed
  | cancelled (running : Bool)
  | noStatement
  /-- The caller would wait for the claim forever. -/
  | blocked
  | raised (r : Raised)

namespace Answer

def failed (f : Failure) : Answer := .raised { failure := f }

def ofDetails : Except Number.Overlong Statement.Details → Answer
  | .ok d => .details d
  | .error e => failed (.overlong e)

def ofOperation : Except Failure Operation → Answer
  | .ok o => .operation o
  | .error f => failed f

def ofOutcome : Except Raised Outcome → Answer
  | .error r => .raised r
  | .ok (.rows v) => .rows v
  | .ok (.effect e) => .effect e

end Answer

mutual

def Step.size : Step → Nat
  | .hook _ _ steps => stepSizes steps + 1
  | _ => 1

def stepSizes : List Step → Nat
  | [] => 0
  | s :: ss => s.size + stepSizes ss

end

end Prepared
