import Prepared.Connection.Claim
import Prepared.Session.Step

/-!
# Sessions

One connection with its transport, the statements made on it, and the tasks
that its callers run. A task works on one step; when the transport has steps
for the middle of a call, they are taken on top of it. Whatever happens is put
down as an event.
-/

namespace Prepared

structure Use where
  statement : Nat
  purpose : Purpose
deriving DecidableEq, Repr

/-- What the claim is wanted for: a statement to be kept under a name, or to be used at once. -/
inductive Request
  | keep (name sql : String) (config : Option Config)
  | direct (purpose : Purpose) (sql : String) (values : List Value)

namespace Request

def sql : Request → String
  | .keep _ sql _ => sql
  | .direct _ sql _ => sql

def config : Request → Option Config
  | .keep _ _ config => config
  | .direct .. => none

end Request

/-- What a task does next. A call of the transport is two moves, with room for
other steps between them. -/
inductive Control
  | start (step : Step)
  | claim (request : Request)
  | wait (request : Request)
  | begin (use : Use) (values : List Value)
  | write (use : Use) (sql : String)
  | send (use : Use) (sql : String)
  | read (use : Use) (sql : String)
  | receive (use : Use) (sql : String)
  | finish (use : Use) (outcome : Except Raised Outcome)
  | done (answer : Answer)

/-- Steps that are still to be taken in the middle of a call, and what comes after them. -/
structure Frame where
  rest : List Step
  next : Control

/-- A task that is `cancelled` fails at the next point where it waits. -/
structure Task where
  number : Nat
  control : Control
  frames : List Frame := []
  cancelled : Bool := false

/-- A statement that ends its use gives the claim back, whether it is `held` or not. -/
inductive Event
  | logged (e : Entry)
  | called (statement : Nat) (call : Call)
  | sent (purpose : Purpose) (sql : String)
  | released (statement : Nat) (held : Bool)
  | nested (answer : Answer)
  | ended (task : Nat) (answer : Answer)

/-- Statements are kept for good, in the order in which they were made. The
first of the tasks that are ready is the one that runs. -/
structure Session where
  mode : Mode
  config : Config
  transport : Transport := {}
  hook : Option (Call × List Step) := none
  claim : Claim := {}
  statements : List Statement := []
  names : List (String × Nat) := []
  tasks : List Task := []
  ready : List Nat := []
  events : List Event := []

namespace Session

def record (s : Session) (e : Event) : Session := { s with events := s.events ++ [e] }

def log (s : Session) (entries : List Entry) : Session :=
  { s with events := s.events ++ entries.map .logged }

def find? (s : Session) (name : String) : Option Nat := s.names.lookup name

def setStage (s : Session) (index : Nat) (stage : Stage) : Session :=
  { s with statements := s.statements.modify index ({ · with stage }) }

/-- Adds a statement; its number is that of the statements before it. -/
def add (s : Session) (statement : Statement) : Session := { s with statements := s.statements ++ [statement] }

def assign (name : String) (index : Nat) : List (String × Nat) → List (String × Nat)
  | [] => [(name, index)]
  | (n, i) :: rest => if n = name then (name, index) :: rest else (n, i) :: assign name index rest

def keep (s : Session) (name : String) (index : Nat) : Session := { s with names := assign name index s.names }

def task? (s : Session) (number : Nat) : Option Task := s.tasks.find? (·.number == number)

def put (s : Session) (t : Task) : Session :=
  { s with tasks := s.tasks.map fun u => if u.number = t.number then t else u }

def goto (s : Session) (t : Task) (control : Control) : Session := s.put { t with control }

/-- The running task has to wait or has ended; the next one runs. -/
def yield (s : Session) : Session := { s with ready := s.ready.drop 1 }

def wake (s : Session) (task : Option Nat) : Session := { s with ready := s.ready ++ task.toList }

def connectionEntry (message : String) : Entry := { level := .debug, logger := Logger.connection, message }

def claimedEntry : Entry := connectionEntry "Connection claimed"
def releasedEntry : Entry := connectionEntry "Connection released"

end Session
end Prepared
