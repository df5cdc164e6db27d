import Prepared.Session.Move

/-!
# Running a session

Every step of a script is a task of its own. It runs until it waits or ends,
and so does every task that it wakes, in the order in which they were woken.
-/

namespace Prepared

/-- More moves than one step can need, leaving out the steps inside it. -/
def movesPerStep : Nat := 12

/-- The moves that are left from here on, at most. -/
def Control.budget : Control → Nat
  | .start step => movesPerStep * step.size
  | .claim _ => 10
  | .wait _ => 9
  | .begin .. => 8
  | .write .. => 7
  | .send .. => 6
  | .read .. => 5
  | .receive .. => 4
  | .finish .. => 3
  | .done _ => 2

def Frame.budget (f : Frame) : Nat := movesPerStep * stepSizes f.rest + f.next.budget

def Task.budget (t : Task) : Nat := t.control.budget + t.frames.foldr (·.budget + ·) 0

namespace Session

def hookBudget : Option (Call × List Step) → Nat
  | some (_, steps) => movesPerStep * stepSizes steps
  | none => 0

def budget (s : Session) : Nat := s.tasks.foldr (·.budget + ·) 0 + hookBudget s.hook

def running (s : Session) : Option Task := s.ready.head?.bind s.task?

/-- Makes moves until no task is ready. -/
def settle : Nat → Session → Session
  | 0, s => s
  | n + 1, s =>
    match s.running with
    | some t => settle n (s.move t)
    | none => s

def launch (s : Session) (number : Nat) (step : Step) : Session :=
  let task : Task := { number, control := .start step }
  { s with tasks := s.tasks ++ [task], ready := s.ready ++ [number] }

/-- Takes a step as a new task, until nothing moves. -/
def take (s : Session) (number : Nat) (step : Step) : Session :=
  let s := s.launch number step
  s.settle s.budget

/-- The names of the statements, and how far the latest of each name has come. -/
def stages (s : Session) : List (String × Stage) :=
  s.names.filterMap fun (name, index) => (s.statements[index]?).map fun st => (name, st.stage)

def pending (s : Session) : List Nat := s.tasks.map (·.number)

end Session

/-- What happened in a step. The answer is missing while its task waits. -/
structure Report where
  answer : Option Answer
  completed : List (Nat × Answer)
  sent : List (Purpose × String)
  nested : List Answer
  entries : List Entry

def Event.sent? : Event → Option (Purpose × String)
  | .sent purpose sql => some (purpose, sql)
  | _ => none

def Event.nested? : Event → Option Answer
  | .nested answer => some answer
  | _ => none

def Event.logged? : Event → Option Entry
  | .logged e => some e
  | _ => none

def Event.ended? : Event → Option (Nat × Answer)
  | .ended task answer => some (task, answer)
  | _ => none

/-- A report of the events of one step; the step was the start of a task. -/
def Report.ofEvents (task : Nat) (events : List Event) : Report :=
  let ended := events.filterMap (·.ended?)
  { answer := ended.lookup task
    completed := ended.filter (·.1 != task)
    sent := events.filterMap (·.sent?)
    nested := events.filterMap (·.nested?)
    entries := events.filterMap (·.logged?) }

/-- The session after every step of a script, and what happened in the step. -/
def Session.run (s : Session) (number : Nat) : List Step → List (Session × Report)
  | [] => []
  | step :: steps =>
    let after := s.take number step
    (after, .ofEvents number (after.events.drop s.events.length)) :: run after (number + 1) steps

end Prepared
