import Prepared.Session.Basic

/-!
# Moves

One move of a task. The claim is taken before a statement is kept or used, and
given back when its use finishes, whatever the outcome. A blocking caller
counts the placeholders before it claims, a waiting one when the claim is
granted.
-/

namespace Prepared.Session

/-- The claim has been granted: the statement is made, and kept or used. -/
def grant (s : Session) (t : Task) (r : Request) (claim : Claim) : Session :=
  let made := Statement.make s.config r.sql r.config true
  let counted := made.notes.map (·.entry)
  let entries := match s.mode with
    | .blocking => counted ++ [claimedEntry]
    | .waiting => claimedEntry :: counted
  let index := s.statements.length
  let s := (({ s with claim }).add made.value).log entries
  match r with
  | .keep name _ _ =>
    (s.keep name index).goto t (.done (.prepared made.value.profile.count made.value.inherits))
  | .direct purpose _ values => s.goto t (.begin ⟨index, purpose⟩ values)

/-- Takes the claim, or else queues for it. A blocking caller cannot queue: it
would wait for itself. -/
def request (s : Session) (t : Task) (r : Request) : Session :=
  if s.claim.isOpen then s.grant t r s.claim.taken
  else match s.mode with
    | .blocking =>
      let made := Statement.make s.config r.sql r.config true
      (s.log (made.notes.map (·.entry))).goto t (.done .blocked)
    | .waiting =>
      let s := { s with claim := s.claim.enqueue t.number }
      if t.cancelled then
        let s := { s with claim := s.claim.withdraw t.number }
        (s.put { t with control := .wait r, cancelled := false }).yield.wake (some t.number)
      else (s.goto t (.wait r)).yield

def cancelledAnswer : Answer := .failed (.interrupt .cancelled "")

/-- A waiter goes on: with the claim, or without it if it was cancelled. -/
def resume (s : Session) (t : Task) (r : Request) : Session :=
  let resumed := s.claim.resume t.number t.cancelled
  if resumed.granted then s.grant t r resumed.claim
  else
    (({ s with claim := resumed.claim }).put { t with control := .done cancelledAnswer, cancelled := false }).wake
      resumed.wakes

/-- Begins a use. Only a prepared statement can be used, and the use of any
other changes nothing. -/
def beginUse (s : Session) (t : Task) (u : Use) (values : List Value) : Session :=
  match s.statements[u.statement]? with
  | none => s.goto t (.done .noStatement)
  | some st =>
    if st.stage = .prepared then
      let (entries, query) := st.build u.purpose values
      let s := (s.setStage u.statement .executing).log entries
      match query with
      | .error r => s.goto t (.finish u (.error r))
      | .ok sql => s.goto t (.write u sql)
    else s.goto t (.done (.raised (Statement.spent st.stage)))

def push (s : Session) (t : Task) (steps : List Step) (next : Control) : Session :=
  match steps with
  | [] => s.goto t next
  | step :: rest => s.put { t with control := .start step, frames := ⟨rest, next⟩ :: t.frames }

/-- Calls the transport; if it has steps for such a call, they come first, and only once. -/
def call (s : Session) (t : Task) (u : Use) (call : Call) (next : Control) : Session :=
  let s := s.record (.called u.statement call)
  match s.hook with
  | some (on, steps) =>
    if on = call then ({ s with hook := none }).push t steps next else s.goto t next
  | none => s.goto t next

def send (s : Session) (t : Task) (u : Use) (sql : String) : Session :=
  match s.transport.send with
  | .error r => (s.log (Statement.sendWarnings s.mode u.purpose r.failure)).goto t (.finish u (.error r))
  | .ok () => (s.record (.sent u.purpose sql)).goto t (.read u sql)

def receive (s : Session) (t : Task) (u : Use) (sql : String) : Session :=
  s.goto t (.finish u (s.transport.receive u.purpose sql))

def notHeld : Answer := .failed (.foreign .runtime "Lock is not acquired.")

/-- Ends a use: the statement is idle and the claim is given back. If nobody
holds the claim, that takes the place of the outcome. -/
def finish (s : Session) (t : Task) (u : Use) (outcome : Except Raised Outcome) : Session :=
  let s := (s.setStage u.statement .idle).record (.released u.statement s.claim.held)
  match s.claim.release with
  | none => s.goto t (.done notHeld)
  | some (claim, wakes) =>
    ((({ s with claim }).log [releasedEntry]).wake wakes).goto t (.done (.ofOutcome outcome))

/-- A step is answered: the one below it goes on, or the task ends. -/
def conclude (s : Session) (t : Task) (answer : Answer) : Session :=
  match t.frames with
  | [] =>
    let s := { s with tasks := s.tasks.filter (·.number != t.number) }
    (s.record (.ended t.number answer)).yield
  | ⟨rest, next⟩ :: frames => (s.record (.nested answer)).push { t with frames } rest next

/-- Cancels a task, in its sleep if it waits. -/
def cancel (s : Session) (target : Task) : Session :=
  if s.claim.waiting? target.number = some .asleep then
    ({ s with claim := s.claim.withdraw target.number }).wake (some target.number)
  else s.put { target with cancelled := true }

/-- The configuration that a statement is given; settings left out have their defaults. -/
def configOf : Settings → Except Failure (Option Config)
  | none => .ok none
  | some fields => ((Config.replace {} fields).map some).mapError (·.failure)

def answerFrom (s : Session) (name : String) (answer : Statement → Answer) : Answer :=
  ((s.find? name).bind (s.statements[·]?)).elim .noStatement answer

def applyChange (s : Session) (c : Change) : Session :=
  { s with transport := s.transport.apply c, hook := if c.dropsHook then none else s.hook }

def start (s : Session) (t : Task) (step : Step) : Session :=
  match step with
  | .prepare name sql settings =>
    match configOf settings with
    | .error f => s.goto t (.done (.failed f))
    | .ok config => s.goto t (.claim (.keep name sql config))
  | .make name sql settings =>
    match configOf settings with
    | .error f => s.goto t (.done (.failed f))
    | .ok config =>
      let made := Statement.make s.config sql config false
      let index := s.statements.length
      (((s.add made.value).log (made.notes.map (·.entry))).keep name index).goto t
        (.done (.prepared made.value.profile.count made.value.inherits))
  | .use name purpose values =>
    match s.find? name with
    | none => s.goto t (.done .noStatement)
    | some index => s.goto t (.begin ⟨index, purpose⟩ values)
  | .direct purpose sql values => s.goto t (.claim (.direct purpose sql values))
  | .close name => s.goto t (.done (s.answerFrom name fun _ => .raised Statement.notClosable))
  | .details name => s.goto t (.done (s.answerFrom name fun st => .ofDetails (st.details s.mode)))
  | .operation name => s.goto t (.done (s.answerFrom name fun st => .ofOperation st.operation))
  | .change c => (s.applyChange c).goto t (.done .changed)
  | .hook c on steps => ({ s.applyChange c with hook := some (on, steps) }).goto t (.done .changed)
  | .cancel number =>
    match s.task? number with
    | none => s.goto t (.done (.cancelled false))
    | some target =>
      let s := s.cancel target
      let t := (s.task? t.number).getD t
      s.goto t (.done (.cancelled true))

def move (s : Session) (t : Task) : Session :=
  match t.control with
  | .start step => s.start t step
  | .claim r => s.request t r
  | .wait r => s.resume t r
  | .begin u values => s.beginUse t u values
  | .write u sql => s.call t u u.purpose.write (.send u sql)
  | .send u sql => s.send t u sql
  | .read u sql => s.call t u u.purpose.read (.receive u sql)
  | .receive u sql => s.receive t u sql
  | .finish u outcome => s.finish t u outcome
  | .done answer => s.conclude t answer

end Prepared.Session
