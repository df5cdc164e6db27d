import Prepared.Session.Run

/-!
# Interleavings

What callers may do in any order. In a run the task that is ready goes on until
it waits or ends; here any task that can go on makes its next move, and between
any two moves tasks are launched and cancelled. A move is not interrupted, and a
blocking caller waits by making none. The transport answers every call as it
likes, and takes what steps it likes in the middle of one. All statements that
`happen` lets be made are made with the claim; `occur` lets any be made.
-/

namespace Prepared

mutual

/-- Does a step make no statement without the claim? -/
def Step.claims : Step → Bool
  | .make .. => false
  | .hook _ _ steps => stepsClaim steps
  | _ => true

def stepsClaim : List Step → Bool
  | [] => true
  | s :: ss => s.claims && stepsClaim ss

end

inductive Happening
  | launch (task : Nat) (step : Step)
  | move (task : Nat)
  | cancel (task : Nat)
  /-- From here on the transport has other answers and failures. -/
  | transport (transport : Transport)
  /-- The transport has steps for the middle of a call. -/
  | hook (call : Call) (steps : List Step)

def Happening.claims : Happening → Bool
  | .launch _ step => step.claims
  | .hook _ steps => stepsClaim steps
  | _ => true

namespace Session

/-- Nothing has been done yet. -/
def opened (mode : Mode) (config : Config) : Session := { mode, config }

/-- A task goes on unless it is asleep in the queue. -/
def canMove (s : Session) (t : Task) : Bool :=
  match t.control with
  | .wait _ => s.claim.waiting? t.number != some .asleep
  | _ => true

/-- What cannot happen changes nothing. -/
def happen (s : Session) : Happening → Session
  | .launch number step => if (s.task? number).isNone && step.claims then s.launch number step else s
  | .move number =>
    match s.task? number with
    | some t => if s.canMove t then s.move t else s
    | none => s
  | .cancel number =>
    match s.task? number with
    | some t => s.cancel t
    | none => s
  | .transport transport => { s with transport }
  | .hook call steps => if stepsClaim steps then { s with hook := some (call, steps) } else s

def follow (s : Session) (hs : List Happening) : Session := hs.foldl happen s

theorem follow_append (s : Session) (hs hs' : List Happening) :
    s.follow (hs ++ hs') = (s.follow hs).follow hs' := List.foldl_append

/-! ## Statements without the claim -/

def occur (s : Session) : Happening → Session
  | .launch number step => if (s.task? number).isNone then s.launch number step else s
  | .move number => s.happen (.move number)
  | .cancel number => s.happen (.cancel number)
  | .transport transport => { s with transport }
  | .hook call steps => { s with hook := some (call, steps) }

def evolve (s : Session) (hs : List Happening) : Session := hs.foldl occur s

theorem happen_eq_occur (s : Session) (e : Happening) : s.happen e = if e.claims then s.occur e else s := by
  cases e with
  | launch number step =>
    by_cases hstep : step.claims = true <;> simp [happen, occur, Happening.claims, hstep]
  | move number => rfl
  | cancel number => rfl
  | transport transport => rfl
  | hook call steps => rfl

/-- What follows when all statements are made with the claim is one of the things that can come. -/
theorem follow_eq_evolve (s : Session) (hs : List Happening) :
    s.follow hs = s.evolve (hs.filter Happening.claims) := by
  induction hs generalizing s with
  | nil => rfl
  | cons e hs ih =>
    rw [follow, List.foldl_cons, happen_eq_occur]
    by_cases he : e.claims = true
    · rw [if_pos he, List.filter_cons_of_pos he]
      exact ih (s.occur e)
    · rw [if_neg he, List.filter_cons_of_neg he]
      exact ih s

end Session
end Prepared
