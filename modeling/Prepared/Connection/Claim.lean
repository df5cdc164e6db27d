/-!
# The claim

Exclusive use of a connection. Who asks while it is held, or while others wait,
queues. Releasing wakes the first in the queue, who then takes the claim; a
waiter that gives up after it was woken passes the call on. So the claim is
granted in the order of the requests, and a free claim never leaves a waiter
asleep.
-/

namespace Prepared

inductive Wait
  | asleep
  | woken
  | withdrawn
deriving DecidableEq, Repr

structure Waiter where
  task : Nat
  wait : Wait
deriving DecidableEq, Repr

structure Claim where
  held : Bool := false
  queue : List Waiter := []
deriving DecidableEq, Repr

namespace Claim

/-- Free to be taken at once: nobody holds it, and everybody in the queue has given up. -/
def isOpen (c : Claim) : Bool := !c.held && c.queue.all (·.wait == .withdrawn)

def taken (c : Claim) : Claim := { c with held := true }

def enqueue (c : Claim) (task : Nat) : Claim := { c with queue := c.queue ++ [⟨task, .asleep⟩] }

/-- Wakes the first waiter, if it is asleep. -/
def wakeFirst (c : Claim) : Claim × Option Nat :=
  match c.queue with
  | ⟨task, .asleep⟩ :: rest => ({ c with queue := ⟨task, .woken⟩ :: rest }, some task)
  | _ => (c, none)

/-- Gives the claim back; it cannot be given back when nobody holds it. -/
def release (c : Claim) : Option (Claim × Option Nat) :=
  if c.held then some ({ c with held := false }).wakeFirst else none

def waiting? (c : Claim) (task : Nat) : Option Wait := (c.queue.find? (·.task == task)).map (·.wait)

def without (c : Claim) (task : Nat) : Claim := { c with queue := c.queue.filter (·.task != task) }

/-- A waiter gives up in its sleep. -/
def withdraw (c : Claim) (task : Nat) : Claim :=
  { c with queue := c.queue.map fun w => if w.task = task then ⟨task, .withdrawn⟩ else w }

/-- What a waiter that goes on finds: the claim, or that it has given up. In
the latter case the next one may have to be woken. -/
structure Resumed where
  claim : Claim
  granted : Bool
  wakes : Option Nat

def resume (c : Claim) (task : Nat) (cancelled : Bool) : Resumed :=
  let rest := c.without task
  if cancelled ∨ c.waiting? task = some .withdrawn then
    if rest.held then ⟨rest, false, none⟩
    else
      let (claim, wakes) := rest.wakeFirst
      ⟨claim, false, wakes⟩
  else ⟨rest.taken, true, none⟩

theorem release_isSome (c : Claim) : c.release.isSome = c.held := by
  unfold release
  split <;> simp_all

theorem held_wakeFirst (c : Claim) : c.wakeFirst.1.held = c.held := by
  unfold wakeFirst
  split <;> rfl

end Claim
end Prepared
