import Prepared.Proofs.Rewrite.Refusal
import Prepared.Proofs.Session.Outcome

/-!
# Failures of a use

A use fails because the statement was used before, because its query cannot be
made, or because the transport fails. Failures of the transport are converted,
the others are errors of the library from the start, with one exception: an
integer that has too many digits to be written fails as it is, before anything
guards against it. Main statement: no other failure but an interrupt leaves a
use that is not an error of the library.
-/

namespace Prepared

/-- What may leave a use. An interrupt is no error, and all errors are the
library's own but one: that an argument has no text. -/
inductive Departs (values : List Value) : Failure → Prop
  | own (f : Fault) : Departs values (.own f)
  | interrupt (kind : Interrupt) (text : String) : Departs values (.interrupt kind text)
  | text {v : Value} {o : Number.Overlong} (given : v ∈ values) (fails : (Argument.ofValue v).text = .error o) :
    Departs values (.overlong o)

def Control.raised? : Control → Option Raised
  | .done (.raised r) => some r
  | _ => none

variable {values : List Value}

theorem Refusal.departs {config : Config} {f : Failure} (h : Refusal config values f) : Departs values f := by
  cases h with
  | index => exact .own _
  | unreadable => exact .own _
  | count => exact .own _
  | text given fails => exact .text given fails

theorem Leaves.departs {family : Family} {f : Failure} {r : Raised} (h : Leaves family f r) :
    Departs values r.failure := by
  cases h with
  | own fault => exact .own fault
  | interrupt kind text => exact .interrupt kind text
  | foreign => exact .own _

theorem Statement.departs_of_rewritten {st : Statement} (hd : st.config.NamesDialect) {r : Raised}
    (h : st.rewritten values = .error r) : Departs values r.failure := by
  unfold Statement.rewritten at h
  cases hvalue : (rewrite st.config st.sql values none).value with
  | ok q => rw [hvalue] at h; cases h
  | error e =>
    rw [hvalue] at h
    obtain rfl := Except.error.inj h
    exact (rewrite_refusal hd hvalue).departs

namespace Session

/-- At some point of what happens the task finishes the use, which is answered
with its outcome, and if that is a failure, it is one that may leave a use. -/
def FinishesSoundly (begun : Session) (n : Nat) (u : Use) (values : List Value) (hs : List Happening) : Prop :=
  ∃ hs₁ hs₂ t outcome, hs = hs₁ ++ .move n :: hs₂ ∧ (begun.follow hs₁).task? n = some t ∧
    t.control = .finish u outcome ∧
    (begun.follow (hs₁ ++ [.move n])).task? n = some { t with control := .done (.ofOutcome outcome) } ∧
    ∀ r, Answer.ofOutcome outcome = .raised r → Departs values r.failure

section
variable {begun : Session} {n : Nat} {u : Use} {st : Statement} {hs : List Happening}

theorem Accounts.departs (hd : st.config.NamesDialect) {calls : List Call} {r : Raised}
    (h : Accounts begun n u (st.rewritten values) hs calls (.raised r)) : Departs values r.failure := by
  cases h with
  | refused fails => exact Statement.departs_of_rewritten hd fails
  | unwritten _ _ _ leaves => exact leaves.departs
  | unread _ _ _ _ leaves => exact leaves.departs

theorem InUse.finishesSoundly {t : Task} (hd : st.config.NamesDialect)
    (h : InUse begun t.number u (st.rewritten values) hs) (hsound : (begun.follow hs).Sound)
    (ht : (begun.follow hs).task? t.number = some t) {outcome : Except Raised Outcome}
    (hc : t.control = .finish u outcome) (hs₂ : List Happening) :
    FinishesSoundly begun t.number u values (hs ++ .move t.number :: hs₂) := by
  have hu : t.control.use? = some u := by rw [hc]; rfl
  have hheld := hsound.exclusive.held_of_mem_uses
    (mem_uses_of_task ht (show u ∈ t.uses by rw [t.uses_eq, hu]; simp))
  have hmove : (begun.follow hs).happen (.move t.number) = (begun.follow hs).finish t u outcome := by
    rw [happen_move ht (canMove_of_use hu), Session.move, hc]
  have hstands : Accounts begun t.number u (st.rewritten values) hs _ (.ofOutcome outcome) :=
    h.stands_top hsound ht hc rfl
  refine ⟨hs, hs₂, t, outcome, rfl, ht, hc, ?_, ?_⟩
  · rw [follow_snoc, hmove]
    exact task?_goto ht (.done (.ofOutcome outcome)) (finish_of_held hheld t u outcome).1
  · intro r hr
    rw [hr] at hstands
    exact hstands.departs hd

theorem InUse.follow_finishesSoundly (hd : st.config.NamesDialect) (hbegun : begun.Sound)
    (h : InUse begun n u (st.rewritten values) hs) (hs' : List Happening) :
    InUse begun n u (st.rewritten values) (hs ++ hs') ∨ FinishesSoundly begun n u values (hs ++ hs') := by
  induction hs' generalizing hs with
  | nil =>
    rw [List.append_nil]
    exact Or.inl h
  | cons e hs' ih =>
    rcases h.goesOn (hbegun.follow hs) e with hin | ⟨t, outcome, rfl, rfl, ht, hc⟩
    · rw [List.append_cons]
      exact ih hin
    · exact Or.inr (h.finishesSoundly hd (hbegun.follow hs) ht hc hs')

end

structure Settled (s : Session) : Prop where
  sound : s.Sound
  counted : s.Counted
  traced : ∃ trips, s.Traced trips

theorem settled_follow (mode : Mode) (config : Config) (hs : List Happening) :
    ((Session.opened mode config).follow hs).Settled := by
  have hkeeps : ∀ s s' : Session, s.Settled → s.Next s' → s'.Settled :=
    fun _ _ ⟨hsound, hcounted, _, htraced⟩ hnext =>
      ⟨hsound.next hnext, hcounted.next hnext, htraced.next hsound hnext⟩
  exact follow_keeps hkeeps ⟨.opened mode config, nofun, [], .opened mode config⟩ hs

section
variable {s : Session} {t : Task} {u : Use} {st : Statement}

theorem move_spent (ht : s.task? t.number = some t) (hc : t.control = .begin u values)
    (hst : s.statements[u.statement]? = some st) (hspent : st.stage ≠ .prepared) :
    ∃ f : Fault, f.family = .statementState ∧
      (s.move t).task? t.number = some { t with control := .done (.raised { failure := .own f }) } := by
  obtain ⟨f, hf, hspent'⟩ : ∃ f, Statement.spent st.stage = { failure := .own f } ∧ f.family = .statementState :=
    ⟨_, rfl, rfl⟩
  have hmove : s.move t = s.goto t (.done (.raised { failure := .own f })) := by
    simp only [move, hc, beginUse, hst, if_neg hspent, hf]
  exact ⟨f, hspent', task?_goto ht (.done (.raised { failure := .own f })) (by rw [hmove])⟩

end

/-- Whatever fails in a use of a statement fails with an error of the library,
but for an integer among its values that cannot be written: a use of a spent
statement, and one of a prepared statement by the time it has ended. The error
of a rewriting depends on the settings. -/
theorem use_departs (mode : Mode) (config : Config) (hs : List Happening) {t : Task} {u : Use} {values : List Value}
    {st : Statement} (ht : ((Session.opened mode config).follow hs).task? t.number = some t)
    (hc : t.control = .begin u values)
    (hst : ((Session.opened mode config).follow hs).statements[u.statement]? = some st)
    (hd : st.config.NamesDialect) :
    let begun := ((Session.opened mode config).follow hs).happen (.move t.number)
    (st.stage ≠ .prepared → ∃ f : Fault, f.family = .statementState ∧
      begun.task? t.number = some { t with control := .done (.raised { failure := .own f }) }) ∧
    (st.stage = .prepared → ∀ hs',
      (∃ t', (begun.follow hs').task? t.number = some t' ∧ u ∈ t'.uses) ∨
        FinishesSoundly begun t.number u values hs') ∧
    ∀ (config : Config) (template : String) (values : List Value) (known : Option Profile) (e : RewriteError),
      config.NamesDialect → (rewrite config template values known).value = .error e →
        Refusal config values (e.raised template).failure := by
  intro begun
  obtain ⟨hsound, hcounted, trips, htraced⟩ := settled_follow mode config hs
  have hbegun : begun = ((Session.opened mode config).follow hs).move t := happen_move ht (by simp [canMove, hc])
  refine ⟨fun hspent => ?_, fun hprepared hs' => ?_, fun _ _ _ _ _ hd h => rewrite_refusal hd h⟩
  · rw [hbegun]
    exact move_spent ht hc hst hspent
  · have hin : InUse begun t.number u (st.rewritten values) [] := by
      rw [hbegun]
      exact inUse_begin hsound htraced hcounted ht hc hst hprepared
    have hsound' : begun.Sound := hsound.next (next_happen _ _)
    exact (hin.follow_finishesSoundly hd hsound' hs').imp_left (·.task)

/-- A connection that is lost before the query is written. -/
theorem use_departs_lost :
    let lost : Transport := { sendError := some (.foreign .connectionReset "gone") }
    let values : List Value := [.text "a b"]
    let s := (Session.opened .waiting {}).follow
      [.transport lost, .launch 0 (.direct .query "SELECT ?" values), .move 0, .move 0]
    let st := (Statement.make {} "SELECT ?" none true).value
    s.task? 0 = some { number := 0, control := .begin ⟨0, .query⟩ values } ∧ s.statements[0]? = some st ∧
      st.config.NamesDialect ∧ st.stage = .prepared ∧
      FinishesSoundly (s.happen (.move 0)) 0 ⟨0, .query⟩ values (List.replicate 4 (.move 0)) := by
  intro lost values s st
  have htask : s.task? 0 = some { number := 0, control := .begin ⟨0, .query⟩ values } := rfl
  have hst : s.statements[0]? = some st := rfl
  have hd : st.config.NamesDialect := ⟨.generic, rfl⟩
  obtain ⟨-, hprepared, -⟩ := use_departs .waiting {}
    [.transport lost, .launch 0 (.direct .query "SELECT ?" values), .move 0, .move 0]
    (t := { number := 0, control := .begin ⟨0, .query⟩ values }) htask rfl hst hd
  have hgone : (((s.happen (.move 0)).follow (List.replicate 4 (.move 0))).task? 0).isNone = true := by
    decide +kernel
  refine ⟨htask, hst, hd, rfl, (hprepared rfl (List.replicate 4 (.move 0))).resolve_left ?_⟩
  rintro ⟨t', ht', -⟩
  rw [Option.isNone_iff_eq_none.mp hgone] at ht'
  cases ht'

/-- An integer of one digit more than can be written. -/
theorem use_departs_overlong :
    let values : List Value := [.int (Nat.pow 10 Number.digitLimit : Nat)]
    let failure : Failure := .foreign .value Number.Overlong.written.message
    let s := (Session.opened .blocking {}).follow
      (.launch 0 (.direct .query "SELECT ?" values) :: List.replicate 4 (.move 0))
    (rewrite {} "SELECT ?" values none).value = .error (.literal (.overlong .written)) ∧
      (RewriteError.literal (.overlong .written)).raised "SELECT ?" = { failure } ∧
      (s.task? 0).bind (·.control.raised?) = some { failure } := by
  intro values failure s
  exact ⟨by decide +kernel, rfl, by decide +kernel⟩

end Session
end Prepared
