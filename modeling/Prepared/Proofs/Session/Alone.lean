import Prepared.Proofs.Session.Move

/-!
# Steps without contest

As long as no claim is requested while it is held, nobody waits: there is one
task at a time, and it goes on until it ends. Every move leaves it with fewer
moves to make, so that the moves a step is given are enough. Main statement: a
step that is taken without contest is answered.
-/

namespace Prepared

theorem Claim.isOpen_of_free {c : Claim} (hq : c.queue = []) (hh : c.held = false) : c.isOpen = true := by
  simp [isOpen, hq, hh]

theorem Claim.queue_release {c c' : Claim} {wakes : Option Nat} (hq : c.queue = [])
    (h : c.release = some (c', wakes)) : c'.queue = [] ∧ wakes = none := by
  have hwake : ({ c with held := false } : Claim).wakeFirst = ({ c with held := false }, none) := by
    simp [wakeFirst, hq]
  unfold release at h
  split at h
  · rw [hwake] at h
    obtain ⟨rfl, rfl⟩ := Prod.mk.inj (Option.some.inj h)
    exact ⟨hq, rfl⟩
  · cases h

theorem Claim.queue_resume {c : Claim} (hq : c.queue = []) (task : Nat) (cancelled : Bool) :
    (c.resume task cancelled).claim.queue = [] ∧ (c.resume task cancelled).wakes = none := by
  have hrest : (c.without task).queue = [] := by simp [without, hq]
  unfold resume
  dsimp only
  split
  · split
    · exact ⟨hrest, rfl⟩
    · simp [wakeFirst, hrest]
  · exact ⟨hrest, rfl⟩

theorem Step.size_pos (step : Step) : 0 < step.size := by
  cases step <;> simp [size]

theorem Control.budget_pos (c : Control) : 0 < c.budget := by
  cases c with
  | start step => exact Nat.mul_pos (by decide) step.size_pos
  | _ => simp [budget]

namespace Session

def contests (s : Session) (t : Task) : Bool :=
  match t.control with
  | .claim _ => s.claim.held
  | _ => false

def settlesFreely : Nat → Session → Bool
  | 0, _ => true
  | n + 1, s =>
    match s.running with
    | some t => !s.contests t && settlesFreely n (s.move t)
    | none => true

def runsFreely (s : Session) (number : Nat) : List Step → Bool
  | [] => true
  | step :: steps =>
    let launched := s.launch number step
    launched.settlesFreely launched.budget && runsFreely (s.take number step) (number + 1) steps

structure AtRest (s : Session) : Prop where
  tasks : s.tasks = []
  ready : s.ready = []
  queue : s.claim.queue = []

structure Alone (s : Session) (t : Task) : Prop where
  tasks : s.tasks = [t]
  ready : s.ready = [t.number]
  queue : s.claim.queue = []

def Goes (s s' : Session) : Prop := ∃ es, s'.events = s.events ++ es ∧ es.filterMap (·.ended?) = []

def Advances (s : Session) (t : Task) (s' : Session) : Prop :=
  ∃ t', t'.number = t.number ∧ s'.Alone t' ∧ s'.budget < s.budget ∧ s.Goes s'

variable {s s' : Session} {t : Task}

theorem Goes.of_eq (h : s'.events = s.events) : s.Goes s' := ⟨[], by simp [h], rfl⟩

theorem Goes.trans {s'' : Session} (h : s.Goes s') (h' : s'.Goes s'') : s.Goes s'' := by
  obtain ⟨es, he, hn⟩ := h
  obtain ⟨es', he', hn'⟩ := h'
  exact ⟨es ++ es', by rw [he', he, List.append_assoc], by rw [List.filterMap_append, hn, hn']; rfl⟩

theorem goes_log (s : Session) (entries : List Entry) : s.Goes (s.log entries) := by
  refine ⟨entries.map .logged, rfl, ?_⟩
  rw [List.filterMap_map, List.filterMap_eq_nil_iff]
  exact fun _ _ => rfl

theorem goes_record (s : Session) {e : Event} (he : e.ended? = none) : s.Goes (s.record e) :=
  ⟨[e], rfl, by simp [he]⟩

def framesBudget (frames : List Frame) : Nat := frames.foldr (·.budget + ·) 0

theorem Alone.budget (h : s.Alone t) : s.budget = t.control.budget + framesBudget t.frames + hookBudget s.hook := by
  simp [Session.budget, h.tasks, Task.budget, framesBudget]

theorem AtRest.launch (h : s.AtRest) (number : Nat) (step : Step) :
    (s.launch number step).Alone { number, control := .start step } :=
  ⟨by simp [Session.launch, h.tasks], by simp [Session.launch, h.ready], h.queue⟩

theorem AtRest.running (h : s.AtRest) : s.running = none := by simp [Session.running, h.ready]

namespace Alone

theorem task? (h : s.Alone t) : s.task? t.number = some t := by simp [Session.task?, h.tasks]

theorem running (h : s.Alone t) : s.running = some t := by
  rw [Session.running, h.ready, List.head?_cons]
  exact h.task?

theorem put (h : s.Alone t) (t' : Task) (hn : t'.number = t.number) (tasks : s'.tasks = (s.put t').tasks)
    (ready : s'.ready = s.ready) (queue : s'.claim.queue = [])
    (budget : t'.control.budget + framesBudget t'.frames + hookBudget s'.hook <
      t.control.budget + framesBudget t.frames + hookBudget s.hook) (goes : s.Goes s') : s.Advances t s' := by
  have halone : s'.Alone t' := by
    refine ⟨?_, by rw [ready, h.ready, hn], queue⟩
    rw [tasks, Session.put, h.tasks, List.map_singleton, if_pos hn.symm]
  exact ⟨t', hn, halone, by rw [halone.budget, h.budget]; exact budget, goes⟩

theorem goto (h : s.Alone t) (control : Control) (tasks : s'.tasks = (s.goto t control).tasks)
    (ready : s'.ready = s.ready) (queue : s'.claim.queue = []) (hook : hookBudget s'.hook ≤ hookBudget s.hook)
    (budget : control.budget < t.control.budget) (goes : s.Goes s') : s.Advances t s' :=
  h.put { t with control } rfl tasks ready queue (by dsimp only; omega) goes

theorem passes (h : s.Alone t) (control : Control) (budget : control.budget < t.control.budget) :
    s.Advances t (s.goto t control) :=
  h.goto control rfl rfl h.queue (Nat.le_refl _) budget (.of_eq rfl)

theorem push (h : s.Alone t) (t₁ : Task) (hn : t₁.number = t.number) (steps : List Step) (next : Control)
    {r : Session} (tasks : r.tasks = s.tasks) (ready : r.ready = s.ready) (claim : r.claim = s.claim)
    (budget : movesPerStep * stepSizes steps + next.budget + framesBudget t₁.frames + hookBudget r.hook <
      t.control.budget + framesBudget t.frames + hookBudget s.hook) (goes : s.Goes r) :
    s.Advances t (r.push t₁ steps next) := by
  have hqueue : r.claim.queue = [] := by rw [claim, h.queue]
  have hput : ∀ t' : Task, (r.put t').tasks = (s.put t').tasks := by
    intro t'
    simp only [Session.put, tasks]
  cases steps with
  | nil =>
    refine h.put { t₁ with control := next } hn (hput _) ready hqueue ?_ goes
    simpa [stepSizes, Session.push, Session.goto, Session.put] using budget
  | cons step rest =>
    -- What is left of the steps is put into the frame, and counts there.
    refine h.put { t₁ with control := .start step, frames := ⟨rest, next⟩ :: t₁.frames } hn (hput _) ready hqueue ?_
      goes
    rw [stepSizes, Nat.mul_add] at budget
    simp only [Control.budget, framesBudget, List.foldr_cons, Frame.budget, Session.push, Session.put] at budget ⊢
    omega

theorem grant (h : s.Alone t) (r : Request) {claim : Claim} (hq : claim.queue = []) (budget : 8 < t.control.budget) :
    s.Advances t (s.grant t r claim) := by
  let made := Statement.make s.config r.sql r.config true
  have hgoes : s.Goes (s.grant t r claim) := by
    cases r <;> exact goes_log (({ s with claim } : Session).add made.value) _
  cases r with
  | keep name sql config =>
    exact h.goto (.done (.prepared made.value.profile.count made.value.inherits)) rfl rfl hq (Nat.le_refl _)
      (Nat.lt_trans (by simp [Control.budget]) budget) hgoes
  | direct purpose sql values =>
    exact h.goto (.begin ⟨s.statements.length, purpose⟩ values) rfl rfl hq (Nat.le_refl _) budget hgoes

theorem request (h : s.Alone t) {r : Request} (hc : t.control = .claim r) (hheld : s.claim.held = false) :
    s.Advances t (s.request t r) := by
  rw [Session.request, if_pos (Claim.isOpen_of_free h.queue hheld)]
  exact h.grant r h.queue (by simp [hc, Control.budget])

theorem resume (h : s.Alone t) {r : Request} (hc : t.control = .wait r) : s.Advances t (s.resume t r) := by
  obtain ⟨hqueue, hwakes⟩ := Claim.queue_resume h.queue t.number t.cancelled
  unfold Session.resume
  dsimp only
  split
  · exact h.grant r hqueue (by simp [hc, Control.budget])
  · refine h.put { t with control := .done cancelledAnswer, cancelled := false } rfl rfl ?_ hqueue ?_ (.of_eq rfl)
    · rw [hwakes]
      exact List.append_nil _
    · simp [hc, Control.budget, Session.wake, Session.put]

theorem beginUse (h : s.Alone t) {u : Use} {values : List Value} (hc : t.control = .begin u values) :
    s.Advances t (s.beginUse t u values) := by
  unfold Session.beginUse
  split
  · exact h.passes (.done .noStatement) (by simp [hc, Control.budget])
  · rename_i st _
    split
    · have hgoes := goes_log (s.setStage u.statement .executing) (st.build u.purpose values).1
      dsimp only
      split
      · rename_i r _
        exact h.goto (.finish u (.error r)) rfl rfl h.queue (Nat.le_refl _) (by simp [hc, Control.budget]) hgoes
      · rename_i sql _
        exact h.goto (.write u sql) rfl rfl h.queue (Nat.le_refl _) (by simp [hc, Control.budget]) hgoes
    · exact h.passes (.done _) (by simp [hc, Control.budget])

theorem call (h : s.Alone t) (u : Use) (c : Call) {next : Control} (budget : next.budget < t.control.budget) :
    s.Advances t (s.call t u c next) := by
  have hgoes : s.Goes (s.record (.called u.statement c)) := goes_record s rfl
  have hgoto : s.Advances t ((s.record (.called u.statement c)).goto t next) :=
    h.goto next rfl rfl h.queue (Nat.le_refl _) budget hgoes
  unfold Session.call
  dsimp only
  split
  · rename_i on steps hhook
    split
    · have hsteps : s.hook = some (on, steps) := hhook
      refine h.push t rfl steps next rfl rfl rfl ?_ hgoes
      rw [hsteps]
      simp only [hookBudget]
      omega
    · exact hgoto
  · exact hgoto

theorem send (h : s.Alone t) {u : Use} {sql : String} (hc : t.control = .send u sql) :
    s.Advances t (s.send t u sql) := by
  unfold Session.send
  split
  · rename_i r _
    exact h.goto (.finish u (.error r)) rfl rfl h.queue (Nat.le_refl _) (by simp [hc, Control.budget]) (goes_log s _)
  · exact h.goto (.read u sql) rfl rfl h.queue (Nat.le_refl _) (by simp [hc, Control.budget]) (goes_record s rfl)

theorem finish (h : s.Alone t) {u : Use} {outcome : Except Raised Outcome} (hc : t.control = .finish u outcome) :
    s.Advances t (s.finish t u outcome) := by
  have hreleased : s.Goes ((s.setStage u.statement .idle).record (.released u.statement s.claim.held)) :=
    goes_record (s.setStage u.statement .idle) rfl
  have hbudget : 2 < t.control.budget := by simp [hc, Control.budget]
  unfold Session.finish
  dsimp only
  split
  · exact h.goto (.done notHeld) rfl rfl h.queue (Nat.le_refl _) hbudget hreleased
  · rename_i claim wakes hrelease
    obtain ⟨hqueue, rfl⟩ := Claim.queue_release h.queue hrelease
    exact h.goto (.done (.ofOutcome outcome)) rfl (List.append_nil _) hqueue (Nat.le_refl _) hbudget
      (hreleased.trans (goes_log _ [releasedEntry]))

theorem hookBudget_applyChange (s : Session) (c : Change) : hookBudget (s.applyChange c).hook ≤ hookBudget s.hook := by
  unfold applyChange
  dsimp only
  split
  · exact Nat.zero_le _
  · exact Nat.le_refl _

theorem start (h : s.Alone t) {step : Step} (hc : t.control = .start step) : s.Advances t (s.start t step) := by
  have hbudget : movesPerStep ≤ t.control.budget := by
    rw [hc]
    exact Nat.le_mul_of_pos_right _ step.size_pos
  have hdone : 2 < t.control.budget := Nat.lt_of_lt_of_le (by decide) hbudget
  have hclaim : 10 < t.control.budget := Nat.lt_of_lt_of_le (by decide) hbudget
  cases step with
  | prepare name sql settings =>
    simp only [Session.start]
    split
    · exact h.passes (.done _) hdone
    · rename_i config _
      exact h.passes (.claim (.keep name sql config)) hclaim
  | make name sql settings =>
    simp only [Session.start]
    split
    · exact h.passes (.done _) hdone
    · rename_i config _
      let made := Statement.make s.config sql config false
      exact h.goto (.done _) rfl rfl h.queue (Nat.le_refl _) hdone (goes_log (s.add made.value) _)
  | use name purpose values =>
    simp only [Session.start]
    split
    · exact h.passes (.done _) hdone
    · rename_i index _
      exact h.passes (.begin ⟨index, purpose⟩ values) (Nat.lt_trans (show 8 < 10 by decide) hclaim)
  | direct purpose sql values => exact h.passes (.claim (.direct purpose sql values)) hclaim
  | close name => exact h.passes (.done _) hdone
  | details name => exact h.passes (.done _) hdone
  | operation name => exact h.passes (.done _) hdone
  | change c => exact h.goto (.done .changed) rfl rfl h.queue (hookBudget_applyChange s c) hdone (.of_eq rfl)
  | hook c on steps =>
    -- The steps that the transport is left with are among those of the step.
    refine h.put { t with control := .done .changed } rfl rfl rfl h.queue ?_ (.of_eq rfl)
    rw [hc]
    simp only [Control.budget, Step.size, Session.start, Session.goto, Session.put, hookBudget, Nat.mul_add,
      movesPerStep]
    omega
  | cancel number =>
    simp only [Session.start]
    cases hm : s.task? number with
    | none => exact h.passes (.done _) hdone
    | some target =>
      -- The only task there is cancels itself.
      obtain rfl : target = t := by simpa [h.tasks] using (mem_of_task? hm).1
      let t' : Task := { target with cancelled := true }
      have hcancel : s.cancel target = s.put t' := if_neg (by simp [Claim.waiting?, h.queue])
      have hput : (s.put t').tasks = [t'] := by simp [Session.put, h.tasks, t']
      have ht' : (s.put t').task? target.number = some t' := by simp [Session.task?, hput, t']
      simp only [hcancel, ht', Option.getD_some]
      refine h.put { t' with control := .done (.cancelled true) } rfl ?_ rfl h.queue ?_ (.of_eq rfl)
      · simp [Session.goto, Session.put, h.tasks, t']
      · exact Nat.add_lt_add_right (Nat.add_lt_add_right hdone _) _

theorem conclude (h : s.Alone t) {answer : Answer} (hc : t.control = .done answer) :
    s.Advances t (s.conclude t answer) ∨
      (s.conclude t answer).AtRest ∧ (s.conclude t answer).events = s.events ++ [.ended t.number answer] := by
  unfold Session.conclude
  split
  · refine Or.inr ⟨⟨?_, ?_, h.queue⟩, rfl⟩
    · simp [Session.yield, Session.record, h.tasks]
    · simp [Session.yield, Session.record, h.ready]
  · rename_i rest next frames hframes
    refine Or.inl (h.push { t with frames } rfl rest next rfl rfl rfl ?_ (goes_record s rfl))
    rw [hc, hframes]
    simp only [framesBudget, List.foldr_cons, Frame.budget, Control.budget, Session.record]
    omega

/-- Each move brings the task closer to its end, or ends it. -/
theorem move (h : s.Alone t) (hfree : s.contests t = false) :
    s.Advances t (s.move t) ∨
      ∃ answer, (s.move t).AtRest ∧ (s.move t).events = s.events ++ [.ended t.number answer] := by
  unfold Session.move
  split
  · exact Or.inl (h.start ‹_›)
  · rename_i r hc
    rw [contests, hc] at hfree
    exact Or.inl (h.request hc hfree)
  · exact Or.inl (h.resume ‹_›)
  · exact Or.inl (h.beginUse ‹_›)
  · rename_i hc
    exact Or.inl (h.call _ _ (by simp [hc, Control.budget]))
  · exact Or.inl (h.send ‹_›)
  · rename_i hc
    exact Or.inl (h.call _ _ (by simp [hc, Control.budget]))
  · rename_i hc
    exact Or.inl (h.passes _ (by simp [hc, Control.budget]))
  · exact Or.inl (h.finish ‹_›)
  · rename_i answer hc
    exact (h.conclude hc).imp_right fun hended => ⟨answer, hended⟩

end Alone

theorem settle_succ (h : s.running = some t) (n : Nat) : s.settle (n + 1) = (s.move t).settle n := by
  rw [settle, h]

theorem settlesFreely_succ (h : s.running = some t) (n : Nat) :
    s.settlesFreely (n + 1) = true ↔ s.contests t = false ∧ (s.move t).settlesFreely n = true := by
  rw [settlesFreely, h, Bool.and_eq_true, Bool.not_eq_true']

theorem AtRest.settle (h : s.AtRest) : ∀ n, s.settle n = s
  | 0 => rfl
  | n + 1 => by rw [Session.settle, h.running]

theorem AtRest.settlesFreely (h : s.AtRest) : ∀ n, s.settlesFreely n = true
  | 0 => rfl
  | n + 1 => by rw [Session.settlesFreely, h.running]

/-- The moves that the budget allows bring the task to its end. -/
theorem Alone.settle (n : Nat) (h : s.Alone t) (hfree : s.settlesFreely n = true) (hn : s.budget ≤ n) :
    (s.settle n).AtRest ∧ ∃ es answer, (s.settle n).events = s.events ++ es ++ [.ended t.number answer] ∧
      es.filterMap (·.ended?) = [] := by
  induction n generalizing s t with
  | zero =>
    rw [h.budget] at hn
    exact absurd (Nat.lt_of_lt_of_le t.control.budget_pos (by omega)) (Nat.lt_irrefl 0)
  | succ n ih =>
    rw [settlesFreely_succ h.running] at hfree
    rw [settle_succ h.running]
    rcases h.move hfree.1 with ⟨t', hn', halone, hbudget, es, hes, hquiet⟩ | ⟨answer, hrest, hevents⟩
    · obtain ⟨hrest, es', answer, he, hquiet'⟩ := ih halone hfree.2 (by omega)
      refine ⟨hrest, es ++ es', answer, ?_, ?_⟩
      · rw [he, hes, hn', List.append_assoc s.events]
      · rw [List.filterMap_append, hquiet, hquiet']
        rfl
    · rw [hrest.settle]
      exact ⟨hrest, [], answer, by rw [hevents, List.append_nil], rfl⟩

theorem AtRest.take (h : s.AtRest) (number : Nat) (step : Step)
    (hfree : (s.launch number step).settlesFreely (s.launch number step).budget = true) :
    (s.take number step).AtRest ∧ ∃ es answer, (s.take number step).events = s.events ++ es ++ [.ended number answer] ∧
      es.filterMap (·.ended?) = [] :=
  (h.launch number step).settle _ hfree (Nat.le_refl _)

end Session
end Prepared
