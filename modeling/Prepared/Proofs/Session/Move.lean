import Prepared.Proofs.Session.Task

/-!
# What a step does when it is taken

Taking a step has few effects that matter to a connection: its task goes on
somewhere else, and another task is cancelled or a statement made without the
claim. None of them touches the claim or the statements that there are.
-/

namespace Prepared

structure Control.Plain (c : Control) : Prop where
  use : c.use? = none
  waiting : c.isWaiting = false

theorem Control.Plain.start (step : Step) : (Control.start step).Plain := ⟨rfl, rfl⟩

theorem Control.Plain.claim (r : Request) : (Control.claim r).Plain := ⟨rfl, rfl⟩

theorem Control.Plain.begin (u : Use) (values : List Value) : (Control.begin u values).Plain := ⟨rfl, rfl⟩

theorem Control.Plain.done (answer : Answer) : (Control.done answer).Plain := ⟨rfl, rfl⟩

/-- Neither a call of the transport nor a claim that is given back. -/
def Event.isQuiet : Event → Bool
  | .called .. | .sent .. | .released .. => false
  | _ => true

namespace Session

structure Alike (s s' : Session) : Prop where
  mode : s'.mode = s.mode
  claim : s'.claim = s.claim
  statements : s'.statements = s.statements
  ready : s'.ready = s.ready
  events : ∃ es, s'.events = s.events ++ es ∧ ∀ e ∈ es, e.isQuiet = true

variable {s s' : Session} {t : Task}

theorem Alike.of_eq (mode : s'.mode = s.mode) (claim : s'.claim = s.claim)
    (statements : s'.statements = s.statements) (ready : s'.ready = s.ready) (events : s'.events = s.events) :
    s.Alike s' :=
  ⟨mode, claim, statements, ready, ⟨[], by simp [events]⟩⟩

def Passes (s : Session) (t : Task) (s' : Session) : Prop :=
  ∃ control, control.Plain ∧ (∀ step, control ≠ .start step) ∧ s'.tasks = (s.goto t control).tasks ∧ s.Alike s'

theorem passes_goto (s : Session) (t : Task) {control : Control} (hp : control.Plain)
    (hs : ∀ step, control ≠ .start step) : s.Passes t (s.goto t control) :=
  ⟨control, hp, hs, rfl, .of_eq rfl rfl rfl rfl rfl⟩

theorem passes_done (s : Session) (t : Task) (answer : Answer) : s.Passes t (s.goto t (.done answer)) :=
  passes_goto s t (.done answer) fun _ h => nomatch h

theorem passes_claim (s : Session) (t : Task) (r : Request) : s.Passes t (s.goto t (.claim r)) :=
  passes_goto s t (.claim r) fun _ h => nomatch h

theorem passes_begin (s : Session) (t : Task) (u : Use) (values : List Value) :
    s.Passes t (s.goto t (.begin u values)) :=
  passes_goto s t (.begin u values) fun _ h => nomatch h

theorem numbers_cancel (s : Session) (target : Task) :
    (s.cancel target).tasks.map (·.number) = s.tasks.map (·.number) := by
  unfold cancel
  split
  · rfl
  · exact numbers_put s _

theorem task?_cancel {target : Task} (hm : s.task? target.number = some target) {n : Nat}
    (ht : s.task? n = some t) :
    ∃ t', (s.cancel target).task? n = some t' ∧ t'.number = t.number ∧ t'.control = t.control ∧
      t'.frames = t.frames := by
  unfold cancel
  split
  · exact ⟨t, ht, rfl, rfl, rfl⟩
  · rw [task?_put, ht]
    by_cases hn : n = target.number
    · subst hn
      obtain rfl : t = target := Option.some.inj (ht.symm.trans hm)
      exact ⟨{ t with cancelled := true }, if_pos rfl, rfl, rfl, rfl⟩
    · exact ⟨t, if_neg hn, rfl, rfl, rfl⟩

theorem underway_cancel (hn : (s.tasks.map (·.number)).Nodup) {target : Task}
    (hm : s.task? target.number = some target) : (s.cancel target).underway = s.underway := by
  unfold cancel
  split
  · rfl
  · exact underway_put hn hm rfl rfl

def makes (s : Session) (t : Task) (name sql : String) (config : Option Config) : Session :=
  let made := Statement.make s.config sql config false
  (((s.add made.value).log (made.notes.map (·.entry))).keep name s.statements.length).goto t
    (.done (.prepared made.value.profile.count made.value.inherits))

/-- Taking a step lets the task go on, cancels a task first, or makes a statement first. -/
theorem start_cases {step : Step} (ht : s.task? t.number = some t) (hc : t.control = .start step) :
    s.Passes t (s.start t step) ∨
      (∃ target t', step = .cancel target.number ∧ s.task? target.number = some target ∧
        (s.cancel target).task? t'.number = some t' ∧ t'.number = t.number ∧ t'.control = .start step ∧
        t'.frames = t.frames ∧ s.start t step = (s.cancel target).goto t' (.done (.cancelled true))) ∨
      ∃ name sql settings config, step = .make name sql settings ∧ s.start t step = s.makes t name sql config := by
  cases step with
  | prepare name sql settings =>
    left
    simp only [start]
    split
    · exact passes_done ..
    · exact passes_claim ..
  | make name sql settings =>
    simp only [start]
    split
    · exact Or.inl (passes_done ..)
    · rename_i config _
      exact Or.inr (Or.inr ⟨name, sql, settings, config, rfl, rfl⟩)
  | use name purpose values =>
    left
    simp only [start]
    split
    · exact passes_done ..
    · exact passes_begin ..
  | direct purpose sql values => exact Or.inl (passes_claim ..)
  | close name => exact Or.inl (passes_done ..)
  | details name => exact Or.inl (passes_done ..)
  | operation name => exact Or.inl (passes_done ..)
  | change c => exact Or.inl ⟨_, .done .changed, fun _ h => (nomatch h), rfl, .of_eq rfl rfl rfl rfl rfl⟩
  | hook c on steps => exact Or.inl ⟨_, .done .changed, fun _ h => (nomatch h), rfl, .of_eq rfl rfl rfl rfl rfl⟩
  | cancel number =>
    simp only [start]
    cases hm : s.task? number with
    | none => exact Or.inl (passes_done ..)
    | some target =>
      refine Or.inr (Or.inl ?_)
      obtain rfl : target.number = number := number_of_task? hm
      obtain ⟨t', ht', hn, hc', hf⟩ := task?_cancel hm ht
      refine ⟨target, t', rfl, hm, by rw [hn]; exact ht', hn, hc'.trans hc, hf, ?_⟩
      simp only [ht', Option.getD_some]

/-! ## What a move does with the tasks -/

/-- The task goes on, and no other is touched. What it is in the middle of it
stays in, but for a use that it finishes. -/
def Steps (s : Session) (t : Task) (s' : Session) : Prop :=
  ∃ t', s'.tasks = (s.put t').tasks ∧ t'.number = t.number ∧
    ∀ v ∈ t.uses, v ∈ t'.uses ∨ ∃ outcome, t.control = .finish v outcome

theorem task?_of_steps (h : s.Steps t s') {n : Nat} (hne : n ≠ t.number) : s'.task? n = s.task? n := by
  obtain ⟨t', tasks, hn, -⟩ := h
  rw [task?_congr tasks, task?_put, if_neg (by rw [hn]; exact hne)]

theorem steps_put (t' : Task) (hn : t'.number = t.number) (hf : t'.frames = t.frames)
    (hu : ∀ v, t.control.use? = some v → t'.control.use? = some v) (tasks : s'.tasks = (s.put t').tasks) :
    s.Steps t s' :=
  ⟨t', tasks, hn, fun _ hv => Or.inl (Task.mem_uses_of_use hf hu hv)⟩

theorem steps_goto (control : Control) (hu : ∀ v, t.control.use? = some v → control.use? = some v)
    (tasks : s'.tasks = (s.goto t control).tasks) : s.Steps t s' :=
  steps_put { t with control } rfl rfl hu tasks

theorem steps_push (t₁ : Task) (hn : t₁.number = t.number) (steps : List Step) (next : Control)
    (hu : next.use?.toList ++ t₁.frames.filterMap (·.next.use?) = t.uses)
    (tasks : s'.tasks = (s.push t₁ steps next).tasks) : s.Steps t s' := by
  cases steps with
  | nil =>
    have huses : ({ t₁ with control := next } : Task).uses = t.uses := (Task.uses_eq _).trans hu
    exact ⟨{ t₁ with control := next }, tasks, hn, fun v hv => Or.inl (huses ▸ hv)⟩
  | cons step rest =>
    have huses := (t₁.uses_push step rest next).trans hu
    exact ⟨{ t₁ with control := .start step, frames := ⟨rest, next⟩ :: t₁.frames }, tasks, hn,
      fun v hv => Or.inl (huses ▸ hv)⟩

theorem keeps_of_not_use {c : Control} (hu : c.use? = none) (c' : Control) :
    ∀ v, c.use? = some v → c'.use? = some v := by
  intro v hv
  rw [hu] at hv
  cases hv

theorem steps_grant (hu : t.control.use? = none) (r : Request) (claim : Claim) :
    s.Steps t (s.grant t r claim) := by
  cases r <;> exact steps_goto _ (keeps_of_not_use hu _) rfl

theorem steps_request (hu : t.control.use? = none) (r : Request) : s.Steps t (s.request t r) := by
  unfold request
  split
  · exact steps_grant hu ..
  · split
    · exact steps_goto _ (keeps_of_not_use hu _) rfl
    · dsimp only
      split
      · exact steps_put { t with control := .wait r, cancelled := false } rfl rfl (keeps_of_not_use hu _) rfl
      · exact steps_goto _ (keeps_of_not_use hu _) rfl

theorem steps_resume (hu : t.control.use? = none) (r : Request) : s.Steps t (s.resume t r) := by
  unfold resume
  dsimp only
  split
  · exact steps_grant hu ..
  · exact steps_put { t with control := .done cancelledAnswer, cancelled := false } rfl rfl
      (keeps_of_not_use hu _) rfl

theorem steps_beginUse (hu : t.control.use? = none) (u : Use) (values : List Value) :
    s.Steps t (s.beginUse t u values) := by
  unfold beginUse
  split
  · exact steps_goto _ (keeps_of_not_use hu _) rfl
  · split
    · dsimp only
      split <;> exact steps_goto _ (keeps_of_not_use hu _) rfl
    · exact steps_goto _ (keeps_of_not_use hu _) rfl

theorem steps_call (u : Use) (c : Call) {next : Control} (hu : next.use? = t.control.use?) :
    s.Steps t (s.call t u c next) := by
  have hgoto : ∀ v, t.control.use? = some v → next.use? = some v := fun v hv => hu.trans hv
  unfold call
  dsimp only
  split
  · rename_i steps _
    split
    · exact steps_push t rfl steps next (by rw [hu, t.uses_eq]) (by cases steps <;> rfl)
    · exact steps_goto next hgoto rfl
  · exact steps_goto next hgoto rfl

theorem steps_send {u : Use} (hu : t.control.use? = some u) (sql : String) : s.Steps t (s.send t u sql) := by
  unfold send
  split
  · rename_i r _
    exact steps_goto (.finish u (.error r)) (fun v hv => hu.symm.trans hv) rfl
  · exact steps_goto (.read u sql) (fun v hv => hu.symm.trans hv) rfl

theorem steps_finish {u : Use} {outcome : Except Raised Outcome} (hc : t.control = .finish u outcome) :
    s.Steps t (s.finish t u outcome) := by
  have hdone : ∀ answer, ∀ v ∈ t.uses, v ∈ ({ t with control := .done answer } : Task).uses ∨
      ∃ outcome, t.control = .finish v outcome := by
    intro answer v hv
    rw [t.uses_eq, hc] at hv
    rcases List.mem_append.mp hv with hv | hv
    · obtain rfl := List.mem_singleton.mp hv
      exact Or.inr ⟨outcome, hc⟩
    · rw [Task.uses_eq]
      exact Or.inl (List.mem_append_right _ hv)
  unfold finish
  dsimp only
  split
  · exact ⟨{ t with control := .done notHeld }, rfl, rfl, hdone notHeld⟩
  · exact ⟨{ t with control := .done (.ofOutcome outcome) }, rfl, rfl, hdone (.ofOutcome outcome)⟩

/-- What a move does with the tasks: its own goes on, or another is cancelled too, or its own ends. -/
theorem move_tasks (ht : s.task? t.number = some t) :
    s.Steps t (s.move t) ∨
      (∃ target t', t.control = .start (.cancel target.number) ∧ s.task? target.number = some target ∧
        (s.cancel target).task? t'.number = some t' ∧ t'.number = t.number ∧ t'.control = t.control ∧
        t'.frames = t.frames ∧ (s.cancel target).Steps t' (s.move t)) ∨
      (t.uses = [] ∧ (s.move t).tasks = s.tasks.filter (·.number != t.number)) := by
  unfold move
  split
  · rename_i step hc
    have hu : ∀ t' : Task, t'.control = .start step → t'.control.use? = none := fun t' hc' => by rw [hc']; rfl
    rcases start_cases ht hc with
      ⟨control, -, -, tasks, -⟩ | ⟨target, t', hstep, hm, ht', hn, hc', hf, he⟩ | ⟨name, sql, settings, config, -, he⟩
    · exact Or.inl (steps_goto control (keeps_of_not_use (hu t hc) control) tasks)
    · refine Or.inr (Or.inl ⟨target, t', hstep ▸ hc, hm, ht', hn, hc'.trans hc.symm, hf, ?_⟩)
      rw [he]
      exact steps_goto _ (keeps_of_not_use (hu t' hc') _) rfl
    · rw [he]
      exact Or.inl (steps_goto _ (keeps_of_not_use (hu t hc) _) rfl)
  · rename_i hc
    exact Or.inl (steps_request (by rw [hc]; rfl) _)
  · rename_i hc
    exact Or.inl (steps_resume (by rw [hc]; rfl) _)
  · rename_i hc
    exact Or.inl (steps_beginUse (by rw [hc]; rfl) _ _)
  · rename_i hc
    exact Or.inl (steps_call _ _ (by rw [hc]; rfl))
  · rename_i hc
    exact Or.inl (steps_send (by rw [hc]; rfl) _)
  · rename_i hc
    exact Or.inl (steps_call _ _ (by rw [hc]; rfl))
  · rename_i hc
    exact Or.inl (steps_goto _ (fun v hv => by rw [hc] at hv; exact hv) rfl)
  · exact Or.inl (steps_finish ‹_›)
  · rename_i answer hc
    have hu : t.uses = t.frames.filterMap (·.next.use?) := by rw [t.uses_eq, hc]; rfl
    unfold conclude
    split
    · rename_i hframes
      exact Or.inr (Or.inr ⟨by rw [hu, hframes]; rfl, rfl⟩)
    · rename_i rest next frames hframes
      refine Or.inl (steps_push { t with frames } rfl rest next ?_ (by cases rest <;> rfl))
      rw [hu, hframes, List.filterMap_cons]
      cases next.use? <;> rfl

theorem mem_numbers_move (ht : s.task? t.number = some t) {n : Nat}
    (hn : n ∈ (s.move t).tasks.map (·.number)) : n ∈ s.tasks.map (·.number) := by
  rcases move_tasks ht with ⟨t', tasks, -⟩ | ⟨target, t', -, -, -, -, -, -, t'', tasks, -⟩ | ⟨-, tasks⟩
  · rwa [tasks, numbers_put] at hn
  · rwa [tasks, numbers_put, numbers_cancel] at hn
  · rw [tasks] at hn
    exact (List.filter_sublist.map _).subset hn

theorem task?_move (ht : s.task? t.number = some t) {n : Nat} (hne : n ≠ t.number) {u : Task}
    (hu : s.task? n = some u) :
    ∃ u', (s.move t).task? n = some u' ∧ u'.control = u.control ∧ u'.frames = u.frames := by
  rcases move_tasks ht with hs | ⟨target, t', -, hm, -, hn, -, -, hs⟩ | ⟨-, tasks⟩
  · exact ⟨u, (task?_of_steps hs hne).trans hu, rfl, rfl⟩
  · obtain ⟨u', hu', -, hc, hf⟩ := task?_cancel hm hu
    exact ⟨u', (task?_of_steps hs (by rw [hn]; exact hne)).trans hu', hc, hf⟩
  · exact ⟨u, by rw [task?_of_filter tasks, if_neg hne, hu], rfl, rfl⟩

theorem mem_uses_of_steps (h : s.Steps t s') (ht : s.task? t.number = some t) {v : Use} (hv : v ∈ t.uses) :
    (∃ t', s'.task? t.number = some t' ∧ v ∈ t'.uses) ∨ ∃ outcome, t.control = .finish v outcome := by
  obtain ⟨t', tasks, hn, hkeeps⟩ := h
  refine (hkeeps v hv).imp (fun hv' => ⟨t', ?_, hv'⟩) id
  rw [task?_congr tasks]
  exact task?_put_self ht hn

theorem mem_uses_move (ht : s.task? t.number = some t) {v : Use} (hv : v ∈ t.uses) :
    (∃ t', (s.move t).task? t.number = some t' ∧ v ∈ t'.uses) ∨ ∃ outcome, t.control = .finish v outcome := by
  rcases move_tasks ht with hs | ⟨target, t', -, -, ht', hn, hc, hf, hs⟩ | ⟨hnil, -⟩
  · exact mem_uses_of_steps hs ht hv
  · have huses : t'.uses = t.uses := Task.uses_of_use (by rw [hc]) hf
    have hmoved := mem_uses_of_steps hs ht' (huses ▸ hv)
    rw [hn, hc] at hmoved
    exact hmoved
  · rw [hnil] at hv
    cases hv

/-! ## What a move does with the statements -/

theorem statements_cancel (s : Session) (target : Task) : (s.cancel target).statements = s.statements := by
  unfold cancel
  split <;> rfl

theorem statements_push (s : Session) (t : Task) (steps : List Step) (next : Control) :
    (s.push t steps next).statements = s.statements := by
  cases steps <;> rfl

theorem statements_call (s : Session) (t : Task) (u : Use) (c : Call) (next : Control) :
    (s.call t u c next).statements = s.statements := by
  unfold call
  dsimp only
  split
  · split
    · exact statements_push ..
    · rfl
  · rfl

/-- What becomes of the statements in a move: one is made, one that is prepared
begins to be used, or one whose use finishes is idle. -/
theorem statements_move (ht : s.task? t.number = some t) :
    (s.move t).statements = s.statements ∨
      (∃ sql config claimed, (s.move t).statements =
        s.statements ++ [(Statement.make s.config sql config claimed).value]) ∨
      (∃ u values st, t.control = .begin u values ∧ s.statements[u.statement]? = some st ∧ st.stage = .prepared ∧
        (s.move t).statements = (s.setStage u.statement .executing).statements) ∨
      ∃ u outcome, t.control = .finish u outcome ∧
        (s.move t).statements = (s.setStage u.statement .idle).statements := by
  have hgrant (r : Request) (claim : Claim) : ∃ sql config claimed, (s.grant t r claim).statements =
      s.statements ++ [(Statement.make s.config sql config claimed).value] :=
    ⟨r.sql, r.config, true, by cases r <;> rfl⟩
  unfold move
  split
  · rename_i step hc
    rcases start_cases ht hc with ⟨_, -, -, -, hl⟩ | ⟨target, t', -, -, -, -, -, -, he⟩ | ⟨_, sql, _, config, -, he⟩
    · exact Or.inl hl.statements
    · rw [he]
      exact Or.inl (statements_cancel s target)
    · rw [he]
      exact Or.inr (Or.inl ⟨sql, config, false, rfl⟩)
  · rename_i r hc
    unfold request
    split
    · exact Or.inr (Or.inl (hgrant r _))
    · split
      · exact Or.inl rfl
      · dsimp only
        split <;> exact Or.inl rfl
  · rename_i r hc
    unfold resume
    dsimp only
    split
    · exact Or.inr (Or.inl (hgrant r _))
    · exact Or.inl rfl
  · rename_i u values hc
    unfold beginUse
    split
    · exact Or.inl rfl
    · rename_i st hst
      split
      · rename_i hprepared
        dsimp only
        split <;> exact Or.inr (Or.inr (Or.inl ⟨u, values, st, hc, hst, hprepared, rfl⟩))
      · exact Or.inl rfl
  · exact Or.inl (statements_call ..)
  · unfold send
    split <;> exact Or.inl rfl
  · exact Or.inl (statements_call ..)
  · exact Or.inl rfl
  · rename_i u outcome hc
    unfold finish
    dsimp only
    split <;> exact Or.inr (Or.inr (Or.inr ⟨u, outcome, hc, rfl⟩))
  · unfold conclude
    split
    · exact Or.inl rfl
    · exact Or.inl (statements_push ..)

/-! ## Happenings -/

inductive Comes (s : Session) : Happening → Session → Prop
  | nothing (e : Happening) : Comes s e s
  | launch {number : Nat} (hnew : s.task? number = none) (step : Step) :
    Comes s (.launch number step) (s.launch number step)
  | move {t : Task} (ht : s.task? t.number = some t) (hm : s.canMove t = true) :
    Comes s (.move t.number) (s.move t)
  | cancel {t : Task} (ht : s.task? t.number = some t) : Comes s (.cancel t.number) (s.cancel t)
  | transport (transport : Transport) : Comes s (.transport transport) { s with transport }
  | hook (call : Call) (steps : List Step) : Comes s (.hook call steps) { s with hook := some (call, steps) }

theorem comes_occur (s : Session) (e : Happening) : s.Comes e (s.occur e) := by
  cases e with
  | launch number step =>
    simp only [occur]
    split
    · rename_i hnew
      exact .launch (Option.isNone_iff_eq_none.mp hnew) step
    · exact .nothing _
  | move number =>
    simp only [occur, happen]
    cases ht : s.task? number with
    | none => exact .nothing _
    | some t =>
      obtain rfl := number_of_task? ht
      dsimp only
      split
      · exact .move ht ‹_›
      · exact .nothing _
  | cancel number =>
    simp only [occur, happen]
    cases ht : s.task? number with
    | none => exact .nothing _
    | some t =>
      obtain rfl := number_of_task? ht
      exact .cancel ht
  | transport transport => exact .transport transport
  | hook call steps => exact .hook call steps

theorem statements_occur (s : Session) (e : Happening) :
    (s.occur e).statements = s.statements ∨
      ∃ t, e = .move t.number ∧ s.task? t.number = some t ∧ s.occur e = s.move t := by
  have hcomes := comes_occur s e
  generalize s.occur e = s' at hcomes
  cases hcomes with
  | @move t ht => exact Or.inr ⟨t, rfl, ht, rfl⟩
  | @cancel target => exact Or.inl (statements_cancel s target)
  | _ => exact Or.inl rfl

theorem comes_happen (s : Session) (e : Happening) : s.Comes e (s.happen e) := by
  rw [happen_eq_occur]
  split
  · exact comes_occur s e
  · exact .nothing e

theorem Comes.task? {e : Happening} (h : s.Comes e s') {n : Nat} (ht : s.task? n = some t) (he : e ≠ .move n) :
    ∃ t', s'.task? n = some t' ∧ t'.control = t.control ∧ t'.frames = t.frames := by
  cases h with
  | @launch number hnew step =>
    refine ⟨t, ?_, rfl, rfl⟩
    rw [task?_launch, ht]
    rfl
  | @move u hu =>
    have hne : n ≠ u.number := fun hn => he (hn ▸ rfl)
    exact task?_move hu hne ht
  | cancel hm =>
    obtain ⟨t', ht', -, hc, hf⟩ := task?_cancel hm ht
    exact ⟨t', ht', hc, hf⟩
  | _ => exact ⟨t, ht, rfl, rfl⟩

theorem happen_launch {number : Nat} (hnew : s.task? number = none) {step : Step} (hstep : step.claims = true) :
    s.happen (.launch number step) = s.launch number step := by
  simp [happen, hnew, hstep]

theorem happen_move {n : Nat} (ht : s.task? n = some t) (hm : s.canMove t = true) :
    s.happen (.move n) = s.move t := by
  simp only [happen, ht, hm, if_true]

/-- What happens next when all statements are made with the claim. -/
inductive Next (s : Session) : Session → Prop
  | same : Next s s
  | launch {number : Nat} {step : Step} (hnew : s.task? number = none) (hstep : step.claims = true) :
    Next s (s.launch number step)
  | move {t : Task} (ht : s.task? t.number = some t) (hm : s.canMove t = true) : Next s (s.move t)
  | cancel {t : Task} (ht : s.task? t.number = some t) : Next s (s.cancel t)
  | outside (transport : Transport) (hook : Option (Call × List Step))
    (hh : ∀ on steps, hook = some (on, steps) → s.hook = some (on, steps) ∨ stepsClaim steps = true) :
    Next s { s with transport, hook }

theorem Comes.next {e : Happening} (h : s.Comes e s') (he : e.claims = true) : s.Next s' := by
  cases h with
  | nothing => exact .same
  | launch hnew => exact .launch hnew he
  | move ht hm => exact .move ht hm
  | cancel ht => exact .cancel ht
  | transport transport => exact .outside transport s.hook fun _ _ => Or.inl
  | hook call steps =>
    refine .outside s.transport (some (call, steps)) fun on steps' heq => Or.inr ?_
    obtain ⟨-, rfl⟩ := Prod.mk.inj (Option.some.inj heq)
    exact he

theorem next_happen (s : Session) (e : Happening) : s.Next (s.happen e) := by
  rw [happen_eq_occur]
  split
  · exact (comes_occur s e).next ‹_›
  · exact .same

/-- What every happening keeps, a run keeps. -/
theorem follow_keeps {P : Session → Prop} (hstep : ∀ s s', P s → s.Next s' → P s') (h : P s)
    (hs : List Happening) : P (s.follow hs) := by
  induction hs generalizing s with
  | nil => exact h
  | cons e hs ih => exact ih (hstep s (s.happen e) h (next_happen s e))

end Session
end Prepared
