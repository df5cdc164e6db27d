import Prepared.Proofs.Session.Waiting

/-!
# Exclusion

The claim is held exactly when one of the statements that it was granted to has
not finished its use, and there is never a second one. What carries this through
a run is that a use that is under way belongs to a statement that is executing:
a statement that begins is then the only one that is, and one that finishes
finds the claim held.
-/

namespace Prepared

/-- Was the claim granted to the statement, and not yet given back? -/
def Statement.isActive (st : Statement) : Bool := st.claimed && st.stage != .idle

def Event.release? : Event → Option (Nat × Bool)
  | .released statement held => some (statement, held)
  | _ => none

theorem Event.release?_of_isQuiet {e : Event} (h : e.isQuiet = true) : e.release? = none := by
  cases e with
  | released statement held => cases h
  | _ => rfl

namespace Session

def active (s : Session) : Nat := s.statements.countP Statement.isActive

def stage? (s : Session) (index : Nat) : Option Stage := (s.statements[index]?).map (·.stage)

def releases (s : Session) : List (Nat × Bool) := s.events.filterMap Event.release?

variable {s s' : Session} {t t' : Task}

/-! ## Stages -/

theorem stage?_setStage (s : Session) (i j : Nat) (stage : Stage) :
    (s.setStage i stage).stage? j = if i = j then (s.stage? j).map fun _ => stage else s.stage? j := by
  simp only [stage?, setStage, List.getElem?_modify]
  by_cases h : i = j
  · simp [h, Function.comp_def]
  · simp [h]

theorem active_setStage {i : Nat} {st : Statement} (h : s.statements[i]? = some st) (stage : Stage) :
    (s.setStage i stage).active + (if st.isActive then 1 else 0) =
      s.active + (if { st with stage }.isActive then 1 else 0) := by
  obtain ⟨hi, hst⟩ := List.getElem?_eq_some_iff.mp h
  have hsplit : s.statements = s.statements.take i ++ st :: s.statements.drop (i + 1) := by
    rw [← hst, List.getElem_cons_drop, List.take_append_drop]
  have hmodify : (s.setStage i stage).statements =
      s.statements.take i ++ { st with stage } :: s.statements.drop (i + 1) := by
    simp only [setStage]
    rw [List.modify_eq_take_cons_drop hi, hst]
  have hcount : s.active = (s.statements.take i ++ st :: s.statements.drop (i + 1)).countP Statement.isActive :=
    congrArg _ hsplit
  rw [hcount, active, hmodify]
  simp only [List.countP_append, List.countP_cons]
  omega

theorem stage?_of_append {st : Statement} (h : s'.statements = s.statements ++ [st]) (i : Nat) :
    s'.stage? i = (s.stage? i).or (if i = s.statements.length then some st.stage else none) := by
  rw [stage?, stage?, h, List.getElem?_append]
  by_cases hlt : i < s.statements.length
  · simp [hlt]
  · rw [if_neg hlt, List.getElem?_eq_none (Nat.le_of_not_lt hlt)]
    by_cases heq : i = s.statements.length
    · simp [heq]
    · have hpos : i - s.statements.length ≠ 0 := by omega
      simp [heq, hpos]

theorem eq_of_active (h : s.active ≤ 1) {i j : Nat} {a b : Statement} (hi : s.statements[i]? = some a)
    (ha : a.isActive = true) (hj : s.statements[j]? = some b) (hb : b.isActive = true) : i = j := by
  by_contra hne
  have hcount := active_setStage hi .idle
  have hidle : ({ a with stage := .idle } : Statement).isActive = false := by simp [Statement.isActive]
  rw [if_pos ha, if_neg (by simp [hidle])] at hcount
  have hj' : (s.setStage i .idle).statements[j]? = some b := by
    simp only [setStage]
    rw [List.getElem?_modify_ne _ _ hne, hj]
  have hpos : 0 < (s.setStage i .idle).active := List.countP_pos_iff.mpr ⟨b, List.mem_of_getElem? hj', hb⟩
  omega

/-! ## Releases -/

theorem releases_record (s : Session) (e : Event) : (s.record e).releases = s.releases ++ e.release?.toList := by
  simp only [releases, record, List.filterMap_append]
  cases h : e.release? <;> simp [h]

theorem releases_log (s : Session) (entries : List Entry) : (s.log entries).releases = s.releases := by
  simp [releases, log, List.filterMap_map, Function.comp_def, Event.release?]

theorem Alike.releases (h : s.Alike s') : s'.releases = s.releases := by
  obtain ⟨es, hes, hquiet⟩ := h.events
  rw [Session.releases, hes, List.filterMap_append]
  have hnone : es.filterMap Event.release? = [] :=
    List.filterMap_eq_nil_iff.mpr fun e he => Event.release?_of_isQuiet (hquiet e he)
  rw [hnone, List.append_nil]
  rfl

theorem finish_of_held (hheld : s.claim.held = true) (t : Task) (u : Use) (outcome : Except Raised Outcome) :
    (s.finish t u outcome).tasks = (s.goto t (.done (.ofOutcome outcome))).tasks ∧
      (s.finish t u outcome).statements = (s.setStage u.statement .idle).statements ∧
      (s.finish t u outcome).claim = ({ s.claim with held := false } : Claim).wakeFirst.1 ∧
      (s.finish t u outcome).releases = s.releases ++ [(u.statement, true)] := by
  unfold finish
  dsimp only [record, setStage]
  rw [Claim.release_eq hheld, hheld]
  refine ⟨rfl, rfl, rfl, ?_⟩
  exact (releases_log ..).trans (releases_record s (.released u.statement true))

/-! ## What holds throughout -/

structure Exclusive (s : Session) : Prop where
  claimed : ∀ st ∈ s.statements, st.claimed = true
  active : s.active = if s.claim.held then 1 else 0
  single : s.uses.length ≤ 1
  executing : ∀ u ∈ s.uses, s.stage? u.statement = some .executing
  held : ∀ r ∈ s.releases, r.2 = true
  once : ∀ i, s.releases.countP (·.1 == i) = if s.stage? i = some .idle then 1 else 0

namespace Exclusive

theorem opened (mode : Mode) (config : Config) : (Session.opened mode config).Exclusive :=
  ⟨nofun, rfl, Nat.zero_le 1, nofun, nofun, fun _ => rfl⟩

theorem congr (h : s.Exclusive) (statements : s'.statements = s.statements)
    (held : s'.claim.held = s.claim.held) (uses : s'.uses = s.uses) (releases : s'.releases = s.releases) :
    s'.Exclusive := by
  have hstage : ∀ i, s'.stage? i = s.stage? i := fun i => by rw [stage?, stage?, statements]
  refine ⟨statements ▸ h.claimed, ?_, uses ▸ h.single, fun u hu => ?_, releases ▸ h.held, fun i => ?_⟩
  · rw [held, Session.active, statements]
    exact h.active
  · rw [hstage]
    exact h.executing u (uses ▸ hu)
  · rw [hstage, releases]
    exact h.once i

theorem active_le (h : s.Exclusive) : s.active ≤ 1 := by
  rw [h.active]
  split <;> omega

theorem held_iff (h : s.Exclusive) : s.claim.held = true ↔ s.active = 1 := by
  rw [h.active]
  split <;> simp_all

theorem isActive (h : s.Exclusive) {i : Nat} {st : Statement} (hi : s.statements[i]? = some st)
    (hs : st.stage ≠ .idle) : st.isActive = true := by
  simp [Statement.isActive, h.claimed st (List.mem_of_getElem? hi), hs]

theorem held_of_mem_uses (h : s.Exclusive) {u : Use} (hu : u ∈ s.uses) : s.claim.held = true := by
  obtain ⟨st, hst, hexecuting⟩ := Option.map_eq_some_iff.mp (h.executing u hu)
  have hpos : 0 < s.active :=
    List.countP_pos_iff.mpr ⟨st, List.mem_of_getElem? hst, h.isActive hst (by simp [hexecuting])⟩
  have hle := h.active_le
  exact h.held_iff.mpr (by omega)

theorem alone (h : s.Exclusive) (hn : (s.tasks.map (·.number)).Nodup) (ht : s.task? t.number = some t)
    {u : Use} (hu : t.control.use? = some u) :
    s.underway = [t.control] ∧ (∀ f ∈ t.frames, f.next.use? = none) ∧
      ∀ t', t'.number = t.number → (s.put t').underway = t'.underway := by
  obtain ⟨a, b, hs, hput⟩ := underway_split hn ht
  have hcontrol : t.underway = t.control :: (t.frames.map (·.next)).filter (·.use?.isSome) := by
    simp [Task.underway, Task.controls, hu]
  have hsingle := h.single
  rw [length_uses, hs, hcontrol] at hsingle
  simp only [List.length_append, List.length_cons] at hsingle
  have ha : a = [] := List.eq_nil_of_length_eq_zero (by omega)
  have hb : b = [] := List.eq_nil_of_length_eq_zero (by omega)
  have hf : (t.frames.map (·.next)).filter (·.use?.isSome) = [] := List.eq_nil_of_length_eq_zero (by omega)
  refine ⟨?_, fun f hm => ?_, fun t' hn' => ?_⟩
  · rw [hs, hcontrol, ha, hb, hf]
    rfl
  · have hnone := List.filter_eq_nil_iff.mp hf f.next (List.mem_map_of_mem hm)
    simpa using hnone
  · rw [hput t' hn', ha, hb, List.append_nil, List.nil_append]

theorem underway_goto (h : s.Exclusive) (hn : (s.tasks.map (·.number)).Nodup) (ht : s.task? t.number = some t)
    {u : Use} (hu : t.control.use? = some u) (control : Control) :
    (s.goto t control).underway = if control.use?.isSome then [control] else [] := by
  obtain ⟨-, hframes, hput⟩ := h.alone hn ht hu
  exact (hput { t with control } rfl).trans (Task.underway_of_frames _ hframes)

theorem uses_eq_nil (h : s.Exclusive) {i : Nat} {st : Statement} (hi : s.statements[i]? = some st)
    (hs : st.stage = .prepared) : s.uses = [] := by
  apply List.eq_nil_iff_forall_not_mem.mpr
  intro u hu
  obtain ⟨su, hsu, hstage⟩ := Option.map_eq_some_iff.mp (h.executing u hu)
  -- Its statement would be active beside the prepared one.
  have hactive : su.isActive = true := h.isActive hsu (by simp [hstage])
  have heq : i = u.statement := eq_of_active h.active_le hi (h.isActive hi (by simp [hs])) hsu hactive
  rw [heq, hsu] at hi
  obtain rfl := Option.some.inj hi
  rw [hs] at hstage
  cases hstage

/-! ## Moves -/

theorem put (h : s.Exclusive) (hn : (s.tasks.map (·.number)).Nodup) (ht : s.task? t.number = some t)
    (t' : Task) (hnumber : t'.number = t.number) (huses : t'.uses = t.uses)
    (tasks : s'.tasks = (s.put t').tasks) (statements : s'.statements = s.statements)
    (held : s'.claim.held = s.claim.held) (releases : s'.releases = s.releases) : s'.Exclusive :=
  h.congr statements held ((uses_congr tasks).trans (uses_put hn ht hnumber huses)) releases

theorem goto (h : s.Exclusive) (hn : (s.tasks.map (·.number)).Nodup) (ht : s.task? t.number = some t)
    (control : Control) (hu : control.use? = t.control.use?) (tasks : s'.tasks = (s.goto t control).tasks)
    (statements : s'.statements = s.statements) (held : s'.claim.held = s.claim.held)
    (releases : s'.releases = s.releases) : s'.Exclusive :=
  h.put hn ht { t with control } rfl (Task.uses_of_use hu rfl) tasks statements held releases

theorem passes (h : s.Exclusive) (hn : (s.tasks.map (·.number)).Nodup) (ht : s.task? t.number = some t)
    (hu : t.control.use? = none) (hs : s.Passes t s') : s'.Exclusive := by
  obtain ⟨control, hp, -, tasks, hl⟩ := hs
  exact h.goto hn ht control (hp.use.trans hu.symm) tasks hl.statements (by rw [hl.claim]) hl.releases

theorem cancel (h : s.Exclusive) (hn : (s.tasks.map (·.number)).Nodup) {target : Task}
    (hm : s.task? target.number = some target) : (s.cancel target).Exclusive := by
  have huses : (s.cancel target).uses = s.uses := by rw [Session.uses, underway_cancel hn hm, Session.uses]
  refine h.congr ?_ ?_ huses ?_
  all_goals
    unfold Session.cancel
    split <;> rfl

theorem start (h : s.Exclusive) (hn : (s.tasks.map (·.number)).Nodup) (ht : s.task? t.number = some t)
    {step : Step} (hc : t.control = .start step) (hstep : step.claims = true) :
    (s.start t step).Exclusive := by
  have hu : t.control.use? = none := by rw [hc]; rfl
  rcases start_cases ht hc with hs | ⟨target, t', -, hm, ht', -, hc', -, he⟩ | ⟨_, _, _, _, rfl, -⟩
  · exact h.passes hn ht hu hs
  · rw [he]
    have hn' : ((s.cancel target).tasks.map (·.number)).Nodup := by rw [numbers_cancel]; exact hn
    exact (h.cancel hn hm).goto hn' ht' (.done (.cancelled true)) (by rw [hc']; rfl) rfl rfl rfl rfl
  · cases hstep

theorem grant (h : s.Exclusive) (hn : (s.tasks.map (·.number)).Nodup) (ht : s.task? t.number = some t)
    (hu : t.control.use? = none) (r : Request) {claim : Claim} (hfree : s.claim.held = false)
    (hheld : claim.held = true) : (s.grant t r claim).Exclusive := by
  obtain ⟨st, hst, hclaimed, hprepared⟩ : ∃ st, (s.grant t r claim).statements = s.statements ++ [st] ∧
      st.claimed = true ∧ st.stage = .prepared := by
    refine ⟨(Statement.make s.config r.sql r.config true).value, ?_, ?_, ?_⟩
    · cases r <;> rfl
    · simp [Statement.make]
    · simp [Statement.make]
  have hclaim : (s.grant t r claim).claim = claim := by cases r <;> rfl
  have huses : (s.grant t r claim).uses = s.uses := by
    cases r with
    | keep name sql config => exact uses_put hn ht rfl (Task.uses_of_use hu.symm rfl)
    | direct purpose sql values => exact uses_put hn ht rfl (Task.uses_of_use hu.symm rfl)
  have hreleases : (s.grant t r claim).releases = s.releases := by
    cases r <;> exact releases_log ..
  have hactive : (s.grant t r claim).active = s.active + 1 := by
    rw [Session.active, hst, List.countP_append]
    simp [Session.active, Statement.isActive, hclaimed, hprepared]
  have hstage : ∀ i, (s.grant t r claim).stage? i =
      (s.stage? i).or (if i = s.statements.length then some .prepared else none) := fun i => by
    rw [stage?_of_append hst, hprepared]
  refine ⟨fun a ha => ?_, ?_, huses ▸ h.single, fun u hm => ?_, hreleases ▸ h.held, fun i => ?_⟩
  · rw [hst] at ha
    rcases List.mem_append.mp ha with ha | ha
    · exact h.claimed a ha
    · exact List.mem_singleton.mp ha ▸ hclaimed
  · rw [hactive, h.active, hfree, hclaim, hheld]
    rfl
  · rw [hstage, h.executing u (huses ▸ hm)]
    rfl
  · rw [hreleases, h.once, hstage]
    cases hi : s.stage? i with
    | none => by_cases he : i = s.statements.length <;> simp [he]
    | some stage => simp

theorem request (h : s.Exclusive) (hn : (s.tasks.map (·.number)).Nodup) (ht : s.task? t.number = some t)
    {r : Request} (hc : t.control = .claim r) : (s.request t r).Exclusive := by
  have hu : t.control.use? = none := by rw [hc]; rfl
  unfold Session.request
  split
  · rename_i hopen
    exact h.grant hn ht hu r (Claim.isOpen_iff.mp hopen).1 rfl
  · split
    · exact h.goto hn ht (.done .blocked) hu.symm rfl rfl rfl (releases_log ..)
    · dsimp only
      split
      · exact h.put hn ht { t with control := .wait r, cancelled := false } rfl
          (Task.uses_of_use hu.symm rfl) rfl rfl rfl rfl
      · exact h.goto hn ht (.wait r) hu.symm rfl rfl rfl rfl

theorem resume (h : s.Exclusive) (hq : s.Queued) (ht : s.task? t.number = some t) {r : Request}
    (hc : t.control = .wait r) (hm : s.canMove t = true) : (s.resume t r).Exclusive := by
  have hu : t.control.use? = none := by rw [hc]; rfl
  have hin : t.number ∈ s.claim.tasks := (hq.waits _).mpr ⟨t, ht, by rw [hc]; rfl⟩
  have hasleep : s.claim.waiting? t.number ≠ some .asleep := by
    simpa [canMove, hc] using hm
  unfold Session.resume
  by_cases hgone : t.cancelled ∨ s.claim.waiting? t.number = some .withdrawn
  · obtain ⟨hgranted, -, -, hheld⟩ := hq.queue.resume_withdrawn hgone
    dsimp only
    rw [hgranted, if_neg (by simp)]
    exact h.put hq.numbers ht { t with control := .done cancelledAnswer, cancelled := false } rfl
      (Task.uses_of_use hu.symm rfl) rfl rfl hheld rfl
  · dsimp only
    rw [Claim.resume_eq_taken hgone, if_pos rfl]
    exact h.grant hq.numbers ht hu r (hq.queue.resume_granted hin hasleep hgone).1 rfl

theorem claimed_setStage (h : s.Exclusive) (i : Nat) (stage : Stage) :
    ∀ st ∈ (s.setStage i stage).statements, st.claimed = true := by
  intro st hst
  obtain ⟨j, hj⟩ := List.mem_iff_getElem?.mp hst
  simp only [Session.setStage, List.getElem?_modify] at hj
  obtain ⟨st', hst', rfl⟩ := Option.map_eq_some_iff.mp hj
  have hclaimed := h.claimed st' (List.mem_of_getElem? hst')
  split <;> exact hclaimed

theorem begun (h : s.Exclusive) (hn : (s.tasks.map (·.number)).Nodup) (ht : s.task? t.number = some t) {u : Use}
    {st : Statement} (hst : s.statements[u.statement]? = some st) (hprepared : st.stage = .prepared)
    (control : Control) (hcu : control.use? = some u) (tasks : s'.tasks = (s.goto t control).tasks)
    (statements : s'.statements = (s.setStage u.statement .executing).statements) (claim : s'.claim = s.claim)
    (releases : s'.releases = s.releases) : s'.Exclusive := by
  have hstage : s.stage? u.statement = some .prepared := by rw [stage?, hst]; exact congrArg some hprepared
  have hstage' : ∀ i, s'.stage? i =
      if u.statement = i then (s.stage? i).map fun _ => .executing else s.stage? i := by
    intro i
    rw [← stage?_setStage, stage?, stage?, statements]
  have hactive := active_setStage hst .executing
  rw [if_pos (h.isActive hst (by simp [hprepared])),
    if_pos (by simp [Statement.isActive, h.claimed st (List.mem_of_getElem? hst)])] at hactive
  have hunderway : s'.underway = [control] := (underway_congr tasks).trans
    (underway_put_of_nil hn ht (h.uses_eq_nil hst hprepared) { t with control } rfl rfl hcu)
  have huses : s'.uses = [u] := by simp [Session.uses, hunderway, hcu]
  refine ⟨statements ▸ h.claimed_setStage u.statement .executing, ?_, by simp [huses], fun v hv => ?_,
    releases ▸ h.held, fun i => ?_⟩
  · rw [Session.active, statements, claim]
    exact (Nat.add_right_cancel hactive).trans h.active
  · rw [huses] at hv
    obtain rfl := List.mem_singleton.mp hv
    rw [hstage', if_pos rfl, hstage]
    rfl
  · rw [releases, h.once, hstage']
    by_cases hi : u.statement = i
    · subst hi
      simp [hstage]
    · rw [if_neg hi]

theorem beginUse (h : s.Exclusive) (hn : (s.tasks.map (·.number)).Nodup) (ht : s.task? t.number = some t)
    {u : Use} {values : List Value} (hc : t.control = .begin u values) : (s.beginUse t u values).Exclusive := by
  have hu : t.control.use? = none := by rw [hc]; rfl
  unfold Session.beginUse
  split
  · exact h.passes hn ht hu (passes_done s t _)
  · rename_i st hst
    split
    · rename_i hprepared
      dsimp only
      split
      · exact h.begun hn ht hst hprepared (.finish u _) rfl rfl rfl rfl (releases_log ..)
      · exact h.begun hn ht hst hprepared (.write u _) rfl rfl rfl rfl (releases_log ..)
    · exact h.passes hn ht hu (passes_done s t _)

theorem finish (h : s.Exclusive) (hn : (s.tasks.map (·.number)).Nodup) (ht : s.task? t.number = some t)
    {u : Use} {outcome : Except Raised Outcome} (hc : t.control = .finish u outcome) :
    (s.finish t u outcome).Exclusive := by
  have hu : t.control.use? = some u := by rw [hc]; rfl
  obtain ⟨hunderway, -⟩ := h.alone hn ht hu
  have huses : s.uses = [u] := by simp [Session.uses, hunderway, hu]
  have hstage := h.executing u (by simp [huses])
  obtain ⟨st, hst, hexecuting⟩ := Option.map_eq_some_iff.mp hstage
  have hactive := active_setStage hst .idle
  rw [if_pos (h.isActive hst (by simp [hexecuting])), if_neg (by simp [Statement.isActive]), h.active] at hactive
  have hheld : s.claim.held = true := h.held_of_mem_uses (huses ▸ List.mem_singleton_self u)
  rw [if_pos hheld] at hactive
  obtain ⟨tasks, statements, claim, releases⟩ := finish_of_held hheld t u outcome
  have huses' : (s.finish t u outcome).uses = [] := by
    rw [uses_congr tasks, Session.uses, h.underway_goto hn ht hu]
    rfl
  refine ⟨statements ▸ h.claimed_setStage u.statement .idle, ?_, by simp [huses'], fun v hv => ?_, fun r hr => ?_,
    fun i => ?_⟩
  · rw [Session.active, statements, claim, Claim.held_wakeFirst]
    exact Nat.add_right_cancel hactive
  · rw [huses'] at hv
    cases hv
  · rw [releases] at hr
    rcases List.mem_append.mp hr with hr | hr
    · exact h.held r hr
    · rw [List.mem_singleton.mp hr]
  · have hstage' : (s.finish t u outcome).stage? i =
        if u.statement = i then (s.stage? i).map fun _ => .idle else s.stage? i := by
      rw [← stage?_setStage, stage?, stage?, statements]
    rw [releases, List.countP_append, h.once, hstage']
    by_cases hi : u.statement = i
    · subst hi
      simp [hstage]
    · simp [hi]

theorem push (h : s.Exclusive) (hn : (s.tasks.map (·.number)).Nodup) (ht : s.task? t.number = some t)
    (t₁ : Task) (hnumber : t₁.number = t.number) (steps : List Step) (next : Control)
    (hu : next.use?.toList ++ t₁.frames.filterMap (·.next.use?) = t.uses) :
    (s.push t₁ steps next).Exclusive := by
  have huses : (s.push t₁ steps next).uses = s.uses := by
    rw [uses, underway_push]
    exact uses_put hn ht hnumber ((Task.uses_eq _).trans hu)
  cases steps <;> exact h.congr rfl rfl huses rfl

theorem call (h : s.Exclusive) (hn : (s.tasks.map (·.number)).Nodup) (ht : s.task? t.number = some t)
    (u : Use) (c : Call) (next : Control) (hu : next.use? = t.control.use?) :
    (s.call t u c next).Exclusive := by
  have hreleases : (s.record (.called u.statement c)).releases = s.releases :=
    (releases_record ..).trans (List.append_nil _)
  have hgoto : ((s.record (.called u.statement c)).goto t next).Exclusive :=
    h.goto hn ht next hu rfl rfl rfl hreleases
  have hnone : ({ s.record (.called u.statement c) with hook := none } : Session).Exclusive :=
    h.congr rfl rfl rfl hreleases
  unfold Session.call
  dsimp only
  split
  · rename_i steps _
    split
    · exact hnone.push hn ht t rfl steps next (by rw [hu, t.uses_eq])
    · exact hgoto
  · exact hgoto

theorem send (h : s.Exclusive) (hn : (s.tasks.map (·.number)).Nodup) (ht : s.task? t.number = some t)
    {u : Use} (sql : String) (hu : t.control.use? = some u) : (s.send t u sql).Exclusive := by
  unfold Session.send
  split
  · rename_i r _
    exact h.goto hn ht (.finish u (.error r)) hu.symm rfl rfl rfl (releases_log ..)
  · exact h.goto hn ht (.read u sql) hu.symm rfl rfl rfl ((releases_record ..).trans (List.append_nil _))

theorem conclude (h : s.Exclusive) (hn : (s.tasks.map (·.number)).Nodup) (ht : s.task? t.number = some t)
    {answer : Answer} (hc : t.control = .done answer) : (s.conclude t answer).Exclusive := by
  have hu : t.uses = t.frames.filterMap (·.next.use?) := by rw [t.uses_eq, hc]; rfl
  unfold Session.conclude
  split
  · rename_i hframes
    have hunderway : t.underway = [] := by simp [Task.underway, Task.controls, hc, hframes, Control.use?]
    refine h.congr rfl rfl ?_ ((releases_record ..).trans (List.append_nil _))
    exact congrArg (List.filterMap Control.use?) (underway_of_filter hn ht hunderway rfl)
  · rename_i rest next frames hframes
    have hrecord : (s.record (.nested answer)).Exclusive :=
      h.congr rfl rfl rfl ((releases_record ..).trans (List.append_nil _))
    refine hrecord.push hn ht { t with frames } rfl rest next ?_
    rw [hu, hframes, List.filterMap_cons]
    cases next.use? <;> rfl

theorem move (h : s.Exclusive) (hq : s.Queued) (hs : s.Claiming) (ht : s.task? t.number = some t)
    (hm : s.canMove t = true) : (s.move t).Exclusive := by
  have hn := hq.numbers
  unfold Session.move
  split
  · rename_i step hc
    exact h.start hn ht hc (hs.steps ht step hc)
  · exact h.request hn ht ‹_›
  · exact h.resume hq ht ‹_› hm
  · exact h.beginUse hn ht ‹_›
  · rename_i hc
    exact h.call hn ht _ _ _ (by rw [hc]; rfl)
  · rename_i hc
    exact h.send hn ht _ (by rw [hc]; rfl)
  · rename_i hc
    exact h.call hn ht _ _ _ (by rw [hc]; rfl)
  · rename_i hc
    exact h.goto hn ht (.finish _ _) (by rw [hc]; rfl) rfl rfl rfl rfl
  · exact h.finish hn ht ‹_›
  · exact h.conclude hn ht ‹_›

end Exclusive

/-! ## Runs -/

structure Sound (s : Session) : Prop where
  claiming : s.Claiming
  queued : s.Queued
  exclusive : s.Exclusive

namespace Sound

theorem opened (mode : Mode) (config : Config) : (Session.opened mode config).Sound :=
  ⟨.opened mode config, .opened mode config, .opened mode config⟩

theorem next (h : s.Sound) (hs : s.Next s') : s'.Sound := by
  cases hs with
  | same => exact h
  | @launch number step hnew hstep =>
    refine ⟨h.claiming.launch number hstep, h.queued.launch hnew step, ?_⟩
    exact h.exclusive.congr rfl rfl (congrArg (List.filterMap Control.use?) (underway_launch s number step)) rfl
  | move ht hm =>
    exact ⟨h.claiming.move ht, h.queued.move h.claiming ht hm, h.exclusive.move h.queued h.claiming ht hm⟩
  | cancel ht =>
    exact ⟨h.claiming.cancel (mem_of_task? ht).1, h.queued.cancel ht, h.exclusive.cancel h.queued.numbers ht⟩
  | outside transport hook hh =>
    refine ⟨⟨h.claiming.tasks, fun on steps he => (hh on steps he).elim (h.claiming.hook on steps) id⟩, ?_, ?_⟩
    · exact ⟨h.queued.numbers, h.queued.queue, h.queued.waits, h.queued.blocking⟩
    · exact h.exclusive.congr rfl rfl rfl rfl

theorem follow (h : s.Sound) (hs : List Happening) : (s.follow hs).Sound :=
  follow_keeps (fun _ _ h => h.next) h hs

end Sound

/-- At any time at most one statement is active, the claim is held exactly when
there is one, and the claim is never given back when nobody holds it. -/
theorem follow_exclusive (mode : Mode) (config : Config) (hs : List Happening) :
    let s := (Session.opened mode config).follow hs
    s.active ≤ 1 ∧ (s.claim.held = true ↔ s.active = 1) ∧
      ∀ statement held, Event.released statement held ∈ s.events → held = true := by
  intro s
  have h : s.Exclusive := ((Sound.opened mode config).follow hs).exclusive
  refine ⟨h.active_le, h.held_iff, fun statement held he => ?_⟩
  exact h.held (statement, held) (List.mem_filterMap.mpr ⟨.released statement held, he, rfl⟩)

end Session
end Prepared
