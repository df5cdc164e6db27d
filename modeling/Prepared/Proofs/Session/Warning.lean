import Prepared.Proofs.Session.Once

/-!
# Warnings

Who is warned of what. Of all that a session does apart from rewriting, only a
write can give a warning, and it gives one exactly when it is the write of an
effect and fails as an error of sending. A write of rows that fails in the same
way gives none. Main statement: whatever happens, the warnings are those of the
writes, in their order, and a use whose write has failed ends with that failure.
-/

namespace Prepared

structure Write where
  use : Use
  outcome : Except Raised Unit

namespace Write

def fault? (w : Write) : Option Fault :=
  match w.outcome with
  | .error { failure := .own f, .. } => if f.family = .send then some f else none
  | _ => none

def warnings (mode : Mode) (w : Write) : List Entry :=
  match w.use.purpose with
  | .exec => w.fault?.toList.map fun f =>
    { level := .warning, logger := mode.logger, message := "Exec: " ++ f.message }
  | .query => []

/-- How a use comes to its end, after the writes that there have been: without
one of its own, with the failure of its own, or behind one that has gone well. -/
inductive Ends (writes : List Write) (u : Use) : Except Raised Outcome → Prop
  | unwritten {r : Raised} (fresh : ∀ w ∈ writes, w.use.statement ≠ u.statement) : Ends writes u (.error r)
  | failed {r : Raised} (write : ⟨u, .error r⟩ ∈ writes) : Ends writes u (.error r)
  | written {outcome : Except Raised Outcome} (write : ⟨u, .ok ()⟩ ∈ writes) : Ends writes u outcome

theorem warnings_eq (mode : Mode) (u : Use) (r : Raised) :
    warnings mode ⟨u, .error r⟩ = Statement.sendWarnings mode u.purpose r.failure := by
  obtain ⟨i, purpose⟩ := u
  obtain ⟨failure, cause⟩ := r
  cases purpose with
  | query => cases failure <;> rfl
  | exec =>
    cases failure with
    | own f =>
      obtain ⟨family, detail, notes, sql⟩ := f
      cases family <;> rfl
    | _ => rfl

end Write

def Control.writes (transport : Transport) : Control → List Write
  | .send u _ => [⟨u, transport.send⟩]
  | _ => []

def Control.Wrote (writes : List Write) : Control → Prop
  | .write u _ | .send u _ => ∀ w ∈ writes, w.use.statement ≠ u.statement
  | .read u _ | .receive u _ => ⟨u, .ok ()⟩ ∈ writes
  | .finish u outcome => Write.Ends writes u outcome
  | _ => True

section
variable {writes new : List Write} {u : Use}

theorem Control.use?_of_mem_writes {c : Control} {transport : Transport} {w : Write} (hw : w ∈ c.writes transport) :
    c.use? = some w.use := by
  cases c with
  | send u sql =>
    obtain rfl := List.mem_singleton.mp hw
    rfl
  | _ => cases hw

theorem Control.nodup_writes (c : Control) (transport : Transport) :
    ((c.writes transport).map (·.use.statement)).Nodup := by
  cases c with
  | send => exact List.nodup_singleton _
  | _ => exact List.nodup_nil

theorem Write.Ends.append {outcome : Except Raised Outcome} (h : Write.Ends writes u outcome)
    (apart : ∀ w ∈ new, w.use.statement ≠ u.statement) : Write.Ends (writes ++ new) u outcome := by
  cases h with
  | unwritten fresh => exact .unwritten (List.forall_mem_append.mpr ⟨fresh, apart⟩)
  | failed write => exact .failed (List.mem_append_left _ write)
  | written write => exact .written (List.mem_append_left _ write)

theorem Control.Wrote.append {c : Control} (h : c.Wrote writes)
    (apart : ∀ v, c.use? = some v → ∀ w ∈ new, w.use.statement ≠ v.statement) : c.Wrote (writes ++ new) := by
  cases c with
  | write u sql => exact List.forall_mem_append.mpr ⟨h, apart u rfl⟩
  | send u sql => exact List.forall_mem_append.mpr ⟨h, apart u rfl⟩
  | read => exact List.mem_append_left _ h
  | receive => exact List.mem_append_left _ h
  | finish u outcome => exact Write.Ends.append h (apart u rfl)
  | _ => trivial

end

def Event.warning? : Event → Option Entry
  | .logged e => if e.level = Level.warning ∧ e.logger ≠ Logger.converter then some e else none
  | _ => none

namespace Session

def warnings (s : Session) : List Entry := s.events.filterMap Event.warning?

def writing (s : Session) : Happening → List Write
  | .move n => (s.task? n).elim [] (·.control.writes s.transport)
  | _ => []

def writes (s : Session) : List Happening → List Write
  | [] => []
  | e :: hs => s.writing e ++ (s.occur e).writes hs

variable {s s' : Session} {t : Task} {u : Use} {writes : List Write}

/-! ## What gives a warning -/

theorem warnings_record (s : Session) {e : Event} (he : e.warning? = none) : (s.record e).warnings = s.warnings := by
  simp [warnings, record, List.filterMap_append, he]

theorem warnings_log (s : Session) {entries : List Entry}
    (h : ∀ e ∈ entries, (Event.logged e).warning? = none) : (s.log entries).warnings = s.warnings := by
  have hnone : (entries.map Event.logged).filterMap Event.warning? = [] :=
    List.filterMap_eq_nil_iff.mpr (List.forall_mem_map.mpr h)
  rw [warnings, log, List.filterMap_append, hnone, List.append_nil]
  rfl

theorem warning?_note (n : Note) : (Event.logged n.entry).warning? = none := by
  cases n <;> rfl

theorem warnings_notes (s : Session) (notes : List Note) : (s.log (notes.map (·.entry))).warnings = s.warnings :=
  warnings_log s (List.forall_mem_map.mpr fun n _ => warning?_note n)

theorem silent_connection (message : String) :
    ∀ e ∈ [connectionEntry message], (Event.logged e).warning? = none := by
  intro e he
  obtain rfl := List.mem_singleton.mp he
  rfl

theorem warnings_grant (s : Session) (t : Task) (r : Request) (claim : Claim) :
    (s.grant t r claim).warnings = s.warnings := by
  let notes := (Statement.make s.config r.sql r.config true).notes
  have hnotes : ∀ e ∈ notes.map (·.entry), (Event.logged e).warning? = none :=
    List.forall_mem_map.mpr fun n _ => warning?_note n
  have hblocking : ∀ e ∈ notes.map (·.entry) ++ [claimedEntry], (Event.logged e).warning? = none :=
    List.forall_mem_append.mpr ⟨hnotes, silent_connection _⟩
  have hwaiting : ∀ e ∈ claimedEntry :: notes.map (·.entry), (Event.logged e).warning? = none :=
    List.forall_mem_cons.mpr ⟨rfl, hnotes⟩
  unfold grant
  dsimp only
  cases s.mode with
  | blocking => cases r <;> exact warnings_log _ hblocking
  | waiting => cases r <;> exact warnings_log _ hwaiting

theorem warnings_push (s : Session) (t : Task) (steps : List Step) (next : Control) :
    (s.push t steps next).warnings = s.warnings := by
  cases steps <;> rfl

theorem warnings_call (s : Session) (t : Task) (u : Use) (c : Call) (next : Control) :
    (s.call t u c next).warnings = s.warnings := by
  have hrecord : (s.record (.called u.statement c)).warnings = s.warnings := warnings_record s rfl
  unfold call
  dsimp only
  split
  · split
    · exact (warnings_push ..).trans hrecord
    · exact hrecord
  · exact hrecord

theorem warnings_cancel (s : Session) (target : Task) : (s.cancel target).warnings = s.warnings := by
  unfold cancel
  split <;> rfl

theorem warnings_start (s : Session) (t : Task) (step : Step) : (s.start t step).warnings = s.warnings := by
  cases step with
  | prepare => unfold start; dsimp only; split <;> rfl
  | make =>
    unfold start
    dsimp only
    split
    · rfl
    · exact warnings_notes ..
  | use => unfold start; dsimp only; split <;> rfl
  | cancel =>
    unfold start
    dsimp only
    split
    · rfl
    · exact warnings_cancel ..
  | _ => rfl

theorem entry_of_build {st : Statement} {purpose : Purpose} {values : List Value} {e : Entry}
    (he : e ∈ (st.build purpose values).1) : (∃ n : Note, n.entry = e) ∨ ∃ q, e = Statement.queryEntry purpose q := by
  unfold Statement.build at he
  dsimp only at he
  split at he
  · obtain ⟨n, -, hn⟩ := List.mem_map.mp he
    exact Or.inl ⟨n, hn⟩
  · rcases List.mem_append.mp he with he | he
    · obtain ⟨n, -, hn⟩ := List.mem_map.mp he
      exact Or.inl ⟨n, hn⟩
    · exact Or.inr ⟨_, List.mem_singleton.mp he⟩

theorem warnings_beginUse (s : Session) (t : Task) (u : Use) (values : List Value) :
    (s.beginUse t u values).warnings = s.warnings := by
  unfold beginUse
  split
  · rfl
  · rename_i st _
    split
    · have hsilent : ∀ e ∈ (st.build u.purpose values).1, (Event.logged e).warning? = none := by
        intro e he
        rcases entry_of_build he with ⟨n, rfl⟩ | ⟨q, rfl⟩
        · exact warning?_note n
        · rfl
      dsimp only
      split <;> exact warnings_log _ hsilent
    · rfl

theorem warnings_finish (s : Session) (t : Task) (u : Use) (outcome : Except Raised Outcome) :
    (s.finish t u outcome).warnings = s.warnings := by
  have hrecord : ((s.setStage u.statement .idle).record (.released u.statement s.claim.held)).warnings = s.warnings :=
    warnings_record _ rfl
  unfold finish
  dsimp only
  split
  · exact hrecord
  · exact (warnings_log _ (silent_connection _)).trans hrecord

theorem warnings_conclude (s : Session) (t : Task) (answer : Answer) :
    (s.conclude t answer).warnings = s.warnings := by
  unfold conclude
  split
  · exact warnings_record _ rfl
  · exact (warnings_push ..).trans (warnings_record _ rfl)

theorem warnings_send (s : Session) (t : Task) (u : Use) (sql : String) :
    (s.send t u sql).warnings = s.warnings ++ Write.warnings s.mode ⟨u, s.transport.send⟩ := by
  unfold send
  cases s.transport.send with
  | ok =>
    have hsilent : Write.warnings s.mode ⟨u, .ok ()⟩ = [] := by
      obtain ⟨i, purpose⟩ := u
      cases purpose <;> rfl
    rw [hsilent, List.append_nil]
    exact warnings_record s rfl
  | error r =>
    have hall : ∀ e ∈ Statement.sendWarnings s.mode u.purpose r.failure, (Event.logged e).warning? = some e := by
      intro e he
      unfold Statement.sendWarnings at he
      split at he
      · obtain rfl := List.mem_singleton.mp he
        cases s.mode <;> rfl
      · cases he
    have hkept (entries : List Entry) (h : ∀ e ∈ entries, (Event.logged e).warning? = some e) :
        (entries.map Event.logged).filterMap Event.warning? = entries := by
      rw [List.filterMap_map]
      exact (List.filterMap_congr h).trans List.filterMap_some
    rw [Write.warnings_eq]
    exact List.filterMap_append.trans (congrArg (s.warnings ++ ·) (hkept _ hall))

theorem warnings_move (s : Session) (t : Task) :
    (s.move t).warnings = s.warnings ++ (t.control.writes s.transport).flatMap (Write.warnings s.mode) := by
  unfold move
  cases t.control with
  | send u sql => simpa [Control.writes] using warnings_send s t u sql
  | start step => exact (warnings_start s t step).trans (List.append_nil _).symm
  | claim r =>
    refine Eq.trans ?_ (List.append_nil _).symm
    change (s.request t r).warnings = _
    unfold request
    split
    · exact warnings_grant ..
    · split
      · exact warnings_notes ..
      · dsimp only
        split <;> rfl
  | wait r =>
    refine Eq.trans ?_ (List.append_nil _).symm
    change (s.resume t r).warnings = _
    unfold resume
    dsimp only
    split
    · exact warnings_grant ..
    · rfl
  | begin u values => exact (warnings_beginUse s t u values).trans (List.append_nil _).symm
  | write u sql => exact (warnings_call ..).trans (List.append_nil _).symm
  | read u sql => exact (warnings_call ..).trans (List.append_nil _).symm
  | receive u sql => exact (List.append_nil _).symm
  | finish u outcome => exact (warnings_finish s t u outcome).trans (List.append_nil _).symm
  | done answer => exact (warnings_conclude s t answer).trans (List.append_nil _).symm

/-! ## What holds throughout -/

theorem used_move (h : s.Once) (ht : s.task? t.number = some t) {i : Nat} (hi : s.Used i) : (s.move t).Used i := by
  obtain ⟨stage, hstage, hne⟩ := hi
  rcases stage_move h ht i with he | ⟨hnone, -⟩ | ⟨_, _, -, -, he⟩ | ⟨_, _, -, -, he⟩
  · exact ⟨stage, he.trans hstage, hne⟩
  · rw [hstage] at hnone
    cases hnone
  · exact ⟨.executing, he, by simp⟩
  · exact ⟨.idle, he, by simp⟩

/-- Each write is of a statement that has been used, and of another one than the writes before it. -/
structure Written (s : Session) (writes : List Write) : Prop where
  used : ∀ w ∈ writes, s.Used w.use.statement
  apart : (writes.map (·.use.statement)).Nodup
  wrote : ∀ c ∈ s.underway, c.Wrote writes

namespace Written

theorem opened (mode : Mode) (config : Config) : (Session.opened mode config).Written [] :=
  ⟨fun _ h => absurd h List.not_mem_nil, List.nodup_nil, fun _ h => absurd h List.not_mem_nil⟩

theorem calm (h : s.Written writes) (hc : s.Calm s') : s'.Written writes :=
  ⟨fun w hw => hc.used _ (h.used w hw), h.apart, fun c hm => h.wrote c (hc.underway ▸ hm)⟩

theorem top (h : s.Written writes) (ho : s.Once) (ht : s.task? t.number = some t) {c : Control} (hc : t.control = c)
    (hu : c.use? = some u) : c.Wrote writes := by
  subst hc
  exact h.wrote t.control (ho.mem_top ht hu)

theorem fresh (h : s.Written writes) (ho : s.Once) (ht : s.task? t.number = some t) {w : Write}
    (hw : w ∈ t.control.writes s.transport) : ∀ w' ∈ writes, w'.use.statement ≠ w.use.statement := by
  have htop := h.top ho ht rfl (Control.use?_of_mem_writes hw)
  revert htop hw
  cases t.control with
  | send u sql =>
    intro hw htop
    obtain rfl := List.mem_singleton.mp hw
    exact htop
  | _ => exact fun hw => nomatch hw

theorem turn (h : s.Written writes) (ho : s.Once) (ht : s.task? t.number = some t) (control : Control)
    (underway : (s.move t).underway = (s.goto t control).underway)
    (wrote : control.Wrote (writes ++ t.control.writes s.transport)) :
    (s.move t).Written (writes ++ t.control.writes s.transport) := by
  obtain ⟨others, before, after⟩ := underway_perm ho.numbers ht
  have hothers : ∀ c ∈ others, c ∈ s.underway := fun c hc => before.mem_iff.mpr (List.mem_append_right _ hc)
  have hbusy := (before.filterMap Control.use?).map (·.statement)
  rw [List.filterMap_append, List.map_append, Control.filterMap_own] at hbusy
  have hnodup := (hbusy.nodup_iff).mp ho.apart
  have hapart : ∀ c ∈ others, ∀ v, c.use? = some v → ∀ w ∈ t.control.writes s.transport,
      w.use.statement ≠ v.statement := by
    intro c hc v hv w hw
    have hmem := List.mem_map_of_mem (f := (·.statement)) (List.mem_filterMap.mpr ⟨c, hc, hv⟩)
    refine (List.nodup_append.mp hnodup).2.2 w.use.statement ?_ v.statement hmem
    rw [Control.use?_of_mem_writes hw]
    exact List.mem_singleton_self _
  refine ⟨List.forall_mem_append.mpr ⟨fun w hw => used_move ho ht (h.used w hw), fun w hw => ?_⟩, ?_, fun c hc => ?_⟩
  · have hexecuting := ho.executing_top ht (Control.use?_of_mem_writes hw)
    exact used_move ho ht ⟨.executing, hexecuting, by simp⟩
  · rw [List.map_append]
    refine List.nodup_append.mpr ⟨h.apart, t.control.nodup_writes s.transport, ?_⟩
    simp only [List.mem_map]
    rintro i ⟨w', hw', rfl⟩ j ⟨w, hw, rfl⟩
    exact h.fresh ho ht hw w' hw'
  · rw [underway] at hc
    rcases List.mem_append.mp ((after control).mem_iff.mp hc) with hc | hc
    · exact Control.eq_of_mem_own hc ▸ wrote
    · exact (h.wrote c (hothers c hc)).append (hapart c hc)

theorem go (h : s.Written writes) (ho : s.Once) (ht : s.task? t.number = some t) (control : Control)
    (hnone : t.control.writes s.transport = []) (underway : (s.move t).underway = (s.goto t control).underway)
    (wrote : control.Wrote writes) : (s.move t).Written (writes ++ t.control.writes s.transport) := by
  refine h.turn ho ht control underway ?_
  rw [hnone, List.append_nil]
  exact wrote

theorem beginUse (h : s.Written writes) (ho : s.Once) (ht : s.task? t.number = some t) {values : List Value}
    (hc : t.control = .begin u values) (hp : s.stage? u.statement = some .prepared) :
    (s.move t).Written (writes ++ t.control.writes s.transport) := by
  obtain ⟨st, hst, hprepared⟩ := Option.map_eq_some_iff.mp hp
  have hfresh : ∀ w ∈ writes, w.use.statement ≠ u.statement := by
    intro w hw he
    obtain ⟨stage, hstage, hne⟩ := h.used w hw
    rw [he, hp] at hstage
    exact hne (Option.some.inj hstage).symm
  obtain ⟨control, hwrote, underway⟩ : ∃ control : Control, control.Wrote writes ∧
      (s.move t).underway = (s.goto t control).underway := by
    simp only [Session.move, hc, Session.beginUse, hst, hprepared, if_true]
    split
    · exact ⟨.finish u _, .unwritten hfresh, rfl⟩
    · exact ⟨.write u _, hfresh, rfl⟩
  exact h.go ho ht control (by rw [hc]; rfl) underway hwrote

theorem move (h : s.Written writes) (ho : s.Once) (ht : s.task? t.number = some t) :
    (s.move t).Written (writes ++ t.control.writes s.transport) := by
  have hcalm (hu : t.control.use? = none)
      (hb : ∀ u values, t.control = .begin u values → s.stage? u.statement ≠ some .prepared) :
      (s.move t).Written (writes ++ t.control.writes s.transport) := by
    have hnone : t.control.writes s.transport = [] :=
      List.eq_nil_iff_forall_not_mem.mpr fun w hw => nomatch hu.symm.trans (Control.use?_of_mem_writes hw)
    rw [hnone, List.append_nil]
    exact h.calm (calm_move ho.numbers ht hu hb)
  cases hc : t.control with
  | begin u values =>
    by_cases hp : s.stage? u.statement = some .prepared
    · exact hc ▸ h.beginUse ho ht hc hp
    · refine hc ▸ hcalm (by rw [hc]; rfl) fun v values' he => ?_
      obtain ⟨rfl, -⟩ := Control.begin.inj (hc.symm.trans he)
      exact hp
  | write u sql =>
    have hfresh := h.top ho ht hc rfl
    have hmove : s.move t = s.call t u u.purpose.write (.send u sql) := by rw [Session.move, hc]
    exact hc ▸ h.go ho ht (.send u sql) (by rw [hc]; rfl) (hmove ▸ underway_call ..) hfresh
  | send u sql =>
    have hmove : s.move t = s.send t u sql := by rw [Session.move, hc]
    obtain ⟨control, hwrote, underway⟩ : ∃ control : Control, control.Wrote (writes ++ [⟨u, s.transport.send⟩]) ∧
        (s.move t).underway = (s.goto t control).underway := by
      rw [hmove, Session.send]
      cases s.transport.send with
      | ok => exact ⟨.read u sql, List.mem_append_right _ (List.mem_singleton_self _), rfl⟩
      | error r => exact ⟨.finish u (.error r), .failed (List.mem_append_right _ (List.mem_singleton_self _)), rfl⟩
    exact hc ▸ h.turn ho ht control underway (hc ▸ hwrote)
  | read u sql =>
    have hwritten := h.top ho ht hc rfl
    have hmove : s.move t = s.call t u u.purpose.read (.receive u sql) := by rw [Session.move, hc]
    exact hc ▸ h.go ho ht (.receive u sql) (by rw [hc]; rfl) (hmove ▸ underway_call ..) hwritten
  | receive u sql =>
    have hwritten := h.top ho ht hc rfl
    have hmove : s.move t = s.receive t u sql := by rw [Session.move, hc]
    exact hc ▸ h.go ho ht (.finish u (s.transport.receive u.purpose sql)) (by rw [hc]; rfl) (hmove ▸ rfl)
      (.written hwritten)
  | finish u outcome =>
    have hmove : s.move t = s.finish t u outcome := by rw [Session.move, hc]
    obtain ⟨answer, tasks, -⟩ := finish_effect s t u outcome
    exact hc ▸ h.go ho ht (.done answer) (by rw [hc]; rfl) (hmove ▸ underway_congr tasks) trivial
  | _ => exact hc ▸ hcalm (by rw [hc]; rfl) fun v values' he => by rw [hc] at he; cases he

end Written

/-! ## Happenings -/

theorem writing_move (ht : s.task? t.number = some t) :
    s.writing (.move t.number) = t.control.writes s.transport := by
  rw [writing, ht]
  rfl

theorem occur_move (s : Session) (n : Nat) :
    (s.occur (.move n) = s ∧ s.writing (.move n) = []) ∨
      ∃ t, t.number = n ∧ s.task? t.number = some t ∧ s.occur (.move n) = s.move t := by
  cases ht : s.task? n with
  | none => exact Or.inl ⟨by simp only [occur, happen, ht], by rw [writing, ht]; rfl⟩
  | some t =>
    obtain rfl := number_of_task? ht
    by_cases hm : s.canMove t = true
    · exact Or.inr ⟨t, rfl, ht, happen_move ht hm⟩
    · refine Or.inl ⟨by simp only [occur, happen, ht, hm]; rfl, ?_⟩
      rw [writing_move ht]
      unfold canMove at hm
      cases hc : t.control with
      | send => exact absurd (by simp [hc]) hm
      | _ => rfl

theorem mode_occur (s : Session) (e : Happening) : (s.occur e).mode = s.mode := by
  have hcomes := comes_occur s e
  generalize s.occur e = s' at hcomes
  cases hcomes with
  | move ht => exact mode_move ht
  | @cancel target => exact (kept_cancel s target).mode
  | _ => rfl

theorem warnings_occur (s : Session) (e : Happening) :
    (s.occur e).warnings = s.warnings ++ (s.writing e).flatMap (Write.warnings s.mode) := by
  cases e with
  | move n =>
    rcases occur_move s n with ⟨hsame, hnone⟩ | ⟨t, rfl, ht, hmove⟩
    · rw [hsame, hnone]
      exact (List.append_nil _).symm
    · rw [hmove, writing_move ht]
      exact warnings_move s t
  | launch number step =>
    simp only [occur]
    split <;> exact (List.append_nil _).symm
  | cancel number =>
    simp only [occur, happen]
    split
    · exact (warnings_cancel ..).trans (List.append_nil _).symm
    · exact (List.append_nil _).symm
  | _ => exact (List.append_nil _).symm

theorem Written.occur (h : s.Written writes) (ho : s.Once) (e : Happening) :
    (s.occur e).Written (writes ++ s.writing e) := by
  cases e with
  | move n =>
    rcases occur_move s n with ⟨hsame, hnone⟩ | ⟨t, rfl, ht, hmove⟩
    · rw [hsame, hnone, List.append_nil]
      exact h
    · rw [hmove, writing_move ht]
      exact h.move ho ht
  | launch number step =>
    refine (List.append_nil writes).symm ▸ h.calm ?_
    simp only [Session.occur]
    split
    · exact ⟨rfl, underway_launch .., fun _ => id⟩
    · exact ⟨rfl, rfl, fun _ => id⟩
  | cancel number =>
    refine (List.append_nil writes).symm ▸ h.calm ?_
    simp only [Session.occur, happen]
    split
    · rename_i target hm
      obtain rfl := number_of_task? hm
      exact calm_cancel ho.numbers hm
    · exact ⟨rfl, rfl, fun _ => id⟩
  | _ => exact (List.append_nil writes).symm ▸ h.calm ⟨rfl, rfl, fun _ => id⟩

/-! ## Runs -/

theorem Written.evolve (h : s.Written writes) (ho : s.Once) (hs : List Happening) :
    (s.evolve hs).Written (writes ++ s.writes hs) := by
  induction hs generalizing s writes with
  | nil => exact (List.append_nil writes).symm ▸ h
  | cons e hs ih =>
    rw [Session.writes, ← List.append_assoc]
    exact ih (h.occur ho e) (ho.occur e)

theorem warnings_evolve (s : Session) (hs : List Happening) :
    (s.evolve hs).warnings = s.warnings ++ (s.writes hs).flatMap (Write.warnings s.mode) := by
  induction hs generalizing s with
  | nil => exact (List.append_nil _).symm
  | cons e hs ih =>
    have hrest := ih (s.occur e)
    rw [warnings_occur, mode_occur] at hrest
    rw [writes, List.flatMap_append, ← List.append_assoc]
    exact hrest

/-- Whatever happens, with the claim or without it, the warnings are those of the
writes, in their order: one for each write of an effect that has failed as an
error of sending, which carries its text, and none for any other write. A
statement is written once at most. A use that ends has written nothing, ends
with the failure of its write, or has written well. -/
theorem evolve_warns (mode : Mode) (config : Config) (hs : List Happening) :
    let s := (Session.opened mode config).evolve hs
    let writes := (Session.opened mode config).writes hs
    s.warnings = writes.flatMap (Write.warnings mode) ∧ (writes.map (·.use.statement)).Nodup ∧
      ∀ t u outcome, s.task? t.number = some t → t.control = .finish u outcome → Write.Ends writes u outcome := by
  intro s writes
  have ho : s.Once := (Once.opened mode config).evolve hs
  have h : s.Written writes := (Written.opened mode config).evolve (.opened mode config) hs
  refine ⟨warnings_evolve (Session.opened mode config) hs, h.apart, fun t u outcome ht hc => ?_⟩
  exact h.top ho ht hc rfl

def lostWrite (purpose : Purpose) : List Happening :=
  [.transport { sendError := some (.foreign .system "gone") }, .launch 0 (.direct purpose "SELECT 1" []), .move 0,
    .move 0, .move 0, .move 0, .move 0]

def lostRaised : Raised :=
  { failure := .own { family := .send, detail := "Cannot send query to server: gone" }
    cause := some (.foreign .system "gone") }

/-- The write of an effect fails. -/
theorem evolve_warns_effect :
    let s := (Session.opened .waiting {}).evolve (lostWrite .exec)
    let t : Task := { number := 0, control := .finish ⟨0, .exec⟩ (.error lostRaised) }
    s.task? 0 = some t ∧ Write.Ends [⟨⟨0, .exec⟩, .error lostRaised⟩] ⟨0, .exec⟩ (.error lostRaised) ∧
      s.warnings.map (fun e => (e.level, e.logger, e.message)) =
        [(Level.warning, "sqlprep.driver.async", "Exec: Cannot send query to server: gone")] := by
  intro s t
  have ht : s.task? 0 = some t := rfl
  obtain ⟨hwarnings, -, hends⟩ := evolve_warns .waiting {} (lostWrite .exec)
  refine ⟨ht, hends t ⟨0, .exec⟩ (.error lostRaised) ht rfl, ?_⟩
  have hs : s.warnings = _ := hwarnings
  rw [hs]
  decide +kernel

/-- The write of rows fails in the same way, which its use ends with, and there is no warning. -/
theorem evolve_unwarned :
    let s := (Session.opened .blocking {}).evolve (lostWrite .query)
    let t : Task := { number := 0, control := .finish ⟨0, .query⟩ (.error lostRaised) }
    let w : Write := ⟨⟨0, .query⟩, .error lostRaised⟩
    (Session.opened .blocking {}).writes (lostWrite .query) = [w] ∧ w.fault?.isSome = true ∧
      s.task? 0 = some t ∧ s.warnings = [] :=
  ⟨rfl, rfl, rfl, rfl⟩

end Session
end Prepared
