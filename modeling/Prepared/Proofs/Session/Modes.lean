import Mathlib.Data.List.Forall2
import Prepared.Proofs.Session.Alone

/-!
# The two modes

Whether callers block or wait shows in the names of statements and loggers, in
the order in which a new statement and its claim are noted, and in what becomes
of a request while the claim is held. Main statement: a script in which no claim
is requested while it is held comes to the same in both modes. All its steps are
answered, alike but for the name of a statement, the same queries are sent, the
same is logged, and the claim and the statements stand at the same point.
-/

namespace Prepared

section Translation
variable (m m' : Mode)

def Mode.retitle (text : String) : String :=
  m'.statementName ++ String.ofList (text.toList.drop m.statementName.toList.length)

def Statement.Details.translate (d : Statement.Details) : Statement.Details :=
  { d with description := m.retitle m' d.description }

def Answer.translate : Answer → Answer
  | .details d => .details (d.translate m m')
  | a => a

def Entry.translate (e : Entry) : Entry := if e.logger = m.logger then { e with logger := m'.logger } else e

def Control.translate : Control → Control
  | .done answer => .done (answer.translate m m')
  | c => c

def Frame.translate (f : Frame) : Frame := { f with next := f.next.translate m m' }

def Task.translate (t : Task) : Task :=
  { t with control := t.control.translate m m', frames := t.frames.map (Frame.translate m m') }

/-- Entries are left out: they come in another order. -/
def Event.translate : Event → Event
  | .nested answer => .nested (answer.translate m m')
  | .ended task answer => .ended task (answer.translate m m')
  | e => e

def Session.translate (s : Session) (events : List Event) : Session :=
  { s with mode := m', tasks := s.tasks.map (Task.translate m m'), events }

/-- The same has happened in both modes, but for the order of what was logged. -/
structure Told (es es' : List Event) : Prop where
  others : es'.filter (·.logged?.isNone) = (es.filter (·.logged?.isNone)).map (Event.translate m m')
  logged : (es'.filterMap (·.logged?)).Perm ((es.filterMap (·.logged?)).map (Entry.translate m m'))

end Translation

variable {m m' : Mode}

/-! ## Answers, tasks and entries -/

theorem Mode.retitle_append (m m' : Mode) (text : String) :
    m.retitle m' (m.statementName ++ text) = m'.statementName ++ text := by
  unfold retitle
  rw [String.toList_append, List.drop_left, String.ofList_toList]

theorem Answer.translate_details (st : Statement) (m m' : Mode) :
    (Answer.ofDetails (st.details m)).translate m m' = .ofDetails (st.details m') := by
  have hdescription : m.retitle m' (st.description m) = st.description m' := by
    simp only [Statement.description, String.append_assoc, Mode.retitle_append]
  unfold Statement.details
  cases st.config.description with
  | error e => rfl
  | ok config =>
    exact congrArg (fun text => Answer.details { (_ : Statement.Details) with description := text }) hdescription

theorem Answer.translate_ofOutcome (outcome : Except Raised Outcome) (m m' : Mode) :
    (ofOutcome outcome).translate m m' = ofOutcome outcome := by
  cases outcome with
  | error r => rfl
  | ok o =>
    cases o <;> rfl

theorem Answer.translate_ofOperation (o : Except Failure Operation) (m m' : Mode) :
    (ofOperation o).translate m m' = ofOperation o := by
  cases o <;> rfl

theorem Control.budget_translate (c : Control) : (c.translate m m').budget = c.budget := by
  cases c <;> rfl

theorem Task.budget_translate (t : Task) : (t.translate m m').budget = t.budget := by
  unfold budget translate
  rw [Control.budget_translate, List.foldr_map]
  simp only [Frame.budget, Frame.translate, Control.budget_translate]

theorem Task.translate_number (t : Task) : (t.translate m m').number = t.number := rfl

theorem Task.translate_cancelled (t : Task) : (t.translate m m').cancelled = t.cancelled := rfl

def Logger.common : List String := [Logger.converter, Logger.validator, Logger.driver, Logger.connection]

theorem Mode.logger_not_common (m : Mode) : m.logger ∉ Logger.common := by
  cases m <;> decide

theorem Entry.map_translate {es : List Entry} (h : ∀ e ∈ es, e.logger ∈ Logger.common) :
    es.map (Entry.translate m m') = es := by
  have hid : ∀ e ∈ es, e.translate m m' = id e := fun e he =>
    if_neg fun hm : e.logger = m.logger => m.logger_not_common (hm ▸ h e he)
  rw [List.map_congr_left hid, List.map_id]

theorem Note.logger_common {notes : List Note} : ∀ e ∈ notes.map (·.entry), e.logger ∈ Logger.common := by
  intro e he
  obtain ⟨n, -, rfl⟩ := List.mem_map.mp he
  cases n <;> simp [Note.entry, Logger.common]

theorem Statement.logger_common (st : Statement) (p : Purpose) (values : List Value) :
    ∀ e ∈ (st.build p values).1, e.logger ∈ Logger.common := by
  unfold Statement.build
  dsimp only
  split
  · exact Note.logger_common
  · intro e he
    rcases List.mem_append.mp he with he | he
    · exact Note.logger_common e he
    · rw [List.mem_singleton.mp he]
      simp [queryEntry, Logger.common]

theorem Statement.translate_sendWarnings (p : Purpose) (f : Failure) (m m' : Mode) :
    (sendWarnings m p f).map (Entry.translate m m') = sendWarnings m' p f := by
  unfold sendWarnings
  split
  · simp [Entry.translate]
  · rfl

/-! ## What was put down -/

namespace Told

theorem nil : Told m m' [] [] := ⟨rfl, .nil⟩

theorem append {es es' fs fs' : List Event} (h : Told m m' es es') (h' : Told m m' fs fs') :
    Told m m' (es ++ fs) (es' ++ fs') := by
  constructor
  · rw [List.filter_append, List.filter_append, List.map_append, h.others, h'.others]
  · rw [List.filterMap_append, List.filterMap_append, List.map_append]
    exact h.logged.append h'.logged

theorem one {e : Event} (he : e.logged? = none) : Told m m' [e] [e.translate m m'] := by
  have he' : (e.translate m m').logged? = none := by cases e <;> simp_all [Event.translate, Event.logged?]
  constructor <;> simp [he, he']

theorem entries {es es' : List Entry} (h : es'.Perm (es.map (Entry.translate m m'))) :
    Told m m' (es.map .logged) (es'.map .logged) := by
  have hlogged : ∀ es : List Entry, (es.map Event.logged).filterMap (·.logged?) = es := by
    intro es
    rw [List.filterMap_map]
    exact List.filterMap_some
  have hothers : ∀ es : List Entry, (es.map Event.logged).filter (·.logged?.isNone) = [] := by
    intro es
    simp [List.filter_map, Function.comp_def, Event.logged?]
  refine ⟨by rw [hothers, hothers]; rfl, ?_⟩
  rw [hlogged, hlogged]
  exact h

theorem filterMap {α : Type} {es es' : List Event} (h : Told m m' es es') {f : Event → Option α} {g : α → α}
    (hlogged : ∀ e, f (.logged e) = none) (htranslate : ∀ e : Event, f (e.translate m m') = (f e).map g) :
    es'.filterMap f = (es.filterMap f).map g := by
  have hothers : ∀ es : List Event, es.filterMap f = (es.filter (·.logged?.isNone)).filterMap f := by
    intro es
    rw [List.filterMap_filter]
    apply List.filterMap_congr
    intro e _
    cases e <;> simp [Event.logged?, hlogged]
  rw [hothers es', hothers es, h.others, List.filterMap_map, List.map_filterMap]
  apply List.filterMap_congr
  exact fun e _ => htranslate e

theorem ended {es es' : List Event} (h : Told m m' es es') :
    es'.filterMap (·.ended?) = (es.filterMap (·.ended?)).map fun (n, answer) => (n, answer.translate m m') :=
  h.filterMap (fun _ => rfl) fun e => by cases e <;> rfl

theorem sent {es es' : List Event} (h : Told m m' es es') : es'.filterMap (·.sent?) = es.filterMap (·.sent?) := by
  have hsent := h.filterMap (f := (·.sent?)) (g := id) (fun _ => rfl) fun e => by cases e <;> rfl
  rwa [List.map_id] at hsent

theorem nested {es es' : List Event} (h : Told m m' es es') :
    es'.filterMap (·.nested?) = (es.filterMap (·.nested?)).map (Answer.translate m m') :=
  h.filterMap (fun _ => rfl) fun e => by cases e <;> rfl

end Told

/-! ## Moves -/

namespace Session

/-- A session and what it would be in the other mode, given what was put down in
both up to some point. -/
inductive Mirrors (m m' : Mode) (past past' : List Event) (s : Session) : Session → Prop
  | mk {es es' : List Event} (mode : s.mode = m) (events : s.events = past ++ es) (told : Told m m' es es') :
    Mirrors m m' past past' s (s.translate m m' (past' ++ es'))

variable {past past' : List Event} {s s' : Session} {t : Task}

def grantEntries (counted : List Entry) : Mode → List Entry
  | .blocking => counted ++ [claimedEntry]
  | .waiting => claimedEntry :: counted

theorem grantEntries_perm (counted : List Entry) (mode : Mode) :
    (grantEntries counted mode).Perm (claimedEntry :: counted) := by
  cases mode with
  | blocking => exact List.perm_append_singleton ..
  | waiting => exact .rfl

theorem translate_put (s : Session) (t : Task) (es : List Event) :
    (s.translate m m' es).put (t.translate m m') = (s.put t).translate m m' es := by
  simp only [put, translate, List.map_map]
  congr 1
  apply List.map_congr_left
  intro u _
  by_cases hu : u.number = t.number <;> simp [hu, Task.translate]

namespace Mirrors

section
variable (h : Mirrors m m' past past' s s')
include h

theorem mode : s.mode = m ∧ s'.mode = m' := by
  cases h
  exact ⟨‹_›, rfl⟩

theorem claim : s'.claim = s.claim := by cases h; rfl

theorem hook : s'.hook = s.hook := by cases h; rfl

theorem transport : s'.transport = s.transport := by cases h; rfl

theorem stages : s'.stages = s.stages := by cases h; rfl

theorem statements : s'.statements = s.statements := by cases h; rfl

theorem told : ∃ es es', s.events = past ++ es ∧ s'.events = past' ++ es' ∧ Told m m' es es' := by
  cases h
  exact ⟨_, _, ‹_›, rfl, ‹_›⟩

theorem find? (name : String) : s'.find? name = s.find? name := by cases h; rfl

theorem task? (n : Nat) : s'.task? n = (s.task? n).map (Task.translate m m') := by
  cases h
  exact List.find?_map ..

/-- What has nothing to do with tasks and modes is done alike. -/
theorem alter (f : Session → Session) (mode : (f s).mode = s.mode) (events : (f s).events = s.events)
    (hf : ∀ es, f (s.translate m m' es) = (f s).translate m m' es) : Mirrors m m' past past' (f s) (f s') := by
  cases h with
  | mk hmode hevents told =>
    rw [hf]
    exact .mk (mode.trans hmode) (events.trans hevents) told

theorem tell {es es' : List Event} (told : Told m m' es es') :
    Mirrors m m' past past' { s with events := s.events ++ es } { s' with events := s'.events ++ es' } := by
  cases h with
  | @mk fs fs' mode events htold =>
    have hmk : Mirrors m m' past past' { s with events := s.events ++ es } _ :=
      .mk mode (show s.events ++ es = past ++ (fs ++ es) by rw [events, List.append_assoc]) (htold.append told)
    rw [← List.append_assoc] at hmk
    exact hmk

theorem log {es es' : List Entry} (he : es'.Perm (es.map (Entry.translate m m'))) :
    Mirrors m m' past past' (s.log es) (s'.log es') := h.tell (.entries he)

theorem logCommon (es : List Entry) (hes : ∀ e ∈ es, e.logger ∈ Logger.common) :
    Mirrors m m' past past' (s.log es) (s'.log es) := h.log (.of_eq (Entry.map_translate hes).symm)

theorem record (e : Event) (he : e.logged? = none) :
    Mirrors m m' past past' (s.record e) (s'.record (e.translate m m')) := h.tell (.one he)

theorem put (t : Task) : Mirrors m m' past past' (s.put t) (s'.put (t.translate m m')) := by
  cases h with
  | mk mode events told =>
    rw [translate_put]
    exact .mk mode events told

theorem goto (t : Task) (control : Control) :
    Mirrors m m' past past' (s.goto t control) (s'.goto (t.translate m m') (control.translate m m')) :=
  h.put { t with control }

theorem push (t : Task) (steps : List Step) (next : Control) :
    Mirrors m m' past past' (s.push t steps next) (s'.push (t.translate m m') steps (next.translate m m')) := by
  cases steps with
  | nil => exact h.goto t next
  | cons step rest => exact h.put { t with control := .start step, frames := ⟨rest, next⟩ :: t.frames }

theorem grant (t : Task) (r : Request) (claim : Claim) :
    Mirrors m m' past past' (s.grant t r claim) (s'.grant (t.translate m m') r claim) := by
  let made := Statement.make s.config r.sql r.config true
  let counted := made.notes.map (·.entry)
  have hcommon : ∀ e ∈ grantEntries counted m, e.logger ∈ Logger.common := by
    intro e he
    rcases List.mem_cons.mp ((grantEntries_perm counted m).subset he) with rfl | he
    · decide
    · exact Note.logger_common e he
  have hperm := (grantEntries_perm counted m').trans (grantEntries_perm counted m).symm
  have hadded := h.alter (fun s => ({ s with claim } : Session).add made.value) rfl rfl fun _ => rfl
  have hlogged := hadded.log (Entry.map_translate hcommon ▸ hperm)
  cases h with
  | mk mode events told =>
    subst mode
    cases r with
    | keep name sql config => exact (hlogged.alter (fun s => s.keep name _) rfl rfl fun _ => rfl).goto t _
    | direct purpose sql values => exact hlogged.goto t _

theorem request (t : Task) (r : Request) (hopen : s.claim.isOpen = true) :
    Mirrors m m' past past' (s.request t r) (s'.request (t.translate m m') r) := by
  unfold Session.request
  rw [h.claim, if_pos hopen, if_pos hopen]
  exact h.grant t r _

theorem resume (t : Task) (r : Request) :
    Mirrors m m' past past' (s.resume t r) (s'.resume (t.translate m m') r) := by
  unfold Session.resume
  rw [h.claim, Task.translate_number, Task.translate_cancelled]
  dsimp only
  split
  · exact h.grant t r _
  · let resumed := s.claim.resume t.number t.cancelled
    have hclaim := h.alter (fun s => { s with claim := resumed.claim }) rfl rfl fun _ => rfl
    exact (hclaim.put { t with control := .done cancelledAnswer, cancelled := false }).alter
      (fun s => s.wake resumed.wakes) rfl rfl fun _ => rfl

theorem beginUse (t : Task) (u : Use) (values : List Value) :
    Mirrors m m' past past' (s.beginUse t u values) (s'.beginUse (t.translate m m') u values) := by
  unfold Session.beginUse
  rw [h.statements]
  cases s.statements[u.statement]? with
  | none => exact h.goto t (.done .noStatement)
  | some st =>
    dsimp only
    split
    · have hset := h.alter (fun s => s.setStage u.statement .executing) rfl rfl fun _ => rfl
      have hlogged := hset.logCommon _ (st.logger_common u.purpose values)
      cases (st.build u.purpose values).2 with
      | error r => exact hlogged.goto t (.finish u (.error r))
      | ok sql => exact hlogged.goto t (.write u sql)
    · exact h.goto t (.done (.raised (Statement.spent st.stage)))

theorem call (t : Task) (u : Use) (c : Call) (next : Control) :
    Mirrors m m' past past' (s.call t u c next) (s'.call (t.translate m m') u c (next.translate m m')) := by
  have hcalled := h.record (.called u.statement c) rfl
  unfold Session.call
  dsimp only
  have hhook : (s'.record (.called u.statement c)).hook = (s.record (.called u.statement c)).hook := h.hook
  rw [hhook]
  cases (s.record (.called u.statement c)).hook with
  | none => exact hcalled.goto t next
  | some hook =>
    dsimp only
    split
    · exact (hcalled.alter (fun s => { s with hook := none }) rfl rfl fun _ => rfl).push t _ next
    · exact hcalled.goto t next

theorem send (t : Task) (u : Use) (sql : String) :
    Mirrors m m' past past' (s.send t u sql) (s'.send (t.translate m m') u sql) := by
  unfold Session.send
  rw [h.transport]
  cases s.transport.send with
  | error r =>
    obtain ⟨hm, hm'⟩ := h.mode
    rw [hm, hm']
    exact (h.log (.of_eq (Statement.translate_sendWarnings ..).symm)).goto t (.finish u (.error r))
  | ok _ => exact (h.record (.sent u.purpose sql) rfl).goto t (.read u sql)

theorem receive (t : Task) (u : Use) (sql : String) :
    Mirrors m m' past past' (s.receive t u sql) (s'.receive (t.translate m m') u sql) := by
  unfold Session.receive
  rw [h.transport]
  exact h.goto t (.finish u (s.transport.receive u.purpose sql))

theorem finish (t : Task) (u : Use) (outcome : Except Raised Outcome) :
    Mirrors m m' past past' (s.finish t u outcome) (s'.finish (t.translate m m') u outcome) := by
  have hidle := h.alter (fun s => s.setStage u.statement .idle) rfl rfl fun _ => rfl
  have hreleased := hidle.record (.released u.statement s.claim.held) rfl
  unfold Session.finish
  rw [h.claim]
  dsimp only
  have hclaim := hreleased.claim
  dsimp only [Event.translate] at hreleased hclaim
  rw [hclaim]
  cases ((s.setStage u.statement .idle).record (.released u.statement s.claim.held)).claim.release with
  | none => exact hreleased.goto t (.done notHeld)
  | some p =>
    obtain ⟨claim, wakes⟩ := p
    have hfree := hreleased.alter (fun s => { s with claim }) rfl rfl fun _ => rfl
    have hlogged := hfree.logCommon [releasedEntry] (by decide)
    have hdone := (hlogged.alter (fun s => s.wake wakes) rfl rfl fun _ => rfl).goto t (.done (.ofOutcome outcome))
    rw [Control.translate, Answer.translate_ofOutcome] at hdone
    exact hdone

theorem conclude (t : Task) (answer : Answer) :
    Mirrors m m' past past' (s.conclude t answer) (s'.conclude (t.translate m m') (answer.translate m m')) := by
  unfold Session.conclude
  cases hf : t.frames with
  | nil =>
    have hf' : (t.translate m m').frames = [] := by simp [Task.translate, hf]
    rw [hf']
    have hends := h.alter (fun s => { s with tasks := s.tasks.filter (·.number != t.number) }) rfl rfl fun es => by
      simp only [translate, List.filter_map, Function.comp_def, Task.translate_number]
    exact (hends.record (.ended t.number answer) rfl).alter yield rfl rfl fun _ => rfl
  | cons frame frames =>
    obtain ⟨rest, next⟩ := frame
    have hf' : (t.translate m m').frames = ⟨rest, next.translate m m'⟩ :: frames.map (Frame.translate m m') := by
      simp [Task.translate, Frame.translate, hf]
    rw [hf']
    exact (h.record (.nested answer) rfl).push { t with frames } rest next

theorem answerFrom (t : Task) (name : String) {f f' : Statement → Answer}
    (hf : ∀ st, (f st).translate m m' = f' st) :
    Mirrors m m' past past' (s.goto t (.done (s.answerFrom name f)))
      (s'.goto (t.translate m m') (.done (s'.answerFrom name f'))) := by
  have hanswer : (s.answerFrom name f).translate m m' = s'.answerFrom name f' := by
    unfold Session.answerFrom
    rw [h.find?, h.statements]
    cases (s.find? name).bind (s.statements[·]?) with
    | none => rfl
    | some st => exact hf st
  have hdone := h.goto t (.done (s.answerFrom name f))
  rw [Control.translate, hanswer] at hdone
  exact hdone

theorem cancel (target : Task) : Mirrors m m' past past' (s.cancel target) (s'.cancel (target.translate m m')) := by
  unfold Session.cancel
  rw [h.claim, Task.translate_number]
  split
  · exact h.alter (fun r => ({ r with claim := s.claim.withdraw target.number } : Session).wake (some target.number))
      rfl rfl fun _ => rfl
  · exact h.put { target with cancelled := true }

theorem start (t : Task) (step : Step) :
    Mirrors m m' past past' (s.start t step) (s'.start (t.translate m m') step) := by
  cases step with
  | prepare name sql settings =>
    simp only [Session.start]
    cases configOf settings with
    | error f => exact h.goto t (.done (.failed f))
    | ok config => exact h.goto t (.claim (.keep name sql config))
  | make name sql settings =>
    simp only [Session.start]
    cases configOf settings with
    | error f => exact h.goto t (.done (.failed f))
    | ok config =>
      let made := Statement.make s.config sql config false
      have hadded := h.alter (fun s => s.add made.value) rfl rfl fun _ => rfl
      have hlogged := hadded.logCommon (made.notes.map (·.entry)) Note.logger_common
      cases h with
      | mk => exact (hlogged.alter (fun s => s.keep name _) rfl rfl fun _ => rfl).goto t _
  | use name purpose values =>
    simp only [Session.start, h.find?]
    cases s.find? name with
    | none => exact h.goto t (.done .noStatement)
    | some index => exact h.goto t (.begin ⟨index, purpose⟩ values)
  | direct purpose sql values => exact h.goto t (.claim (.direct purpose sql values))
  | close name => exact h.answerFrom t name fun _ => rfl
  | details name =>
    obtain ⟨hm, hm'⟩ := h.mode
    simp only [Session.start, hm, hm']
    exact h.answerFrom t name fun st => Answer.translate_details st m m'
  | operation name => exact h.answerFrom t name fun st => Answer.translate_ofOperation st.operation m m'
  | change c => exact (h.alter (·.applyChange c) rfl rfl fun _ => rfl).goto t (.done .changed)
  | hook c on steps =>
    exact (h.alter (fun s => { s.applyChange c with hook := some (on, steps) }) rfl rfl fun _ => rfl).goto t
      (.done .changed)
  | cancel number =>
    simp only [Session.start, h.task?]
    cases s.task? number with
    | none => exact h.goto t (.done (.cancelled false))
    | some target =>
      have hcancel := h.cancel target
      simp only [Option.map_some, Task.translate_number, hcancel.task?]
      cases (s.cancel target).task? t.number with
      | none => exact hcancel.goto t (.done (.cancelled true))
      | some t' => exact hcancel.goto t' (.done (.cancelled true))

theorem move (t : Task) (hopen : ∀ r, t.control = .claim r → s.claim.isOpen = true) :
    Mirrors m m' past past' (s.move t) (s'.move (t.translate m m')) := by
  have hcontrol : (t.translate m m').control = t.control.translate m m' := rfl
  unfold Session.move
  rw [hcontrol]
  cases hc : t.control with
  | start step => exact h.start t step
  | claim r => exact h.request t r (hopen r hc)
  | wait r => exact h.resume t r
  | begin u values => exact h.beginUse t u values
  | write u sql => exact h.call t u u.purpose.write (.send u sql)
  | send u sql => exact h.send t u sql
  | read u sql => exact h.call t u u.purpose.read (.receive u sql)
  | receive u sql => exact h.receive t u sql
  | finish u outcome => exact h.finish t u outcome
  | done answer => exact h.conclude t answer

/-! ## Runs -/

theorem running : s'.running = s.running.map (Task.translate m m') := by
  have hready : s'.ready = s.ready := by cases h; rfl
  unfold Session.running
  rw [hready]
  cases s.ready.head? with
  | none => rfl
  | some n => exact h.task? n

theorem contests (t : Task) : s'.contests (t.translate m m') = s.contests t := by
  have hcontrol : (t.translate m m').control = t.control.translate m m' := rfl
  unfold Session.contests
  rw [hcontrol, h.claim]
  cases t.control <;> rfl

theorem budget : s'.budget = s.budget := by
  cases h
  simp only [Session.budget, Session.translate, List.foldr_map, Task.budget_translate]

theorem atRest (hrest : s.AtRest) : s'.AtRest := by
  cases h
  exact ⟨by simp [Session.translate, hrest.tasks], hrest.ready, hrest.queue⟩

theorem launch (number : Nat) (step : Step) :
    Mirrors m m' past past' (s.launch number step) (s'.launch number step) :=
  h.alter (·.launch number step) rfl rfl fun _ => by
    simp [Session.launch, Session.translate, Task.translate, Control.translate]

theorem onward : Mirrors m m' s.events s'.events s s' := by
  have hmk : Mirrors m m' s.events s'.events s _ := .mk h.mode.1 (List.append_nil _).symm .nil
  rw [List.append_nil] at hmk
  cases h
  exact hmk

end

theorem settle (n : Nat) (h : Mirrors m m' past past' s s') (halone : s.Alone t)
    (hfree : s.settlesFreely n = true) :
    Mirrors m m' past past' (s.settle n) (s'.settle n) ∧ s'.settlesFreely n = true := by
  induction n generalizing s s' t with
  | zero => exact ⟨h, rfl⟩
  | succ n ih =>
    have hrunning : s'.running = some (t.translate m m') := by rw [h.running, halone.running]; rfl
    rw [settlesFreely_succ halone.running] at hfree
    -- Who claims finds the claim free, as nobody holds it and nobody waits for it.
    have hopen : ∀ r, t.control = .claim r → s.claim.isOpen = true := by
      intro r hc
      have hheld := hfree.1
      rw [Session.contests, hc] at hheld
      exact Claim.isOpen_of_free halone.queue hheld
    have hmove := h.move t hopen
    have hcontests : s'.contests (t.translate m m') = false := (h.contests t).trans hfree.1
    rw [settle_succ halone.running, settle_succ hrunning, settlesFreely_succ hrunning]
    rcases halone.move hfree.1 with ⟨t', -, halone', -, -⟩ | ⟨answer, hrest, -⟩
    · exact (ih hmove halone' hfree.2).imp_right fun hfree' => ⟨hcontests, hfree'⟩
    · rw [hrest.settle, (hmove.atRest hrest).settle]
      exact ⟨hmove, hcontests, (hmove.atRest hrest).settlesFreely n⟩

theorem take (h : Mirrors m m' past past' s s') (hrest : s.AtRest) {number : Nat} {step : Step}
    (hfree : (s.launch number step).settlesFreely (s.launch number step).budget = true) :
    Mirrors m m' past past' (s.take number step) (s'.take number step) ∧
      (s'.launch number step).settlesFreely (s'.launch number step).budget = true := by
  have hlaunch := h.launch number step
  obtain ⟨hsettle, hfree'⟩ := hlaunch.settle _ (hrest.launch number step) hfree
  rw [← hlaunch.budget] at hfree' hsettle
  refine ⟨?_, hfree'⟩
  unfold Session.take
  dsimp only
  rwa [← hlaunch.budget]

end Mirrors

structure Agrees (m m' : Mode) (p p' : Session × Report) : Prop where
  answer : ∃ answer, p.2.answer = some answer ∧ p'.2.answer = some (answer.translate m m')
  completed : p.2.completed = [] ∧ p'.2.completed = []
  sent : p'.2.sent = p.2.sent
  nested : p'.2.nested = p.2.nested.map (Answer.translate m m')
  entries : p'.2.entries.Perm (p.2.entries.map (Entry.translate m m'))
  held : p'.1.claim.held = p.1.claim.held
  statements : p'.1.statements = p.1.statements
  stages : p'.1.stages = p.1.stages

theorem take_agrees (h : Mirrors m m' past past' s s') (hrest : s.AtRest) {number : Nat} {step : Step}
    (hfree : (s.launch number step).settlesFreely (s.launch number step).budget = true) :
    Agrees m m' (s.take number step, .ofEvents number ((s.take number step).events.drop s.events.length))
      (s'.take number step, .ofEvents number ((s'.take number step).events.drop s'.events.length)) := by
  obtain ⟨-, es, answer, hevents, hquiet⟩ := hrest.take number step hfree
  -- Only what this step puts down is compared, so the past ends here.
  obtain ⟨htake, -⟩ := h.onward.take hrest hfree
  obtain ⟨fs, fs', hfs, hfs', htold⟩ := htake.told
  have hended : fs.filterMap (·.ended?) = [(number, answer)] := by
    rw [hfs, List.append_assoc] at hevents
    rw [List.append_cancel_left hevents, List.filterMap_append, hquiet]
    rfl
  have hended' : fs'.filterMap (·.ended?) = [(number, answer.translate m m')] := by
    rw [htold.ended, hended]
    rfl
  rw [hfs, hfs', List.drop_left, List.drop_left]
  refine ⟨⟨answer, ?_, ?_⟩, ⟨?_, ?_⟩, htold.sent, htold.nested, htold.logged, ?_, htake.statements, htake.stages⟩
  · simp [Report.ofEvents, hended]
  · simp [Report.ofEvents, hended']
  · simp [Report.ofEvents, hended]
  · simp [Report.ofEvents, hended']
  · dsimp only
    rw [htake.claim]

theorem run_agrees (h : Mirrors m m' past past' s s') (hrest : s.AtRest) {number : Nat} {steps : List Step}
    (hfree : s.runsFreely number steps = true) :
    List.Forall₂ (Agrees m m') (s.run number steps) (s'.run number steps) ∧
      s'.runsFreely number steps = true := by
  induction steps generalizing s s' number past past' with
  | nil => exact ⟨.nil, rfl⟩
  | cons step steps ih =>
    rw [runsFreely, Bool.and_eq_true] at hfree
    obtain ⟨htake, hfree'⟩ := h.take hrest hfree.1
    obtain ⟨hagrees, hruns⟩ := ih htake (hrest.take number step hfree.1).1 hfree.2
    refine ⟨.cons (take_agrees h hrest hfree.1) hagrees, ?_⟩
    rw [runsFreely, Bool.and_eq_true]
    exact ⟨hfree', hruns⟩

/-- A script in which no claim is requested while it is held comes to the same, step by
step, whether its callers block or wait. -/
theorem modes_agree (m m' : Mode) (config : Config) (number : Nat) (steps : List Step)
    (hfree : (opened m config).runsFreely number steps = true) :
    List.Forall₂ (Agrees m m') ((opened m config).run number steps) ((opened m' config).run number steps) ∧
      (opened m' config).runsFreely number steps = true :=
  have hmirrors : Mirrors m m' [] [] (opened m config) (opened m' config) := .mk rfl rfl .nil
  run_agrees hmirrors ⟨rfl, rfl, rfl⟩ hfree

def sampleScript : List Step :=
  [.prepare "a" "SELECT $1" none, .hook {} .writeExec [.details "a", .use "a" .exec []], .use "a" .exec [.int 7],
    .use "a" .query [], .change { sendError := some (some (.foreign .value "down")) }, .direct .exec "DELETE" []]

theorem modes_agree_sample :
    (opened .blocking {}).runsFreely 0 sampleScript = true ∧
      List.Forall₂ (Agrees .blocking .waiting) ((opened .blocking {}).run 0 sampleScript)
        ((opened .waiting {}).run 0 sampleScript) :=
  have hfree : (opened .blocking {}).runsFreely 0 sampleScript = true := by decide +kernel
  ⟨hfree, (modes_agree .blocking .waiting {} 0 sampleScript hfree).1⟩

end Session
end Prepared
