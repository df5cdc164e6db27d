import Prepared.Proofs.Session.Exclusion

/-!
# Round trips

What the transport is called for is a row of round trips, one after the other,
each of one statement: a query is written, and once that has gone well its
outcome may be read. The task that is in the middle of a use stands where the
last round trip has got to, and a statement that has no round trip yet has not
been used.
-/

namespace Prepared

inductive Reach
  | called
  | sent (sql : String)
  | read (sql : String)

structure RoundTrip where
  statement : Nat
  purpose : Purpose
  reach : Reach

namespace RoundTrip

def events (r : RoundTrip) : List Event :=
  match r.reach with
  | .called => [.called r.statement r.purpose.write]
  | .sent sql => [.called r.statement r.purpose.write, .sent r.purpose sql]
  | .read sql =>
    [.called r.statement r.purpose.write, .sent r.purpose sql, .called r.statement r.purpose.read]

def calls (r : RoundTrip) : List (Nat × Call) :=
  match r.reach with
  | .called | .sent _ => [(r.statement, r.purpose.write)]
  | .read _ => [(r.statement, r.purpose.write), (r.statement, r.purpose.read)]

end RoundTrip

def Event.isExchange : Event → Bool
  | .called .. | .sent .. => true
  | _ => false

def Event.call? : Event → Option (Nat × Call)
  | .called statement call => some (statement, call)
  | _ => none

theorem RoundTrip.calls_eq (r : RoundTrip) : r.events.filterMap Event.call? = r.calls := by
  obtain ⟨statement, purpose, reach⟩ := r
  cases reach <;> rfl

def Control.Fits (trips : List RoundTrip) : Control → Prop
  | .write u _ => ∀ r ∈ trips, r.statement ≠ u.statement
  | .send u _ => ∃ before, trips = before ++ [⟨u.statement, u.purpose, .called⟩]
  | .read u sql => ∃ before, trips = before ++ [⟨u.statement, u.purpose, .sent sql⟩]
  | .receive u sql => ∃ before, trips = before ++ [⟨u.statement, u.purpose, .read sql⟩]
  | _ => True

namespace Session

def exchanges (s : Session) : List Event := s.events.filter Event.isExchange

def calls (s : Session) : List (Nat × Call) := s.events.filterMap Event.call?

variable {s s' : Session} {t t' : Task} {trips : List RoundTrip}

theorem calls_eq (s : Session) : s.calls = s.exchanges.filterMap Event.call? := by
  rw [calls, exchanges, List.filterMap_filter]
  apply List.filterMap_congr
  intro e _
  cases e <;> rfl

theorem exchanges_record (s : Session) (e : Event) :
    (s.record e).exchanges = s.exchanges ++ if e.isExchange then [e] else [] := by
  simp only [exchanges, record, List.filter_append, List.filter_singleton]
  cases e.isExchange <;> rfl

theorem exchanges_log (s : Session) (entries : List Entry) : (s.log entries).exchanges = s.exchanges := by
  simp [exchanges, log, List.filter_map, Function.comp_def, Event.isExchange]

theorem exchanges_finish (s : Session) (t : Task) (u : Use) (outcome : Except Raised Outcome) :
    (s.finish t u outcome).exchanges = s.exchanges := by
  have hexchanges : ((s.setStage u.statement .idle).record (.released u.statement s.claim.held)).exchanges =
      s.exchanges := (exchanges_record ..).trans (List.append_nil _)
  unfold Session.finish
  dsimp only
  split
  · exact hexchanges
  · exact (exchanges_log ..).trans hexchanges

theorem Alike.exchanges (h : s.Alike s') : s'.exchanges = s.exchanges := by
  obtain ⟨es, hes, hquiet⟩ := h.events
  have hnone : es.filter Event.isExchange = [] := by
    rw [List.filter_eq_nil_iff]
    intro e he
    have := hquiet e he
    cases e <;> simp_all [Event.isQuiet, Event.isExchange]
  rw [Session.exchanges, hes, List.filter_append, hnone, List.append_nil]
  rfl

/-! ## Statements that have been used -/

def Used (s : Session) (i : Nat) : Prop := ∃ stage, s.stage? i = some stage ∧ stage ≠ .prepared

theorem Used.congr {i : Nat} (h : s.Used i) (statements : s'.statements = s.statements) : s'.Used i := by
  obtain ⟨stage, hs, hne⟩ := h
  exact ⟨stage, by rw [stage?, statements]; exact hs, hne⟩

theorem Used.append {i : Nat} (h : s.Used i) {st : Statement}
    (statements : s'.statements = s.statements ++ [st]) : s'.Used i := by
  obtain ⟨stage, hs, hne⟩ := h
  exact ⟨stage, by rw [stage?_of_append statements, hs]; rfl, hne⟩

theorem Used.setStage {i j : Nat} (h : s.Used i) {stage : Stage} (hne : stage ≠ .prepared)
    (statements : s'.statements = (s.setStage j stage).statements) : s'.Used i := by
  obtain ⟨was, hs, hwas⟩ := h
  have hstage : s'.stage? i = (s.setStage j stage).stage? i := by rw [stage?, stage?, statements]
  rw [stage?_setStage, hs] at hstage
  by_cases hj : j = i
  · exact ⟨stage, by rw [hstage, if_pos hj]; rfl, hne⟩
  · exact ⟨was, by rw [hstage, if_neg hj], hwas⟩

/-! ## Moves outside of a use -/

/-- Nothing has been exchanged with the transport, whoever is in a use stands
where he stood, and no statement is fresh again. -/
structure Calm (s s' : Session) : Prop where
  exchanges : s'.exchanges = s.exchanges
  underway : s'.underway = s.underway
  used : ∀ i, s.Used i → s'.Used i

theorem Calm.trans {s₁ s₂ s₃ : Session} (h : s₁.Calm s₂) (h' : s₂.Calm s₃) : s₁.Calm s₃ :=
  ⟨h'.exchanges.trans h.exchanges, h'.underway.trans h.underway, fun i hi => h'.used i (h.used i hi)⟩

theorem calm_put (hn : (s.tasks.map (·.number)).Nodup) (ht : s.task? t.number = some t)
    (hu : t.control.use? = none) (t' : Task) (hnumber : t'.number = t.number) (hu' : t'.control.use? = none)
    (hf : t'.frames = t.frames) (tasks : s'.tasks = (s.put t').tasks) (used : ∀ i, s.Used i → s'.Used i)
    (exchanges : s'.exchanges = s.exchanges) : s.Calm s' :=
  ⟨exchanges, (underway_congr tasks).trans (underway_put hn ht hnumber (Task.underway_of_not_use hu hu' hf)), used⟩

theorem calm_passes (hn : (s.tasks.map (·.number)).Nodup) (ht : s.task? t.number = some t)
    (hu : t.control.use? = none) (hs : s.Passes t s') : s.Calm s' := by
  obtain ⟨control, hp, -, tasks, hl⟩ := hs
  exact calm_put hn ht hu { t with control } rfl hp.use rfl tasks (fun _ hi => hi.congr hl.statements) hl.exchanges

theorem calm_cancel (hn : (s.tasks.map (·.number)).Nodup) {target : Task}
    (hm : s.task? target.number = some target) : s.Calm (s.cancel target) := by
  have hexchanges : (s.cancel target).exchanges = s.exchanges := by
    unfold Session.cancel
    split <;> rfl
  exact ⟨hexchanges, underway_cancel hn hm, fun _ hi => hi.congr (statements_cancel s target)⟩

theorem calm_start (hn : (s.tasks.map (·.number)).Nodup) (ht : s.task? t.number = some t)
    {step : Step} (hc : t.control = .start step) : s.Calm (s.start t step) := by
  rcases start_cases ht hc with hs | ⟨target, t', -, hm, ht', -, hc', -, he⟩ | ⟨_, _, _, _, -, he⟩
  · exact calm_passes hn ht (by rw [hc]; rfl) hs
  · rw [he]
    have hn' : ((s.cancel target).tasks.map (·.number)).Nodup := by rw [numbers_cancel]; exact hn
    exact (calm_cancel hn hm).trans (calm_passes hn' ht' (by rw [hc']; rfl) (passes_done ..))
  · rw [he]
    exact calm_put hn ht (by rw [hc]; rfl) { t with control := .done _ } rfl rfl rfl rfl
      (fun _ hi => hi.append rfl) (exchanges_log ..)

theorem calm_grant (hn : (s.tasks.map (·.number)).Nodup) (ht : s.task? t.number = some t)
    (hu : t.control.use? = none) (r : Request) (claim : Claim) : s.Calm (s.grant t r claim) := by
  cases r with
  | keep name sql config =>
    exact calm_put hn ht hu { t with control := .done _ } rfl rfl rfl rfl (fun _ hi => hi.append rfl)
      (exchanges_log ..)
  | direct purpose sql values =>
    exact calm_put hn ht hu { t with control := .begin _ _ } rfl rfl rfl rfl (fun _ hi => hi.append rfl)
      (exchanges_log ..)

theorem calm_request (hn : (s.tasks.map (·.number)).Nodup) (ht : s.task? t.number = some t)
    {r : Request} (hc : t.control = .claim r) : s.Calm (s.request t r) := by
  have hu : t.control.use? = none := by rw [hc]; rfl
  unfold Session.request
  split
  · exact calm_grant hn ht hu r _
  · split
    · exact calm_put hn ht hu { t with control := .done .blocked } rfl rfl rfl rfl (fun _ => id) (exchanges_log ..)
    · dsimp only
      split
      · exact calm_put hn ht hu { t with control := .wait r, cancelled := false } rfl rfl rfl rfl (fun _ => id) rfl
      · exact calm_put hn ht hu { t with control := .wait r } rfl rfl rfl rfl (fun _ => id) rfl

theorem calm_resume (hn : (s.tasks.map (·.number)).Nodup) (ht : s.task? t.number = some t)
    {r : Request} (hc : t.control = .wait r) : s.Calm (s.resume t r) := by
  have hu : t.control.use? = none := by rw [hc]; rfl
  unfold Session.resume
  dsimp only
  split
  · exact calm_grant hn ht hu r _
  · exact calm_put hn ht hu { t with control := .done cancelledAnswer, cancelled := false } rfl rfl rfl rfl
      (fun _ => id) rfl

theorem calm_conclude (hn : (s.tasks.map (·.number)).Nodup) (ht : s.task? t.number = some t)
    {answer : Answer} (hc : t.control = .done answer) : s.Calm (s.conclude t answer) := by
  unfold Session.conclude
  split
  · rename_i hframes
    have hunderway : t.underway = [] := by simp [Task.underway, Task.controls, hc, hframes, Control.use?]
    exact ⟨(exchanges_record ..).trans (List.append_nil _), underway_of_filter hn ht hunderway rfl, fun _ => id⟩
  · rename_i rest next frames hframes
    have hunderway : ({ t with control := next, frames } : Task).underway = t.underway := by
      simp [Task.underway, Task.controls, hc, hframes, Control.use?]
    refine ⟨?_, ?_, fun _ hi => hi.congr ?_⟩
    · have hexchanges : (s.record (.nested answer)).exchanges = s.exchanges :=
        (exchanges_record ..).trans (List.append_nil _)
      cases rest <;> exact hexchanges
    · rw [underway_push]
      exact underway_put hn ht rfl hunderway
    · cases rest <;> rfl

theorem calm_move (hn : (s.tasks.map (·.number)).Nodup) (ht : s.task? t.number = some t) (hu : t.control.use? = none)
    (hb : ∀ u values, t.control = .begin u values → s.stage? u.statement ≠ some .prepared) :
    s.Calm (s.move t) := by
  unfold Session.move
  split
  · exact calm_start hn ht ‹_›
  · exact calm_request hn ht ‹_›
  · exact calm_resume hn ht ‹_›
  · rename_i u values hc
    unfold Session.beginUse
    split
    · exact calm_passes hn ht hu (passes_done s t _)
    · rename_i st hst
      have hstage : st.stage ≠ .prepared := fun he => hb u values hc (by rw [stage?, hst, Option.map_some, he])
      rw [if_neg hstage]
      exact calm_passes hn ht hu (passes_done s t _)
  · rename_i hc; rw [hc] at hu; cases hu
  · rename_i hc; rw [hc] at hu; cases hu
  · rename_i hc; rw [hc] at hu; cases hu
  · rename_i hc; rw [hc] at hu; cases hu
  · rename_i hc; rw [hc] at hu; cases hu
  · exact calm_conclude hn ht ‹_›

/-! ## What holds throughout -/

structure Traced (s : Session) (trips : List RoundTrip) : Prop where
  exchanges : s.exchanges = trips.flatMap RoundTrip.events
  nodup : (trips.map (·.statement)).Nodup
  used : ∀ r ∈ trips, s.Used r.statement
  fits : ∀ c ∈ s.underway, c.Fits trips

theorem fits_of_underway {control : Control} (hu : s.underway = [control]) (hf : control.Fits trips) :
    ∀ c ∈ s.underway, c.Fits trips := by
  intro c hc
  rw [hu] at hc
  obtain rfl := List.mem_singleton.mp hc
  exact hf

namespace Traced

theorem opened (mode : Mode) (config : Config) : (Session.opened mode config).Traced [] :=
  ⟨rfl, List.nodup_nil, fun _ h => absurd h List.not_mem_nil, fun _ h => absurd h List.not_mem_nil⟩

theorem calm (h : s.Traced trips) (hc : s.Calm s') : s'.Traced trips :=
  ⟨hc.exchanges.trans h.exchanges, h.nodup, fun r hr => hc.used _ (h.used r hr),
    fun c hm => h.fits c (hc.underway ▸ hm)⟩

theorem beginUse (h : s.Traced trips) (hs : s.Exclusive) (hn : (s.tasks.map (·.number)).Nodup)
    (ht : s.task? t.number = some t) {u : Use} (hstage : s.stage? u.statement = some .prepared)
    (values : List Value) : (s.beginUse t u values).Traced trips := by
  obtain ⟨st, hst, hprepared⟩ := Option.map_eq_some_iff.mp hstage
  have hfresh : ∀ r ∈ trips, r.statement ≠ u.statement := by
    intro r hr he
    obtain ⟨stage, hused, hne⟩ := h.used r hr
    rw [he, hstage] at hused
    exact hne (Option.some.inj hused).symm
  have hbegun : ∀ (control : Control) (s' : Session), control.use? = some u → control.Fits trips →
      s'.tasks = (s.goto t control).tasks → s'.statements = (s.setStage u.statement .executing).statements →
      s'.exchanges = s.exchanges → s'.Traced trips := by
    intro control s' hcu hfits tasks statements exchanges
    have hunderway : s'.underway = [control] := (underway_congr tasks).trans
      (underway_put_of_nil hn ht (hs.uses_eq_nil hst hprepared) { t with control } rfl rfl hcu)
    exact ⟨exchanges.trans h.exchanges, h.nodup, fun r hr => (h.used r hr).setStage (by simp) statements,
      fits_of_underway hunderway hfits⟩
  unfold Session.beginUse
  rw [hst]
  dsimp only
  rw [if_pos hprepared]
  split
  · exact hbegun (.finish u _) _ rfl trivial rfl rfl (exchanges_log ..)
  · exact hbegun (.write u _) _ rfl hfresh rfl rfl (exchanges_log ..)

theorem extend {before : List RoundTrip} {r : RoundTrip} (h : s.Traced (before ++ [r])) (r' : RoundTrip)
    (hr : r'.statement = r.statement) {es : List Event} (exchanges : s'.exchanges = s.exchanges ++ es)
    (events : r'.events = r.events ++ es) (statements : s'.statements = s.statements)
    (fits : ∀ c ∈ s'.underway, c.Fits (before ++ [r'])) : s'.Traced (before ++ [r']) := by
  refine ⟨?_, ?_, fun q hq => ?_, fits⟩
  · rw [exchanges, h.exchanges]
    simp [List.flatMap_append, events]
  · have hnodup := h.nodup
    simpa [hr] using hnodup
  · have hused : s.Used q.statement := by
      rcases List.mem_append.mp hq with hq | hq
      · exact h.used q (List.mem_append_left _ hq)
      · rw [List.mem_singleton.mp hq, hr]
        exact h.used r (by simp)
    exact hused.congr statements

theorem begin (h : s.Traced trips) {u : Use} (hfresh : ∀ r ∈ trips, r.statement ≠ u.statement)
    (hused : s.Used u.statement) (exchanges : s'.exchanges = s.exchanges ++ [.called u.statement u.purpose.write])
    (statements : s'.statements = s.statements)
    (fits : ∀ c ∈ s'.underway, c.Fits (trips ++ [⟨u.statement, u.purpose, .called⟩])) :
    s'.Traced (trips ++ [⟨u.statement, u.purpose, .called⟩]) := by
  refine ⟨?_, ?_, fun q hq => ?_, fits⟩
  · rw [exchanges, h.exchanges, List.flatMap_append]
    rfl
  · rw [List.map_append]
    have hnot : u.statement ∉ trips.map (·.statement) := by
      intro hm
      obtain ⟨r, hr, he⟩ := List.mem_map.mp hm
      exact hfresh r hr he
    simpa [List.concat_eq_append] using h.nodup.concat hnot
  · rcases List.mem_append.mp hq with hq | hq
    · exact (h.used q hq).congr statements
    · rw [List.mem_singleton.mp hq]
      exact hused.congr statements

end Traced

/-! ## Calls -/

theorem exchanges_call (s : Session) (t : Task) (u : Use) (c : Call) (next : Control) :
    (s.call t u c next).exchanges = s.exchanges ++ [.called u.statement c] := by
  have hexchanges : (s.record (.called u.statement c)).exchanges = s.exchanges ++ [.called u.statement c] :=
    exchanges_record ..
  unfold call
  dsimp only
  split
  · rename_i steps _
    split
    · cases steps <;> exact hexchanges
    · exact hexchanges
  · exact hexchanges

theorem underway_call (s : Session) (t : Task) (u : Use) (c : Call) (next : Control) :
    (s.call t u c next).underway = (s.goto t next).underway := by
  unfold call
  dsimp only
  split
  · split
    · rw [underway_push]
      rfl
    · rfl
  · rfl

theorem call_effect (h : s.Exclusive) (hn : (s.tasks.map (·.number)).Nodup) (ht : s.task? t.number = some t)
    {u : Use} (c : Call) (next : Control) (hu : t.control.use? = some u) (hnext : next.use? = some u) :
    (s.call t u c next).exchanges = s.exchanges ++ [.called u.statement c] ∧
      (s.call t u c next).statements = s.statements ∧ (s.call t u c next).underway = [next] := by
  refine ⟨exchanges_call .., statements_call .., ?_⟩
  rw [underway_call, h.underway_goto hn ht hu, hnext]
  rfl

namespace Traced

theorem write (h : s.Traced trips) (hs : s.Exclusive) (hn : (s.tasks.map (·.number)).Nodup)
    (ht : s.task? t.number = some t) {u : Use} {sql : String} (hc : t.control = .write u sql) :
    ∃ trips', (s.call t u u.purpose.write (.send u sql)).Traced trips' := by
  have hu : t.control.use? = some u := by rw [hc]; rfl
  obtain ⟨exchanges, statements, underway⟩ := call_effect hs hn ht u.purpose.write (.send u sql) hu rfl
  obtain ⟨hunderway, -⟩ := hs.alone hn ht hu
  have hfresh := h.fits t.control (by simp [hunderway])
  rw [hc] at hfresh
  have hexecuting := hs.executing u (by simp [Session.uses, hunderway, hu])
  exact ⟨_, h.begin hfresh ⟨.executing, hexecuting, by simp⟩ exchanges statements
    (fits_of_underway underway ⟨trips, rfl⟩)⟩

theorem read (h : s.Traced trips) (hs : s.Exclusive) (hn : (s.tasks.map (·.number)).Nodup)
    (ht : s.task? t.number = some t) {u : Use} {sql : String} (hc : t.control = .read u sql) :
    ∃ trips', (s.call t u u.purpose.read (.receive u sql)).Traced trips' := by
  have hu : t.control.use? = some u := by rw [hc]; rfl
  obtain ⟨exchanges, statements, underway⟩ := call_effect hs hn ht u.purpose.read (.receive u sql) hu rfl
  obtain ⟨hunderway, -⟩ := hs.alone hn ht hu
  have hfits := h.fits t.control (by simp [hunderway])
  rw [hc] at hfits
  obtain ⟨before, rfl⟩ := hfits
  exact ⟨_, h.extend ⟨u.statement, u.purpose, .read sql⟩ rfl exchanges rfl statements
    (fits_of_underway underway ⟨before, rfl⟩)⟩

theorem send (h : s.Traced trips) (hs : s.Exclusive) (hn : (s.tasks.map (·.number)).Nodup)
    (ht : s.task? t.number = some t) {u : Use} {sql : String} (hc : t.control = .send u sql) :
    ∃ trips', (s.send t u sql).Traced trips' := by
  have hu : t.control.use? = some u := by rw [hc]; rfl
  obtain ⟨hunderway, -⟩ := hs.alone hn ht hu
  have hfits := h.fits t.control (by simp [hunderway])
  rw [hc] at hfits
  have hgoto := hs.underway_goto hn ht hu
  unfold Session.send
  split
  · rename_i r _
    exact ⟨trips, (exchanges_log ..).trans h.exchanges, h.nodup, h.used,
      fits_of_underway (hgoto (.finish u (.error r))) trivial⟩
  · obtain ⟨before, rfl⟩ := hfits
    exact ⟨_, h.extend ⟨u.statement, u.purpose, .sent sql⟩ rfl (exchanges_record s (.sent u.purpose sql)) rfl rfl
      (fits_of_underway (hgoto (.read u sql)) ⟨before, rfl⟩)⟩

theorem finish (h : s.Traced trips) (hs : s.Exclusive) (hn : (s.tasks.map (·.number)).Nodup)
    (ht : s.task? t.number = some t) {u : Use} {outcome : Except Raised Outcome}
    (hc : t.control = .finish u outcome) : (s.finish t u outcome).Traced trips := by
  have hu : t.control.use? = some u := by rw [hc]; rfl
  obtain ⟨hunderway, -⟩ := hs.alone hn ht hu
  have hheld := hs.held_of_mem_uses (u := u) (by simp [Session.uses, hunderway, hu])
  obtain ⟨tasks, statements, -⟩ := finish_of_held hheld t u outcome
  have hnone : (s.finish t u outcome).underway = [] :=
    (underway_congr tasks).trans (hs.underway_goto hn ht hu (.done (.ofOutcome outcome)))
  exact ⟨(exchanges_finish ..).trans h.exchanges, h.nodup, fun r hr => (h.used r hr).setStage (by simp) statements,
    by simp [hnone]⟩

theorem move (h : s.Traced trips) (hs : s.Sound) (ht : s.task? t.number = some t) :
    ∃ trips', (s.move t).Traced trips' := by
  have hn := hs.queued.numbers
  have hcalm (hu : t.control.use? = none)
      (hb : ∀ u values, t.control = .begin u values → s.stage? u.statement ≠ some .prepared) :
      ∃ trips', (s.move t).Traced trips' := ⟨trips, h.calm (calm_move hn ht hu hb)⟩
  cases hc : t.control with
  | begin u values =>
    by_cases hstage : s.stage? u.statement = some .prepared
    · rw [Session.move, hc]
      exact ⟨trips, h.beginUse hs.exclusive hn ht hstage values⟩
    · refine hcalm (by rw [hc]; rfl) fun v values' he => ?_
      obtain ⟨rfl, -⟩ := Control.begin.inj (hc.symm.trans he)
      exact hstage
  | write => rw [Session.move, hc]; exact h.write hs.exclusive hn ht hc
  | send => rw [Session.move, hc]; exact h.send hs.exclusive hn ht hc
  | read => rw [Session.move, hc]; exact h.read hs.exclusive hn ht hc
  | receive u sql =>
    have hunderway := hs.exclusive.underway_goto hn ht (u := u) (by rw [hc]; rfl)
      (.finish u (s.transport.receive u.purpose sql))
    rw [Session.move, hc]
    exact ⟨trips, h.exchanges, h.nodup, h.used, fits_of_underway hunderway trivial⟩
  | finish => rw [Session.move, hc]; exact ⟨trips, h.finish hs.exclusive hn ht hc⟩
  | _ => exact hcalm (by rw [hc]; rfl) fun v values' he => by rw [hc] at he; cases he

theorem next (h : s.Traced trips) (hs : s.Sound) (hnext : s.Next s') : ∃ trips', s'.Traced trips' := by
  cases hnext with
  | same => exact ⟨trips, h⟩
  | @launch number step => exact ⟨trips, h.calm ⟨rfl, underway_launch s number step, fun _ => id⟩⟩
  | move ht => exact h.move hs ht
  | cancel ht => exact ⟨trips, h.calm (calm_cancel hs.queued.numbers ht)⟩
  | outside => exact ⟨trips, h.calm ⟨rfl, rfl, fun _ => id⟩⟩

end Traced

/-- Whatever happens, the calls of the transport are round trips one after the
other, at most one of each statement. -/
theorem follow_roundTrips (mode : Mode) (config : Config) (hs : List Happening) :
    let s := (Session.opened mode config).follow hs
    ∃ trips : List RoundTrip, s.exchanges = trips.flatMap RoundTrip.events ∧
      s.calls = trips.flatMap RoundTrip.calls ∧ (trips.map (·.statement)).Nodup := by
  intro s
  have hkeeps : ∀ s s' : Session, (s.Sound ∧ ∃ trips, s.Traced trips) → s.Next s' →
      s'.Sound ∧ ∃ trips, s'.Traced trips :=
    fun _ _ ⟨hsound, _, ht⟩ hnext => ⟨hsound.next hnext, ht.next hsound hnext⟩
  obtain ⟨-, trips, h⟩ := follow_keeps hkeeps ⟨.opened mode config, [], .opened mode config⟩ hs
  refine ⟨trips, h.exchanges, ?_, h.nodup⟩
  rw [calls_eq, h.exchanges, List.filterMap_flatMap]
  simp only [RoundTrip.calls_eq]

end Session
end Prepared
