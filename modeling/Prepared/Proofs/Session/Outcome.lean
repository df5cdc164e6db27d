import Prepared.Proofs.Session.Release
import Prepared.Proofs.Session.RoundTrip

/-!
# The outcome of a use

What comes of using a statement, phase by phase. The query is what rewriting
the template gives, also where its placeholders were counted long before. If
there is none, the transport is not called. Otherwise the query is written, and
once that has gone well, what comes of it is read. Main statement: when a use
ends, the calls of the transport and how they went account for its outcome.
-/

namespace Prepared

open Number Text

/-! ## What leaves a call -/

/-- What a caller gets to see of a failed call. An error of the library and an
interrupt pass, anything else becomes the cause of an error of the family. -/
inductive Leaves (family : Family) : Failure → Raised → Prop
  | own (fault : Fault) : Leaves family (.own fault) { failure := .own fault }
  | interrupt (kind : Interrupt) (text : String) :
    Leaves family (.interrupt kind text) { failure := .interrupt kind text }
  | foreign (kind : ForeignKind) (text : String) {fault : Fault} (converted : fault.family = family) :
    Leaves family (.foreign kind text) { failure := .own fault, cause := some (.foreign kind text) }

theorem leaves_wrap (family : Family) (lead : String) (f : Failure) :
    Leaves family f (Raised.wrap family lead { failure := f }) := by
  cases f with
  | own fault => exact .own fault
  | interrupt kind text => exact .interrupt kind text
  | foreign kind text => exact .foreign kind text rfl

/-- What a transport has to read: the outcome of a use, or a failure. An effect
is read as two values, rows as they are. -/
inductive Transport.Yields (transport : Transport) (sql : String) : Purpose → Except Failure Outcome → Prop
  | failed {p : Purpose} {f : Failure} (fails : transport.receiveError = some f) : Yields transport sql p (.error f)
  | effect {a b : Value} (answers : transport.receiveError = none) (pair : transport.result.items? = some [a, b]) :
    Yields transport sql .exec (.ok (.effect { lastInsertedId := a, rowsAffected := b, sql }))
  | unpaired {f : Failure} (answers : transport.receiveError = none)
      (items : ∀ a b, transport.result.items? ≠ some [a, b]) (fails : transport.result.pair = .error f) :
    Yields transport sql .exec (.error f)
  | rows (answers : transport.receiveError = none) : Yields transport sql .query (.ok (.rows transport.rows))

theorem Value.pair_cases (v : Value) :
    (∃ a b, v.items? = some [a, b] ∧ v.pair = .ok (a, b)) ∨
      ∃ f, (∀ a b, v.items? ≠ some [a, b]) ∧ v.pair = .error f := by
  unfold Value.pair
  split
  · rename_i a b hitems
    exact Or.inl ⟨a, b, hitems, rfl⟩
  · rename_i items hpair hitems
    have hne : ∀ a b, v.items? ≠ some [a, b] := fun a b he => hpair a b (Option.some.inj (hitems.symm.trans he))
    split
    · exact Or.inr ⟨_, hne, rfl⟩
    · exact Or.inr ⟨_, hne, rfl⟩
  · rename_i hitems
    exact Or.inr ⟨_, fun a b he => (nomatch hitems.symm.trans he), rfl⟩

namespace Transport

theorem send_cases (transport : Transport) :
    transport.sendError = none ∧ transport.send = .ok () ∨
      ∃ f r, transport.sendError = some f ∧ Leaves .send f r ∧ transport.send = .error r := by
  unfold send
  cases transport.sendError with
  | none => exact Or.inl ⟨rfl, rfl⟩
  | some f => exact Or.inr ⟨f, _, rfl, leaves_wrap .send sendLead f, rfl⟩

theorem receive_cases (transport : Transport) (p : Purpose) (sql : String) :
    (∃ outcome, transport.Yields sql p (.ok outcome) ∧ transport.receive p sql = .ok outcome) ∨
      ∃ f r, transport.Yields sql p (.error f) ∧ Leaves .receive f r ∧ transport.receive p sql = .error r := by
  unfold receive
  cases hfails : transport.receiveError with
  | some f =>
    refine Or.inr ⟨f, _, .failed hfails, leaves_wrap .receive "" f, ?_⟩
    cases p <;> rfl
  | none =>
    cases p with
    | query => exact Or.inl ⟨_, .rows hfails, rfl⟩
    | exec =>
      rcases transport.result.pair_cases with ⟨a, b, hitems, hpair⟩ | ⟨f, hitems, hpair⟩
      · refine Or.inl ⟨_, .effect hfails hitems, ?_⟩
        simp only [failing, bind, Except.bind, hpair]
        rfl
      · refine Or.inr ⟨f, _, .unpaired hfails hitems hpair, leaves_wrap .receive "" f, ?_⟩
        simp only [failing, bind, Except.bind, hpair]
        rfl

end Transport

/-! ## The query -/

/-- What the template of a statement and the values come to, with nothing known of the template. -/
def Statement.rewritten (st : Statement) (values : List Value) : Except Raised String :=
  match (rewrite st.config st.sql values none).value with
  | .error e => .error (e.raised st.sql)
  | .ok r => .ok (String.ofList r.sql)

theorem rewrite_known (config : Config) (sql : String) (values : List Value) :
    (rewrite config sql values (some (Template.profile sql.toList))).value =
      (rewrite config sql values none).value := by
  have hstyle (n : Nat) : (chooseStyle config sql n (some (Template.profile sql.toList))).value =
      (chooseStyle config sql n none).value := by
    unfold chooseStyle
    split <;> rfl
  simp only [rewrite, Noted.value_after, hstyle]

theorem Statement.build_eq {st : Statement} (h : st.profile = Template.profile st.sql.toList) (p : Purpose)
    (values : List Value) : (st.build p values).2 = st.rewritten values := by
  unfold Statement.build Statement.rewritten
  rw [h, ← rewrite_known]
  cases hvalue : (rewrite st.config st.sql values (some (Template.profile st.sql.toList))).value <;>
    simp only [hvalue]

/-! ## Phases -/

theorem Control.phase_of_use {c : Control} {u : Use} (h : c.use? = some u) :
    (∃ sql, c = .write u sql) ∨ (∃ sql, c = .send u sql) ∨ (∃ sql, c = .read u sql) ∨
      (∃ sql, c = .receive u sql) ∨ ∃ outcome, c = .finish u outcome := by
  cases c with
  | write v sql => cases h; exact Or.inl ⟨sql, rfl⟩
  | send v sql => cases h; exact Or.inr (Or.inl ⟨sql, rfl⟩)
  | read v sql => cases h; exact Or.inr (Or.inr (Or.inl ⟨sql, rfl⟩))
  | receive v sql => cases h; exact Or.inr (Or.inr (Or.inr (Or.inl ⟨sql, rfl⟩)))
  | finish v outcome => cases h; exact Or.inr (Or.inr (Or.inr (Or.inr ⟨outcome, rfl⟩)))
  | _ => cases h

namespace Session

variable {s s' : Session} {t : Task}

def Counted (s : Session) : Prop := ∀ st ∈ s.statements, st.profile = Template.profile st.sql.toList

theorem Counted.setStage (h : s.Counted) {i : Nat} {stage : Stage}
    (statements : s'.statements = (s.setStage i stage).statements) : s'.Counted := by
  intro st hst
  rw [statements] at hst
  obtain ⟨j, hj⟩ := List.mem_iff_getElem?.mp hst
  simp only [Session.setStage, List.getElem?_modify] at hj
  obtain ⟨st', hst', rfl⟩ := Option.map_eq_some_iff.mp hj
  have hcounted := h st' (List.mem_of_getElem? hst')
  split <;> exact hcounted

theorem Counted.move (h : s.Counted) (ht : s.task? t.number = some t) : (s.move t).Counted := by
  rcases statements_move ht with
    he | ⟨sql, config, claimed, he⟩ | ⟨u, values, st, -, -, -, he⟩ | ⟨u, outcome, -, he⟩
  · exact fun st hst => h st (he ▸ hst)
  · intro st hst
    rw [he] at hst
    rcases List.mem_append.mp hst with hst | hst
    · exact h st hst
    · obtain rfl := List.mem_singleton.mp hst
      rfl
  · exact h.setStage he
  · exact h.setStage he

theorem Counted.next (h : s.Counted) (hnext : s.Next s') : s'.Counted := by
  cases hnext with
  | same => exact h
  | launch => exact h
  | move ht => exact h.move ht
  | @cancel target =>
    exact fun st hst => h st (statements_cancel s target ▸ hst)
  | outside => exact h

/-! ## Calls of a statement -/

def callsOf (s : Session) (i : Nat) : List Call := (s.calls.filter (·.1 == i)).map (·.2)

theorem callsOf_congr (h : s'.exchanges = s.exchanges) (i : Nat) : s'.callsOf i = s.callsOf i := by
  rw [callsOf, callsOf, calls_eq, calls_eq, h]

theorem callsOf_sent {p : Purpose} {sql : String} (h : s'.exchanges = s.exchanges ++ [.sent p sql]) (i : Nat) :
    s'.callsOf i = s.callsOf i := by
  rw [callsOf, callsOf, calls_eq, calls_eq, h, List.filterMap_append]
  simp [Event.call?]

theorem callsOf_called {i : Nat} {c : Call} (h : s'.exchanges = s.exchanges ++ [.called i c]) :
    s'.callsOf i = s.callsOf i ++ [c] := by
  rw [callsOf, callsOf, calls_eq, calls_eq, h, List.filterMap_append]
  simp [Event.call?]

theorem callsOf_called_of_ne {i j : Nat} {c : Call} (h : s'.exchanges = s.exchanges ++ [.called i c])
    (hj : j ≠ i) : s'.callsOf j = s.callsOf j := by
  rw [callsOf, callsOf, calls_eq, calls_eq, h, List.filterMap_append]
  simp [Event.call?, hj.symm]

theorem Traced.callsOf_eq_nil {trips : List RoundTrip} (h : s.Traced trips) {i : Nat}
    (hstage : s.stage? i = some .prepared) : s.callsOf i = [] := by
  have hfresh : ∀ r ∈ trips, r.statement ≠ i := by
    rintro r hr rfl
    obtain ⟨stage, hused, hne⟩ := h.used r hr
    rw [hstage] at hused
    exact hne (Option.some.inj hused).symm
  rw [callsOf, calls_eq, h.exchanges, List.filterMap_flatMap]
  simp only [RoundTrip.calls_eq, List.map_eq_nil_iff, List.filter_eq_nil_iff]
  intro p hp
  obtain ⟨r, hr, hcall⟩ := List.mem_flatMap.mp hp
  have hp : p.1 = r.statement := by
    unfold RoundTrip.calls at hcall
    split at hcall <;> simp only [List.mem_cons, List.not_mem_nil, or_false] at hcall
    · rw [hcall]
    · rw [hcall]
    · rcases hcall with rfl | rfl <;> rfl
  simpa [hp] using hfresh r hr

/-! ## What happens in a use -/

/-- In the course of what happens the task makes the move that the control
stands for, while the transport is as given. -/
def Makes (begun : Session) (n : Nat) (control : Control) (transport : Transport) (hs : List Happening) : Prop :=
  ∃ hs₁ hs₂, hs = hs₁ ++ .move n :: hs₂ ∧
    (∃ t, (begun.follow hs₁).task? n = some t ∧ t.control = control) ∧ (begun.follow hs₁).transport = transport

/-- The task has made the move that writes the query, it has gone well, and the
transport has got that query. -/
def Writes (begun : Session) (n : Nat) (u : Use) (sql : String) (hs : List Happening) : Prop :=
  ∃ hs₁ hs₂, hs = hs₁ ++ .move n :: hs₂ ∧
    (∃ t, (begun.follow hs₁).task? n = some t ∧ t.control = .send u sql) ∧
    (begun.follow hs₁).transport.sendError = none ∧
    (begun.follow (hs₁ ++ [.move n])).exchanges = (begun.follow hs₁).exchanges ++ [.sent u.purpose sql]

/-- The calls of the transport and the answer that a use comes to, from the
query that its statement and values have: there is none, it cannot be written,
nothing can be read, or an effect or rows are. -/
inductive Accounts (begun : Session) (n : Nat) (u : Use) (query : Except Raised String) (hs : List Happening) :
    List Call → Answer → Prop
  | refused {r : Raised} (fails : query = .error r) : Accounts begun n u query hs [] (.raised r)
  | unwritten {sql : String} {transport : Transport} {f : Failure} {r : Raised} (asks : query = .ok sql)
      (writes : Makes begun n (.send u sql) transport hs) (fails : transport.sendError = some f)
      (leaves : Leaves .send f r) : Accounts begun n u query hs [u.purpose.write] (.raised r)
  | unread {sql : String} {transport : Transport} {f : Failure} {r : Raised} (asks : query = .ok sql)
      (writes : Writes begun n u sql hs) (reads : Makes begun n (.receive u sql) transport hs)
      (fails : transport.Yields sql u.purpose (.error f)) (leaves : Leaves .receive f r) :
      Accounts begun n u query hs [u.purpose.write, u.purpose.read] (.raised r)
  | effect {sql : String} {transport : Transport} {e : Effect} (asks : query = .ok sql)
      (writes : Writes begun n u sql hs) (reads : Makes begun n (.receive u sql) transport hs)
      (yields : transport.Yields sql u.purpose (.ok (.effect e))) :
      Accounts begun n u query hs [u.purpose.write, u.purpose.read] (.effect e)
  | rows {sql : String} {transport : Transport} {v : Value} (asks : query = .ok sql)
      (writes : Writes begun n u sql hs) (reads : Makes begun n (.receive u sql) transport hs)
      (yields : transport.Yields sql u.purpose (.ok (.rows v))) :
      Accounts begun n u query hs [u.purpose.write, u.purpose.read] (.rows v)

def Stands (begun : Session) (n : Nat) (u : Use) (query : Except Raised String) (hs : List Happening)
    (calls : List Call) : Control → Prop
  | .write _ sql => query = .ok sql ∧ calls = []
  | .send _ sql => query = .ok sql ∧ calls = [u.purpose.write]
  | .read _ sql => query = .ok sql ∧ calls = [u.purpose.write] ∧ Writes begun n u sql hs
  | .receive _ sql => query = .ok sql ∧ calls = [u.purpose.write, u.purpose.read] ∧ Writes begun n u sql hs
  | .finish _ outcome => Accounts begun n u query hs calls (.ofOutcome outcome)
  | _ => True

structure InUse (begun : Session) (n : Nat) (u : Use) (query : Except Raised String) (hs : List Happening) : Prop where
  task : ∃ t, (begun.follow hs).task? n = some t ∧ u ∈ t.uses
  stands : ∀ c ∈ (begun.follow hs).underway,
    Stands begun n u query hs ((begun.follow hs).callsOf u.statement) c

/-- The use has just ended: its task has an answer, and what has happened accounts for it. -/
def Concluded (begun : Session) (n : Nat) (u : Use) (query : Except Raised String) (hs : List Happening) : Prop :=
  ∃ t answer, (begun.follow hs).task? n = some t ∧ t.control = .done answer ∧
    Accounts begun n u query hs ((begun.follow hs).callsOf u.statement) answer

section
variable {begun : Session} {n : Nat} {u : Use} {query : Except Raised String} {hs : List Happening}

theorem Makes.snoc {control : Control} {transport : Transport} (h : Makes begun n control transport hs)
    (e : Happening) : Makes begun n control transport (hs ++ [e]) := by
  obtain ⟨hs₁, hs₂, rfl, hmoves⟩ := h
  exact ⟨hs₁, hs₂ ++ [e], by simp, hmoves⟩

theorem Writes.snoc {sql : String} (h : Writes begun n u sql hs) (e : Happening) :
    Writes begun n u sql (hs ++ [e]) := by
  obtain ⟨hs₁, hs₂, rfl, hmoves⟩ := h
  exact ⟨hs₁, hs₂ ++ [e], by simp, hmoves⟩

theorem Accounts.snoc {calls : List Call} {answer : Answer} (h : Accounts begun n u query hs calls answer)
    (e : Happening) : Accounts begun n u query (hs ++ [e]) calls answer := by
  cases h with
  | refused fails => exact .refused fails
  | unwritten asks writes fails leaves => exact .unwritten asks (writes.snoc e) fails leaves
  | unread asks writes reads fails leaves => exact .unread asks (writes.snoc e) (reads.snoc e) fails leaves
  | effect asks writes reads yields => exact .effect asks (writes.snoc e) (reads.snoc e) yields
  | rows asks writes reads yields => exact .rows asks (writes.snoc e) (reads.snoc e) yields

theorem Stands.snoc {calls : List Call} {c : Control} (h : Stands begun n u query hs calls c) (e : Happening) :
    Stands begun n u query (hs ++ [e]) calls c := by
  cases c with
  | write => exact h
  | send => exact h
  | read => exact ⟨h.1, h.2.1, h.2.2.snoc e⟩
  | receive => exact ⟨h.1, h.2.1, h.2.2.snoc e⟩
  | finish => exact Accounts.snoc h e
  | _ => trivial

theorem follow_snoc (begun : Session) (hs : List Happening) (e : Happening) :
    begun.follow (hs ++ [e]) = (begun.follow hs).happen e := by
  rw [follow_append]
  rfl

theorem makes_last (begun : Session) (hs : List Happening) {t : Task} (ht : (begun.follow hs).task? n = some t)
    {control : Control} (hc : t.control = control) :
    Makes begun n control (begun.follow hs).transport (hs ++ [.move n]) :=
  ⟨hs, [], rfl, ⟨t, ht, hc⟩, rfl⟩

theorem InUse.calm (h : InUse begun n u query hs) {e : Happening}
    (hcalm : (begun.follow hs).Calm ((begun.follow hs).happen e))
    (htask : ∃ t, ((begun.follow hs).happen e).task? n = some t ∧ u ∈ t.uses) :
    InUse begun n u query (hs ++ [e]) := by
  constructor
  · rw [follow_snoc]
    exact htask
  · rw [follow_snoc, hcalm.underway, callsOf_congr hcalm.exchanges]
    exact fun c hc => (h.stands c hc).snoc e

theorem calm_happen (hs : s.Sound) {t : Task} (ht : s.task? n = some t) (hu : u ∈ t.uses) {e : Happening}
    (he : e.moves n = false) : s.Calm (s.happen e) := by
  have hcomes := comes_happen s e
  generalize s.happen e = s' at hcomes
  cases hcomes with
  | launch => exact ⟨rfl, underway_launch .., fun _ => id⟩
  | @move v hm =>
    have hne : v.number ≠ n := by simpa [Happening.moves] using he
    refine calm_move hs.queued.numbers hm ?_ fun w values _ hprepared => ?_
    · cases hv : v.control.use? with
      | none => rfl
      | some w => exact absurd (eq_number_of_uses hs.exclusive hs.queued.numbers hm hv ht hu).symm hne
    · obtain ⟨st, hst, hstage⟩ := Option.map_eq_some_iff.mp hprepared
      have hmem := mem_uses_of_task ht hu
      rw [hs.exclusive.uses_eq_nil hst hstage] at hmem
      cases hmem
  | cancel hm => exact calm_cancel hs.queued.numbers hm
  | _ => exact ⟨rfl, rfl, fun _ => id⟩

theorem InUse.reach (ht : (begun.follow hs).task? t.number = some t)
    {phase next : Control} (hc : t.control = phase) (hu : phase.use? = some u)
    (hf : ∀ v outcome, phase ≠ .finish v outcome) (underway : ((begun.follow hs).move t).underway = [next])
    (stands : Stands begun t.number u query (hs ++ [.move t.number])
      (((begun.follow hs).move t).callsOf u.statement) next) :
    InUse begun t.number u query (hs ++ [.move t.number]) := by
  subst hc
  have hmem : u ∈ t.uses := by
    rw [t.uses_eq, hu]
    exact List.mem_append_left _ (by simp)
  constructor
  · rw [follow_snoc, happen_move ht (canMove_of_use hu)]
    exact (mem_uses_move ht hmem).resolve_right fun ⟨outcome, hc⟩ => hf u outcome hc
  · rw [follow_snoc, happen_move ht (canMove_of_use hu), underway]
    intro c hm
    obtain rfl := List.mem_singleton.mp hm
    exact stands

section
variable {sql : String} (h : InUse begun t.number u query hs) (hsound : (begun.follow hs).Sound)
  (ht : (begun.follow hs).task? t.number = some t)
include h hsound ht

theorem InUse.stands_top {phase : Control} (hc : t.control = phase) (hu : phase.use? = some u) :
    Stands begun t.number u query hs ((begun.follow hs).callsOf u.statement) phase := by
  subst hc
  obtain ⟨hunderway, -⟩ := hsound.exclusive.alone hsound.queued.numbers ht hu
  exact h.stands t.control (by simp [hunderway])

theorem InUse.write (hc : t.control = .write u sql) : InUse begun t.number u query (hs ++ [.move t.number]) := by
  obtain ⟨hquery, hcalls⟩ := h.stands_top hsound ht hc rfl
  obtain ⟨exchanges, -, underway⟩ := call_effect hsound.exclusive hsound.queued.numbers ht u.purpose.write
    (.send u sql) (by rw [hc]; rfl) rfl
  have hmove : (begun.follow hs).move t = (begun.follow hs).call t u u.purpose.write (.send u sql) := by
    rw [Session.move, hc]
  refine .reach ht hc rfl (fun _ _ h => by cases h) (by rw [hmove]; exact underway) ?_
  rw [hmove, callsOf_called exchanges, hcalls]
  exact ⟨hquery, rfl⟩

theorem InUse.send (hc : t.control = .send u sql) : InUse begun t.number u query (hs ++ [.move t.number]) := by
  obtain ⟨hquery, hcalls⟩ := h.stands_top hsound ht hc rfl
  have hphase : ∀ v outcome, Control.send u sql ≠ .finish v outcome := fun _ _ h => by cases h
  have hgoto := hsound.exclusive.underway_goto hsound.queued.numbers ht (u := u) (by rw [hc]; rfl)
  rcases (begun.follow hs).transport.send_cases with ⟨hsends, hsend⟩ | ⟨f, r, hfails, hleaves, hsend⟩
  · have hmove : (begun.follow hs).move t =
        ((begun.follow hs).record (.sent u.purpose sql)).goto t (.read u sql) := by
      simp only [Session.move, hc, Session.send, hsend]
    have hsame : (((begun.follow hs).record (.sent u.purpose sql)).goto t (.read u sql)).callsOf u.statement =
        (begun.follow hs).callsOf u.statement := callsOf_sent (exchanges_record ..) u.statement
    have hwritten : (begun.follow (hs ++ [.move t.number])).exchanges =
        (begun.follow hs).exchanges ++ [.sent u.purpose sql] := by
      rw [follow_snoc, happen_move ht (canMove_of_use (by rw [hc]; rfl)), hmove]
      exact exchanges_record ..
    refine .reach ht hc rfl hphase (by rw [hmove]; exact hgoto (.read u sql)) ?_
    rw [hmove, hsame, hcalls]
    exact ⟨hquery, rfl, hs, [], rfl, ⟨t, ht, hc⟩, hsends, hwritten⟩
  · have hmove : (begun.follow hs).move t = ((begun.follow hs).log
        (Statement.sendWarnings (begun.follow hs).mode u.purpose r.failure)).goto t (.finish u (.error r)) := by
      simp only [Session.move, hc, Session.send, hsend]
    have hsame : (((begun.follow hs).log (Statement.sendWarnings (begun.follow hs).mode u.purpose r.failure)).goto t
        (.finish u (.error r))).callsOf u.statement = (begun.follow hs).callsOf u.statement :=
      callsOf_congr (exchanges_log ..) u.statement
    refine .reach ht hc rfl hphase (by rw [hmove]; exact hgoto (.finish u (.error r))) ?_
    rw [hmove, hsame, hcalls]
    exact .unwritten hquery (makes_last begun hs ht hc) hfails hleaves

theorem InUse.read (hc : t.control = .read u sql) : InUse begun t.number u query (hs ++ [.move t.number]) := by
  obtain ⟨hquery, hcalls, hwrites⟩ := h.stands_top hsound ht hc rfl
  obtain ⟨exchanges, -, underway⟩ := call_effect hsound.exclusive hsound.queued.numbers ht u.purpose.read
    (.receive u sql) (by rw [hc]; rfl) rfl
  have hmove : (begun.follow hs).move t = (begun.follow hs).call t u u.purpose.read (.receive u sql) := by
    rw [Session.move, hc]
  refine .reach ht hc rfl (fun _ _ h => by cases h) (by rw [hmove]; exact underway) ?_
  rw [hmove, callsOf_called exchanges, hcalls]
  exact ⟨hquery, rfl, hwrites.snoc _⟩

theorem InUse.receive (hc : t.control = .receive u sql) : InUse begun t.number u query (hs ++ [.move t.number]) := by
  obtain ⟨hquery, hcalls, hwrites⟩ := h.stands_top hsound ht hc rfl
  have hlast := makes_last begun hs ht hc
  have hwrites := hwrites.snoc (.move t.number)
  have hgoto := hsound.exclusive.underway_goto hsound.queued.numbers ht (u := u) (by rw [hc]; rfl)
  have hmove : (begun.follow hs).move t =
      (begun.follow hs).goto t (.finish u ((begun.follow hs).transport.receive u.purpose sql)) := by
    rw [Session.move, hc]
    rfl
  refine .reach ht hc rfl (fun _ _ h => by cases h) (by rw [hmove]; exact hgoto (.finish u _)) ?_
  have hsame (control : Control) :
      ((begun.follow hs).goto t control).callsOf u.statement = (begun.follow hs).callsOf u.statement := rfl
  rw [hmove, hsame, hcalls]
  rcases (begun.follow hs).transport.receive_cases u.purpose sql with
    ⟨outcome, hyields, hreceive⟩ | ⟨f, r, hyields, hleaves, hreceive⟩
  · rw [hreceive]
    cases outcome with
    | effect e => exact .effect hquery hwrites hlast hyields
    | rows v => exact .rows hquery hwrites hlast hyields
  · rw [hreceive]
    exact .unread hquery hwrites hlast hyields hleaves

theorem InUse.finish {outcome : Except Raised Outcome} (hc : t.control = .finish u outcome) :
    Concluded begun t.number u query (hs ++ [.move t.number]) := by
  have hstands := h.stands_top hsound ht hc rfl
  have hu : t.control.use? = some u := by rw [hc]; rfl
  obtain ⟨hunderway, -⟩ := hsound.exclusive.alone hsound.queued.numbers ht hu
  have hheld := hsound.exclusive.held_of_mem_uses (u := u) (by simp [uses, hunderway, hu])
  obtain ⟨tasks, -⟩ := finish_of_held hheld t u outcome
  have hmove : (begun.follow hs).happen (.move t.number) = (begun.follow hs).finish t u outcome := by
    rw [happen_move ht (canMove_of_use hu), Session.move, hc]
  refine ⟨{ t with control := .done (.ofOutcome outcome) }, .ofOutcome outcome, ?_, rfl, ?_⟩
  · rw [follow_snoc, hmove]
    exact task?_goto ht _ tasks
  · rw [follow_snoc, hmove, callsOf_congr (exchanges_finish ..)]
    exact Accounts.snoc hstands _

end

/-- Whatever happens, a use goes on or finishes. -/
theorem InUse.goesOn (h : InUse begun n u query hs) (hsound : (begun.follow hs).Sound) (e : Happening) :
    InUse begun n u query (hs ++ [e]) ∨
      ∃ t outcome, e = .move t.number ∧ n = t.number ∧ (begun.follow hs).task? t.number = some t ∧
        t.control = .finish u outcome := by
  obtain ⟨t, ht, hmem⟩ := h.task
  by_cases he : e.moves n = true
  · obtain rfl := eq_move_of_moves he
    obtain rfl := number_of_task? ht
    by_cases hcan : (begun.follow hs).canMove t = true
    · cases hu : t.control.use? with
      | none =>
        -- The use waits below the steps that the transport takes.
        left
        have hbusy : (begun.follow hs).uses ≠ [] := List.ne_nil_of_mem (mem_uses_of_task ht hmem)
        refine h.calm ?_ ?_ <;> rw [happen_move ht hcan]
        · refine calm_move hsound.queued.numbers ht hu fun v values _ hprepared => hbusy ?_
          obtain ⟨st, hst, hstage⟩ := Option.map_eq_some_iff.mp hprepared
          exact hsound.exclusive.uses_eq_nil hst hstage
        · refine (mem_uses_move ht hmem).resolve_right fun ⟨outcome, hc⟩ => ?_
          rw [hc] at hu
          cases hu
      | some v =>
        obtain ⟨-, hframes, -⟩ := hsound.exclusive.alone hsound.queued.numbers ht hu
        have huses : t.uses = [v] := by
          rw [Task.uses, t.underway_of_frames hframes, hu]
          simp [hu]
        obtain rfl := List.mem_singleton.mp (huses ▸ hmem)
        rcases Control.phase_of_use hu with ⟨sql, hc⟩ | ⟨sql, hc⟩ | ⟨sql, hc⟩ | ⟨sql, hc⟩ | ⟨outcome, hc⟩
        · exact Or.inl (h.write hsound ht hc)
        · exact Or.inl (h.send hsound ht hc)
        · exact Or.inl (h.read hsound ht hc)
        · exact Or.inl (h.receive hsound ht hc)
        · exact Or.inr ⟨t, outcome, rfl, rfl, ht, hc⟩
    · have hsame : (begun.follow hs).happen (.move t.number) = begun.follow hs := by
        simp [Session.happen, ht, hcan]
      refine Or.inl (h.calm ?_ ?_) <;> rw [hsame]
      · exact ⟨rfl, rfl, fun _ => id⟩
      · exact ⟨t, ht, hmem⟩
  · -- Whatever else happens, the task keeps its place in the use.
    have he : e.moves n = false := by simpa using he
    obtain ⟨⟨t', ht', hc, hf⟩, -⟩ := steady hsound ht hmem he
    have huses : t'.uses = t.uses := Task.uses_of_use (by rw [hc]) hf
    exact Or.inl (h.calm (calm_happen hsound ht hmem he) ⟨t', ht', huses ▸ hmem⟩)

theorem InUse.happen (h : InUse begun n u query hs) (hsound : (begun.follow hs).Sound) (e : Happening) :
    InUse begun n u query (hs ++ [e]) ∨ Concluded begun n u query (hs ++ [e]) := by
  refine (h.goesOn hsound e).imp_right ?_
  rintro ⟨t, outcome, rfl, rfl, ht, hc⟩
  exact h.finish hsound ht hc

def Concludes (begun : Session) (n : Nat) (u : Use) (query : Except Raised String) (hs : List Happening) : Prop :=
  ∃ hs₁ hs₂, hs = hs₁ ++ hs₂ ∧ Concluded begun n u query hs₁

theorem InUse.follow (hbegun : begun.Sound) (h : InUse begun n u query hs) (hs' : List Happening) :
    InUse begun n u query (hs ++ hs') ∨ Concludes begun n u query (hs ++ hs') := by
  induction hs' generalizing hs with
  | nil =>
    rw [List.append_nil]
    exact Or.inl h
  | cons e hs' ih =>
    rw [List.append_cons]
    rcases h.happen (hbegun.follow hs) e with hin | hconcluded
    · exact ih hin
    · exact Or.inr ⟨hs ++ [e], hs', rfl, hconcluded⟩

end

theorem inUse_begin (hs : s.Sound) {trips : List RoundTrip} (htraced : s.Traced trips) (hcounted : s.Counted)
    (ht : s.task? t.number = some t) {u : Use} {values : List Value} (hc : t.control = .begin u values)
    {st : Statement} (hst : s.statements[u.statement]? = some st) (hprepared : st.stage = .prepared) :
    InUse (s.move t) t.number u (st.rewritten values) [] := by
  have hbuild := Statement.build_eq (hcounted st (List.mem_of_getElem? hst)) u.purpose values
  have hcalls := htraced.callsOf_eq_nil (i := u.statement) (by rw [stage?, hst, Option.map_some, hprepared])
  have hn := hs.queued.numbers
  have hnil := hs.exclusive.uses_eq_nil hst hprepared
  -- The statement has made no call so far, whichever phase comes first.
  have hgoes (control : Control) (s' : Session) (hu : control.use? = some u)
      (tasks : s'.tasks = (s.goto t control).tasks) (exchanges : s'.exchanges = s.exchanges)
      (stands : Stands s' t.number u (st.rewritten values) [] [] control) :
      InUse s' t.number u (st.rewritten values) [] := by
    have hunderway : s'.underway = [control] := (underway_congr tasks).trans
      (underway_put_of_nil hn ht hnil { t with control } rfl rfl hu)
    refine ⟨⟨{ t with control }, task?_goto ht control tasks, ?_⟩, ?_⟩
    · rw [Task.uses_eq, hu]
      exact List.mem_append_left _ (by simp)
    · have hfollow : s'.follow [] = s' := rfl
      rw [hfollow, hunderway, callsOf_congr exchanges, hcalls]
      intro c hm
      obtain rfl := List.mem_singleton.mp hm
      exact stands
  obtain ⟨entries, hbuilt⟩ : ∃ entries, st.build u.purpose values = (entries, st.rewritten values) :=
    ⟨_, Prod.ext rfl hbuild⟩
  cases hquery : st.rewritten values with
  | error r =>
    have hmove : s.move t =
        ((s.setStage u.statement .executing).log entries).goto t (.finish u (.error r)) := by
      simp only [move, hc, beginUse, hst, hprepared, if_true, hbuilt, hquery]
    rw [hmove, ← hquery]
    exact hgoes (.finish u (.error r)) _ rfl rfl (exchanges_log ..) (.refused hquery)
  | ok sql =>
    have hmove : s.move t = ((s.setStage u.statement .executing).log entries).goto t (.write u sql) := by
      simp only [move, hc, beginUse, hst, hprepared, if_true, hbuilt, hquery]
    rw [hmove, ← hquery]
    exact hgoes (.write u sql) _ rfl rfl (exchanges_log ..) ⟨hquery, rfl⟩

end Session
end Prepared
