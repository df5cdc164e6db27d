import Prepared.Proofs.Session.Outcome
import Prepared.Proofs.Session.Recast

/-!
# Statements are used once

Whether a statement was made with the claim or without it, its first use is its
only one. Tasks are in the middle of the uses of different statements, each of
which is executing, so a statement that was used before is not prepared, and
who calls it again is refused before anything is touched. Main statement: stages
only go on, the transport is called for one use of each statement, and a later
call is refused and makes no difference but for its own answer.
-/

namespace Prepared

inductive Stage.Goes : Option Stage → Option Stage → Prop
  | stays (stage : Option Stage) : Goes stage stage
  | made : Goes none (some .prepared)
  | begun : Goes (some .prepared) (some .executing)
  | finished : Goes (some .executing) (some .idle)

def Control.Made (calls : List Call) : Control → Prop
  | .write .. => calls = []
  | .send u _ | .read u _ => calls = [u.purpose.write]
  | .receive u _ => calls = [u.purpose.write, u.purpose.read]
  | _ => True

def Control.own (c : Control) : List Control := if c.use?.isSome then [c] else []

theorem Control.own_of_use {c : Control} {u : Use} (hu : c.use? = some u) : c.own = [c] := by
  rw [own, hu]
  rfl

theorem Control.eq_of_mem_own {c c' : Control} (h : c' ∈ c.own) : c' = c := by
  unfold own at h
  split at h
  · exact List.mem_singleton.mp h
  · cases h

theorem Control.filterMap_own (c : Control) : c.own.filterMap Control.use? = c.use?.toList := by
  unfold own
  cases hu : c.use? <;> simp [hu]

theorem Task.underway_eq (t : Task) :
    t.underway = t.control.own ++ (t.frames.map (·.next)).filter (·.use?.isSome) := by
  unfold underway controls Control.own
  rw [List.filter_cons]
  split <;> rfl

namespace Session

variable {s s' : Session} {t t' : Task} {i : Nat} {u : Use}

theorem underway_perm (hn : (s.tasks.map (·.number)).Nodup) (ht : s.task? t.number = some t) :
    ∃ others, s.underway.Perm (t.control.own ++ others) ∧
      ∀ control, (s.goto t control).underway.Perm (control.own ++ others) := by
  obtain ⟨a, b, hs, hput⟩ := underway_split hn ht
  let below := (t.frames.map (·.next)).filter (·.use?.isSome)
  have hperm (own : List Control) : (a ++ (own ++ below) ++ b).Perm (own ++ (a ++ below ++ b)) := by
    simp only [List.append_assoc]
    exact List.perm_append_comm_assoc ..
  refine ⟨a ++ below ++ b, ?_, fun control => ?_⟩
  · rw [hs, t.underway_eq]
    exact hperm _
  · have hgoto : (s.goto t control).underway = a ++ ({ t with control } : Task).underway ++ b := hput _ rfl
    rw [hgoto, Task.underway_eq]
    exact hperm _

theorem nodup_move (hn : (s.tasks.map (·.number)).Nodup) (ht : s.task? t.number = some t) :
    ((s.move t).tasks.map (·.number)).Nodup := by
  rcases move_tasks ht with ⟨t', tasks, -⟩ | ⟨target, t', -, -, -, -, -, -, t'', tasks, -⟩ | ⟨-, tasks⟩
  · rw [tasks, numbers_put]
    exact hn
  · rw [tasks, numbers_put, numbers_cancel]
    exact hn
  · rw [tasks]
    exact hn.sublist (List.filter_sublist.map _)

theorem finish_effect (s : Session) (t : Task) (u : Use) (outcome : Except Raised Outcome) :
    ∃ answer, (s.finish t u outcome).tasks = (s.goto t (.done answer)).tasks ∧
      (s.finish t u outcome).statements = (s.setStage u.statement .idle).statements := by
  unfold finish
  dsimp only
  split
  · exact ⟨notHeld, rfl, rfl⟩
  · exact ⟨.ofOutcome outcome, rfl, rfl⟩

/-! ## What holds throughout -/

structure Once (s : Session) : Prop where
  numbers : (s.tasks.map (·.number)).Nodup
  executing : ∀ u ∈ s.uses, s.stage? u.statement = some .executing
  apart : (s.uses.map (·.statement)).Nodup
  fresh : ∀ i, ¬ s.Used i → s.callsOf i = []
  made : ∀ c ∈ s.underway, ∀ u, c.use? = some u → c.Made (s.callsOf u.statement)
  trip : ∀ i, ∃ p : Purpose, s.callsOf i <+: [p.write, p.read]

theorem used_congr (h : s'.stage? i = s.stage? i) : s'.Used i ↔ s.Used i := by
  unfold Used
  rw [h]

theorem mem_uses {c : Control} (hc : c ∈ s.underway) (hu : c.use? = some u) : u ∈ s.uses :=
  List.mem_filterMap.mpr ⟨c, hc, hu⟩

namespace Once

theorem opened (mode : Mode) (config : Config) : (Session.opened mode config).Once :=
  ⟨List.nodup_nil, fun _ h => absurd h List.not_mem_nil, List.nodup_nil, fun _ _ => rfl,
    fun _ h => absurd h List.not_mem_nil, fun _ => ⟨.exec, List.nil_prefix⟩⟩

theorem calm (h : s.Once) (numbers : (s'.tasks.map (·.number)).Nodup) (hc : s.Calm s')
    (stays : ∀ i stage, s.stage? i = some stage → s'.stage? i = some stage) : s'.Once := by
  have huses : s'.uses = s.uses := congrArg (List.filterMap Control.use?) hc.underway
  have hcalls := callsOf_congr hc.exchanges
  refine ⟨numbers, fun u hu => ?_, huses ▸ h.apart, fun i hi => ?_, fun c hm u hu => ?_, fun i => ?_⟩
  · exact stays _ _ (h.executing u (huses ▸ hu))
  · rw [hcalls]
    exact h.fresh i fun hused => hi (hc.used i hused)
  · rw [hcalls]
    exact h.made c (hc.underway ▸ hm) u hu
  · rw [hcalls]
    exact h.trip i

theorem turn (h : s.Once) (ht : s.task? t.number = some t) (control : Control)
    (underway : (s.move t).underway = (s.goto t control).underway)
    (alone : (∃ v, t.control.use? = some v ∧ v.statement = i) ∨ s.stage? i ≠ some .executing)
    (stage : ∀ j, j ≠ i → (s.move t).stage? j = s.stage? j)
    (calls : ∀ j, j ≠ i → (s.move t).callsOf j = s.callsOf j) (used : (s.move t).Used i)
    (own : ∀ v, control.use? = some v →
      v.statement = i ∧ (s.move t).stage? i = some .executing ∧ control.Made ((s.move t).callsOf i))
    (trip : ∃ p : Purpose, (s.move t).callsOf i <+: [p.write, p.read]) : (s.move t).Once := by
  -- The controls of all others are the same before and after, and in uses of other statements.
  obtain ⟨others, before, hgoto⟩ := underway_perm h.numbers ht
  have after := hgoto control
  rw [← underway] at after
  have hbusy := (before.filterMap Control.use?).map (·.statement)
  have hbusy' := (after.filterMap Control.use?).map (·.statement)
  rw [List.filterMap_append, List.map_append, Control.filterMap_own] at hbusy hbusy'
  have hnodup := (hbusy.nodup_iff).mp h.apart
  have hmem : ∀ c ∈ others, c ∈ s.underway := fun c hc => before.mem_iff.mpr (List.mem_append_right _ hc)
  have hother : ∀ c ∈ others, ∀ v, c.use? = some v → v.statement ≠ i := by
    intro c hc v hv he
    rcases alone with ⟨w, hw, hi⟩ | hstage
    · rw [hw] at hnodup
      refine (List.nodup_append.mp hnodup).2.2 w.statement (by simp) v.statement ?_ (hi.trans he.symm)
      exact List.mem_map_of_mem (List.mem_filterMap.mpr ⟨c, hc, hv⟩)
    · exact hstage (he ▸ h.executing v (mem_uses (hmem c hc) hv))
  have hin : ∀ c ∈ (s.move t).underway, ∀ v, c.use? = some v →
      (c = control ∧ v.statement = i) ∨ (c ∈ others ∧ v.statement ≠ i) := by
    intro c hc v hv
    rcases List.mem_append.mp (after.mem_iff.mp hc) with hc | hc
    · obtain rfl := Control.eq_of_mem_own hc
      exact Or.inl ⟨rfl, (own v hv).1⟩
    · exact Or.inr ⟨hc, hother c hc v hv⟩
  refine ⟨nodup_move h.numbers ht, fun v hv => ?_, ?_, fun j hj => ?_, fun c hc v hv => ?_, fun j => ?_⟩
  · obtain ⟨c, hc, hcv⟩ := List.mem_filterMap.mp hv
    rcases hin c hc v hcv with ⟨rfl, rfl⟩ | ⟨hc, hne⟩
    · exact (own v hcv).2.1
    · rw [stage _ hne]
      exact h.executing v (mem_uses (hmem c hc) hcv)
  · refine (hbusy'.nodup_iff).mpr (List.nodup_append.mpr ⟨?_, (List.nodup_append.mp hnodup).2.1, ?_⟩)
    · cases control.use? <;> simp
    · intro j hj k hk he
      obtain ⟨v, hv, rfl⟩ := List.mem_map.mp hj
      obtain ⟨w, hw, rfl⟩ := List.mem_map.mp hk
      obtain ⟨c, hc, hcw⟩ := List.mem_filterMap.mp hw
      exact hother c hc w hcw (he.symm.trans (own v (Option.mem_toList.mp hv)).1)
  · have hne : j ≠ i := fun he => hj (he ▸ used)
    rw [calls j hne]
    exact h.fresh j fun hused => hj ((used_congr (stage j hne)).mpr hused)
  · rcases hin c hc v hv with ⟨rfl, rfl⟩ | ⟨hc, hne⟩
    · exact (own v hv).2.2
    · rw [calls _ hne]
      exact h.made c (hmem c hc) v hv
  · by_cases hj : j = i
    · exact hj ▸ trip
    · rw [calls j hj]
      exact h.trip j

theorem beginUse (h : s.Once) (ht : s.task? t.number = some t) {values : List Value}
    (hc : t.control = .begin u values) (hp : s.stage? u.statement = some .prepared) : (s.move t).Once := by
  obtain ⟨st, hst, hprepared⟩ := Option.map_eq_some_iff.mp hp
  obtain ⟨control, hcu, hmade, tasks, statements, exchanges⟩ : ∃ control, control.use? = some u ∧
      control.Made [] ∧ (s.move t).tasks = (s.goto t control).tasks ∧
      (s.move t).statements = (s.setStage u.statement .executing).statements ∧
      (s.move t).exchanges = s.exchanges := by
    simp only [Session.move, hc, Session.beginUse, hst, hprepared, if_true]
    split
    · exact ⟨.finish u _, rfl, trivial, rfl, rfl, exchanges_log ..⟩
    · exact ⟨.write u _, rfl, rfl, rfl, rfl, exchanges_log ..⟩
  have hstage (j : Nat) : (s.move t).stage? j =
      if u.statement = j then (s.stage? j).map fun _ => .executing else s.stage? j := by
    rw [← stage?_setStage, stage?, stage?, statements]
  have hexecuting : (s.move t).stage? u.statement = some .executing := by
    rw [hstage, if_pos rfl, hp]
    rfl
  have hnone : (s.move t).callsOf u.statement = [] := by
    rw [callsOf_congr exchanges]
    refine h.fresh _ fun hused => ?_
    obtain ⟨stage, he, hne⟩ := hused
    rw [hp] at he
    exact hne (Option.some.inj he).symm
  refine h.turn (i := u.statement) ht control (underway_congr tasks) (Or.inr (by rw [hp]; simp))
    (fun j hj => ?_) (fun j _ => callsOf_congr exchanges j) ⟨.executing, hexecuting, by simp⟩ (fun v hv => ?_) ?_
  · rw [hstage, if_neg hj.symm]
  · rw [hcu] at hv
    obtain rfl := Option.some.inj hv
    exact ⟨rfl, hexecuting, hnone ▸ hmade⟩
  · exact ⟨.exec, hnone ▸ List.nil_prefix⟩

theorem mem_top (h : s.Once) (ht : s.task? t.number = some t) (hu : t.control.use? = some u) :
    t.control ∈ s.underway := by
  obtain ⟨others, before, -⟩ := underway_perm h.numbers ht
  rw [Control.own_of_use hu] at before
  exact before.mem_iff.mpr (List.mem_cons_self ..)

theorem executing_top (h : s.Once) (ht : s.task? t.number = some t) (hu : t.control.use? = some u) :
    s.stage? u.statement = some .executing :=
  h.executing u (mem_uses (h.mem_top ht hu) hu)

theorem made_top (h : s.Once) (ht : s.task? t.number = some t) (hu : t.control.use? = some u) :
    t.control.Made (s.callsOf u.statement) :=
  h.made t.control (h.mem_top ht hu) u hu

theorem advance (h : s.Once) (ht : s.task? t.number = some t) (hu : t.control.use? = some u) (control : Control)
    (hcu : control.use? = some u) (underway : (s.move t).underway = (s.goto t control).underway)
    (statements : (s.move t).statements = s.statements)
    (calls : ∀ j, j ≠ u.statement → (s.move t).callsOf j = s.callsOf j)
    (made : control.Made ((s.move t).callsOf u.statement))
    (trip : ∃ p : Purpose, (s.move t).callsOf u.statement <+: [p.write, p.read]) : (s.move t).Once := by
  have hstage (j : Nat) : (s.move t).stage? j = s.stage? j := by rw [stage?, stage?, statements]
  have hexecuting : (s.move t).stage? u.statement = some .executing := (hstage _).trans (h.executing_top ht hu)
  refine h.turn (i := u.statement) ht control underway (Or.inl ⟨u, hu, rfl⟩) (fun j _ => hstage j) calls
    ⟨.executing, hexecuting, by simp⟩ (fun v hv => ?_) trip
  rw [hcu] at hv
  obtain rfl := Option.some.inj hv
  exact ⟨rfl, hexecuting, made⟩

theorem write (h : s.Once) (ht : s.task? t.number = some t) {sql : String} (hc : t.control = .write u sql) :
    (s.move t).Once := by
  have hu : t.control.use? = some u := by rw [hc]; rfl
  have hmade := h.made_top ht hu
  rw [hc] at hmade
  have hmove : s.move t = s.call t u u.purpose.write (.send u sql) := by rw [Session.move, hc]
  have exchanges : (s.move t).exchanges = s.exchanges ++ [.called u.statement u.purpose.write] :=
    hmove ▸ exchanges_call ..
  have hcalls : (s.move t).callsOf u.statement = [u.purpose.write] := by
    rw [callsOf_called exchanges, hmade]
    rfl
  exact h.advance ht hu (.send u sql) rfl (hmove ▸ underway_call ..) (hmove ▸ statements_call ..)
    (fun j hj => callsOf_called_of_ne exchanges hj) hcalls ⟨u.purpose, hcalls ▸ ⟨[u.purpose.read], rfl⟩⟩

theorem read (h : s.Once) (ht : s.task? t.number = some t) {sql : String} (hc : t.control = .read u sql) :
    (s.move t).Once := by
  have hu : t.control.use? = some u := by rw [hc]; rfl
  have hmade := h.made_top ht hu
  rw [hc] at hmade
  have hmove : s.move t = s.call t u u.purpose.read (.receive u sql) := by rw [Session.move, hc]
  have exchanges : (s.move t).exchanges = s.exchanges ++ [.called u.statement u.purpose.read] :=
    hmove ▸ exchanges_call ..
  have hcalls : (s.move t).callsOf u.statement = [u.purpose.write, u.purpose.read] := by
    rw [callsOf_called exchanges, hmade]
    rfl
  exact h.advance ht hu (.receive u sql) rfl (hmove ▸ underway_call ..) (hmove ▸ statements_call ..)
    (fun j hj => callsOf_called_of_ne exchanges hj) hcalls ⟨u.purpose, hcalls ▸ List.prefix_rfl⟩

theorem send (h : s.Once) (ht : s.task? t.number = some t) {sql : String} (hc : t.control = .send u sql) :
    (s.move t).Once := by
  have hu : t.control.use? = some u := by rw [hc]; rfl
  have hmade := h.made_top ht hu
  rw [hc] at hmade
  have hmove : s.move t = s.send t u sql := by rw [Session.move, hc]
  obtain ⟨control, hcu, hmade', underway, statements, hcalls⟩ : ∃ control, control.use? = some u ∧
      control.Made (s.callsOf u.statement) ∧ (s.move t).underway = (s.goto t control).underway ∧
      (s.move t).statements = s.statements ∧ ∀ j, (s.move t).callsOf j = s.callsOf j := by
    rw [hmove, Session.send]
    split
    · exact ⟨.finish u _, rfl, trivial, rfl, rfl, callsOf_congr (exchanges_log ..)⟩
    · exact ⟨.read u sql, rfl, hmade, rfl, rfl, callsOf_sent (exchanges_record ..)⟩
  refine h.advance ht hu control hcu underway statements (fun j _ => hcalls j) ?_ ?_
  · rw [hcalls]
    exact hmade'
  · rw [hcalls]
    exact h.trip _

theorem receive (h : s.Once) (ht : s.task? t.number = some t) {sql : String} (hc : t.control = .receive u sql) :
    (s.move t).Once := by
  have hmove : s.move t = s.receive t u sql := by rw [Session.move, hc]
  have hcalls (j : Nat) : (s.move t).callsOf j = s.callsOf j := by
    rw [hmove]
    rfl
  have hgoto : (s.move t).underway = (s.goto t (.finish u (s.transport.receive u.purpose sql))).underway := by
    rw [hmove]
    rfl
  refine h.advance ht (by rw [hc]; rfl) _ rfl hgoto (hmove ▸ rfl) (fun j _ => hcalls j) trivial ?_
  rw [hcalls]
  exact h.trip _

theorem finish (h : s.Once) (ht : s.task? t.number = some t) {outcome : Except Raised Outcome}
    (hc : t.control = .finish u outcome) : (s.move t).Once := by
  have hu : t.control.use? = some u := by rw [hc]; rfl
  have hmove : s.move t = s.finish t u outcome := by rw [Session.move, hc]
  obtain ⟨answer, tasks, statements⟩ := finish_effect s t u outcome
  have hcalls (j : Nat) : (s.move t).callsOf j = s.callsOf j := hmove ▸ callsOf_congr (exchanges_finish ..) j
  have hstage (j : Nat) : (s.move t).stage? j =
      if u.statement = j then (s.stage? j).map fun _ => .idle else s.stage? j := by
    rw [← stage?_setStage, stage?, stage?, hmove, statements]
  refine h.turn (i := u.statement) ht (.done answer) (hmove ▸ underway_congr tasks)
    (Or.inl ⟨u, hu, rfl⟩) (fun j hj => ?_) (fun j _ => hcalls j) ?_ (fun v hv => ?_) ?_
  · rw [hstage, if_neg hj.symm]
  · refine ⟨.idle, ?_, by simp⟩
    rw [hstage, if_pos rfl, h.executing_top ht hu]
    rfl
  · cases hv
  · rw [hcalls]
    exact h.trip _

theorem move (h : s.Once) (ht : s.task? t.number = some t) : (s.move t).Once := by
  have hcalm (hu : t.control.use? = none)
      (hb : ∀ u values, t.control = .begin u values → s.stage? u.statement ≠ some .prepared) : (s.move t).Once := by
    refine h.calm (nodup_move h.numbers ht) (calm_move h.numbers ht hu hb) fun i stage hi => ?_
    rcases statements_move ht with
      he | ⟨sql, config, claimed, he⟩ | ⟨u, values, st, hc, hst, hprepared, -⟩ | ⟨u, outcome, hc, -⟩
    · rw [stage?, he]
      exact hi
    · rw [stage?_of_append he, hi]
      rfl
    · refine absurd ?_ (hb u values hc)
      rw [stage?, hst, Option.map_some, hprepared]
    · rw [hc] at hu
      cases hu
  cases hc : t.control with
  | begin u values =>
    by_cases hp : s.stage? u.statement = some .prepared
    · exact h.beginUse ht hc hp
    · refine hcalm (by rw [hc]; rfl) fun v values' he => ?_
      obtain ⟨rfl, -⟩ := Control.begin.inj (hc.symm.trans he)
      exact hp
  | write => exact h.write ht hc
  | send => exact h.send ht hc
  | read => exact h.read ht hc
  | receive => exact h.receive ht hc
  | finish => exact h.finish ht hc
  | _ => exact hcalm (by rw [hc]; rfl) fun v values' he => by rw [hc] at he; cases he

theorem occur (h : s.Once) (e : Happening) : (s.occur e).Once := by
  have hcomes := comes_occur s e
  generalize s.occur e = s' at hcomes
  cases hcomes with
  | nothing => exact h
  | launch hnew step =>
    exact h.calm (nodup_launch h.numbers hnew step) ⟨rfl, underway_launch .., fun _ => id⟩ fun _ _ => id
  | move ht => exact h.move ht
  | @cancel target hm =>
    refine h.calm ?_ (calm_cancel h.numbers hm) fun i stage hi => ?_
    · rw [numbers_cancel]
      exact h.numbers
    · rw [stage?, statements_cancel]
      exact hi
  | _ => exact h.calm h.numbers ⟨rfl, rfl, fun _ => id⟩ fun _ _ => id

theorem evolve (h : s.Once) (hs : List Happening) : (s.evolve hs).Once := by
  induction hs generalizing s with
  | nil => exact h
  | cons e hs ih => exact ih (h.occur e)

theorem follow (h : s.Once) (hs : List Happening) : (s.follow hs).Once := by
  rw [follow_eq_evolve]
  exact h.evolve _

end Once

/-! ## Stages -/

theorem stage_move (h : s.Once) (ht : s.task? t.number = some t) (i : Nat) :
    (s.move t).stage? i = s.stage? i ∨ s.stage? i = none ∧ (s.move t).stage? i = some .prepared ∨
      (∃ p values, t.control = .begin ⟨i, p⟩ values ∧ s.stage? i = some .prepared ∧
        (s.move t).stage? i = some .executing) ∨
      ∃ p outcome, t.control = .finish ⟨i, p⟩ outcome ∧ s.stage? i = some .executing ∧
        (s.move t).stage? i = some .idle := by
  have hset {j : Nat} {stage : Stage} (he : (s.move t).statements = (s.setStage j stage).statements) :
      (s.move t).stage? i = if j = i then (s.stage? i).map fun _ => stage else s.stage? i := by
    rw [← stage?_setStage, stage?, stage?, he]
  rcases statements_move ht with
    he | ⟨sql, config, claimed, he⟩ | ⟨u, values, st, hc, hst, hprepared, he⟩ | ⟨u, outcome, hc, he⟩
  · left
    rw [stage?, he]
    rfl
  · have happend := stage?_of_append he i
    cases hi : s.stage? i with
    | some stage =>
      left
      rw [happend, hi]
      rfl
    | none =>
      rw [hi] at happend
      by_cases hlast : i = s.statements.length
      · exact Or.inr (Or.inl ⟨rfl, happend.trans (if_pos hlast)⟩)
      · exact Or.inl (happend.trans (if_neg hlast))
  · by_cases hi : u.statement = i
    · subst hi
      have hp : s.stage? u.statement = some .prepared := by rw [stage?, hst, Option.map_some, hprepared]
      refine Or.inr (Or.inr (Or.inl ⟨u.purpose, values, hc, hp, ?_⟩))
      rw [hset he, if_pos rfl, hp]
      rfl
    · exact Or.inl ((hset he).trans (if_neg hi))
  · by_cases hi : u.statement = i
    · subst hi
      have hexecuting := h.executing_top ht (u := u) (by rw [hc]; rfl)
      refine Or.inr (Or.inr (Or.inr ⟨u.purpose, outcome, hc, hexecuting, ?_⟩))
      rw [hset he, if_pos rfl, hexecuting]
      rfl
    · exact Or.inl ((hset he).trans (if_neg hi))

theorem goes_occur (h : s.Once) (e : Happening) (i : Nat) : Stage.Goes (s.stage? i) ((s.occur e).stage? i) := by
  rcases statements_occur s e with he | ⟨t, -, ht, he⟩
  · rw [stage?, stage?, he]
    exact .stays _
  · rw [he]
    rcases stage_move h ht i with hi | ⟨hi, hi'⟩ | ⟨_, _, -, hi, hi'⟩ | ⟨_, _, -, hi, hi'⟩
    · exact hi ▸ .stays _
    · exact hi ▸ hi' ▸ .made
    · exact hi ▸ hi' ▸ .begun
    · exact hi ▸ hi' ▸ .finished

theorem begun_occur (h : s.Once) {e : Happening} (hi : s.stage? i = some .prepared)
    (hne : (s.occur e).stage? i ≠ some .prepared) :
    ∃ t p values, e = .move t.number ∧ s.task? t.number = some t ∧ t.control = .begin ⟨i, p⟩ values := by
  rcases statements_occur s e with he | ⟨t, rfl, ht, he⟩
  · refine absurd ?_ hne
    rw [stage?, he]
    exact hi
  · rw [he] at hne
    rcases stage_move h ht i with hsame | ⟨hnone, -⟩ | ⟨p, values, hc, -, -⟩ | ⟨_, _, -, hexecuting, -⟩
    · exact absurd (hsame.trans hi) hne
    · rw [hnone] at hi
      cases hi
    · exact ⟨t, p, values, rfl, ht, hc⟩
    · rw [hexecuting] at hi
      cases hi

theorem used_occur (h : s.Once) (hi : s.Used i) (e : Happening) : (s.occur e).Used i := by
  obtain ⟨stage, hstage, hne⟩ := hi
  have hgoes := goes_occur h e i
  rw [hstage] at hgoes
  generalize hafter : (s.occur e).stage? i = after at hgoes
  cases hgoes with
  | stays => exact ⟨stage, hafter, hne⟩
  | begun => exact ⟨.executing, hafter, by simp⟩
  | finished => exact ⟨.idle, hafter, by simp⟩

theorem used_evolve (h : s.Once) (hi : s.Used i) (hs : List Happening) : (s.evolve hs).Used i := by
  induction hs generalizing s with
  | nil => exact hi
  | cons e hs ih => exact ih (h.occur e) (used_occur h hi e)

/-! ## Calls -/

theorem occur_begin (ht : s.task? t.number = some t) {values : List Value} (hc : t.control = .begin u values) :
    s.occur (.move t.number) = s.beginUse t u values := by
  simp only [occur, happen, ht, canMove, hc, if_true, move]

theorem used_call (ht : s.task? t.number = some t) {values : List Value} (hc : t.control = .begin u values)
    (hst : (s.stage? u.statement).isSome = true) : (s.occur (.move t.number)).Used u.statement := by
  obtain ⟨stage, hstage⟩ := Option.isSome_iff_exists.mp hst
  obtain ⟨st, hst, rfl⟩ := Option.map_eq_some_iff.mp hstage
  rw [occur_begin ht hc]
  unfold beginUse
  rw [hst]
  dsimp only
  split
  · have hexecuting : (s.setStage u.statement .executing).stage? u.statement = some .executing := by
      rw [stage?_setStage, if_pos rfl, hstage]
      rfl
    split <;> exact ⟨.executing, hexecuting, by simp⟩
  · rename_i hne
    exact ⟨st.stage, hstage, hne⟩

theorem refused (ht : s.task? t.number = some t) {values : List Value} (hc : t.control = .begin u values)
    (hused : s.Used u.statement) :
    ∃ stage, s.stage? u.statement = some stage ∧ stage ≠ .prepared ∧
      s.occur (.move t.number) = s.goto t (.done (.raised (Statement.spent stage))) := by
  obtain ⟨stage, hstage, hne⟩ := hused
  obtain ⟨st, hst, rfl⟩ := Option.map_eq_some_iff.mp hstage
  refine ⟨st.stage, hstage, hne, ?_⟩
  rw [occur_begin ht hc, beginUse, hst]
  exact if_neg hne

theorem SameBut.agrees {n : Nat} {a b : Answer} (h : SameBut n a b s s') :
    s'.claim = s.claim ∧ s'.statements = s.statements ∧ s'.exchanges = s.exchanges ∧ s'.releases = s.releases ∧
      ∀ m, m ≠ n → s'.task? m = s.task? m := by
  cases h with
  | ready ht hc =>
    refine ⟨rfl, rfl, rfl, rfl, fun m hm => ?_⟩
    have hrecast : (s.recast (Task.answering n b) []).task? m = _ :=
      recast_task? (Task.recasts_answering n b) m
    refine hrecast.trans ?_
    cases hu : s.task? m with
    | none => rfl
    | some u =>
      have hnumber := number_of_task? hu
      exact congrArg some (Task.answering_of_ne (hnumber ▸ hm) b)
  | @given give hg past later he =>
    refine ⟨rfl, rfl, ?_, ?_, fun _ _ => rfl⟩
    · rw [exchanges, exchanges, he, List.filter_append, List.filter_append]
      rcases hg with rfl | rfl <;> rfl
    · rw [releases, releases, he, List.filterMap_append, List.filterMap_append]
      rcases hg with rfl | rfl <;> rfl

/-- Of every statement, made with the claim or without it, the first use is the
only one. Whatever happens, its stage stays or goes on, from prepared to
executing to idle, and only a call takes it from prepared. The transport is
called for one use of it at most. Once it has been called, a later call is
answered with an error of its state, and nothing else happens; had anything else
been answered instead, then claim, statements, what the transport got, and the
other tasks would be the same at any later time, and all events but the one in
which the answer is given. -/
theorem evolve_once (mode : Mode) (config : Config) (hs : List Happening) :
    let s := (Session.opened mode config).evolve hs
    (∀ e i, Stage.Goes (s.stage? i) ((s.occur e).stage? i)) ∧
      (∀ e i, s.stage? i = some .prepared → (s.occur e).stage? i ≠ some .prepared →
        ∃ t p values, e = .move t.number ∧ s.task? t.number = some t ∧ t.control = .begin ⟨i, p⟩ values) ∧
      (∀ i, ∃ p : Purpose, s.callsOf i <+: [p.write, p.read]) ∧
      ∀ t u values, s.task? t.number = some t → t.control = .begin u values →
        (s.stage? u.statement).isSome = true → ∀ hs',
          let s' := (s.occur (.move t.number)).evolve hs'
          ∀ t' p values', s'.task? t'.number = some t' → t'.control = .begin ⟨u.statement, p⟩ values' →
            ∃ stage f, s'.stage? u.statement = some stage ∧ stage ≠ .prepared ∧
              (Statement.spent stage).failure = .own f ∧ f.family = .statementState ∧
              s'.occur (.move t'.number) = s'.goto t' (.done (.raised (Statement.spent stage))) ∧
              ∀ answer hs'',
                let refused := (s'.occur (.move t'.number)).evolve hs''
                let without := (s'.goto t' (.done answer)).evolve hs''
                without.claim = refused.claim ∧ without.statements = refused.statements ∧
                  without.exchanges = refused.exchanges ∧ without.releases = refused.releases ∧
                  (∀ m, m ≠ t'.number → without.task? m = refused.task? m) ∧
                  SameBut t'.number (.raised (Statement.spent stage)) answer refused without := by
  intro s
  have h : s.Once := (Once.opened mode config).evolve hs
  refine ⟨goes_occur h, fun _ _ => begun_occur h, h.trip, fun t u values ht hc hst hs' => ?_⟩
  intro s' t' p values' ht' hc'
  have h' : s'.Once := (h.occur _).evolve hs'
  have hused : s'.Used u.statement := used_evolve (h.occur _) (used_call ht hc hst) hs'
  obtain ⟨stage, hstage, hne, hrefused⟩ := refused ht' hc' hused
  refine ⟨stage, _, hstage, hne, rfl, rfl, hrefused, fun answer hs'' => ?_⟩
  intro refused without
  have hsame : SameBut t'.number (.raised (Statement.spent stage)) answer refused without := by
    have hgoto := (sameBut_goto ht' (.raised (Statement.spent stage)) answer).evolve hs''
    rwa [← hrefused] at hgoto
  obtain ⟨hclaim, hstatements, hexchanges, hreleases, htasks⟩ := hsame.agrees
  exact ⟨hclaim, hstatements, hexchanges, hreleases, htasks, hsame⟩

/-- A statement that was made without the claim is used again in the middle of its first write. -/
theorem evolve_once_reentrant :
    let s := (Session.opened .waiting {}).evolve
      [.launch 0 (.make "a" "SELECT 1" none), .move 0, .move 0, .hook .writeExec [.use "a" .query []],
        .launch 1 (.use "a" .exec []), .move 1]
    let s' := (s.occur (.move 1)).evolve [.move 1, .move 1]
    let t' : Task :=
      { number := 1, control := .begin ⟨0, .query⟩ [], frames := [⟨[], .send ⟨0, .exec⟩ "SELECT 1"⟩] }
    s.stage? 0 = some .prepared ∧ s'.task? 1 = some t' ∧ s'.stage? 0 = some .executing ∧
      s'.occur (.move 1) = s'.goto t' (.done (.raised (Statement.spent .executing))) ∧
      ∀ answer hs, SameBut 1 (.raised (Statement.spent .executing)) answer ((s'.occur (.move 1)).evolve hs)
        ((s'.goto t' (.done answer)).evolve hs) := by
  intro s s' t'
  have hprepared : s.stage? 0 = some .prepared := rfl
  have ht' : s'.task? 1 = some t' := rfl
  have hexecuting : s'.stage? 0 = some .executing := rfl
  obtain ⟨-, -, -, hcalls⟩ := evolve_once .waiting {}
    [.launch 0 (.make "a" "SELECT 1" none), .move 0, .move 0, .hook .writeExec [.use "a" .query []],
      .launch 1 (.use "a" .exec []), .move 1]
  obtain ⟨stage, f, hstage, -, -, -, hrefused, hsame⟩ :=
    hcalls { number := 1, control := .begin ⟨0, .exec⟩ [] } ⟨0, .exec⟩ [] rfl rfl rfl [.move 1, .move 1] t'
      .query [] ht' rfl
  obtain rfl : stage = .executing := Option.some.inj (hstage.symm.trans hexecuting)
  exact ⟨hprepared, ht', hexecuting, hrefused, fun answer hs => (hsame answer hs).2.2.2.2.2⟩

end Session
end Prepared
