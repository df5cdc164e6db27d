import Prepared.Proofs.Session.Move

/-!
# What a session does not look at

No move depends on what has been put down as an event, nor on where another
task stands. A session that is recast in these, with a past put before its
events and with other tasks seen through a function, makes the same moves.
Main statement: a session that differs from another in one answer goes on
differing from it in that answer only, whatever happens.
-/

namespace Prepared

structure Task.Recasts (φ : Task → Task) : Prop where
  number : ∀ u, (φ u).number = u.number
  cancelled : ∀ u, φ { u with cancelled := true } = { φ u with cancelled := true }

def Task.answering (n : Nat) (answer : Answer) (u : Task) : Task :=
  if u.number = n then { u with control := .done answer } else u

theorem Task.recasts_answering (n : Nat) (answer : Answer) : Task.Recasts (Task.answering n answer) := by
  refine ⟨fun u => ?_, fun u => ?_⟩
  · unfold answering
    split <;> rfl
  · by_cases hu : u.number = n <;> simp [answering, hu]

theorem Task.answering_of_ne {n : Nat} {u : Task} (hu : u.number ≠ n) (answer : Answer) :
    u.answering n answer = u := if_neg hu

namespace Session

def recast (φ : Task → Task) (past : List Event) (s : Session) : Session :=
  { s with tasks := s.tasks.map φ, events := past ++ s.events }

variable {s : Session} {t : Task} {φ : Task → Task} {past : List Event}

theorem recast_mode : (s.recast φ past).mode = s.mode := rfl

theorem recast_claim : (s.recast φ past).claim = s.claim := rfl

theorem recast_hook : (s.recast φ past).hook = s.hook := rfl

theorem recast_transport : (s.recast φ past).transport = s.transport := rfl

theorem recast_statements : (s.recast φ past).statements = s.statements := rfl

theorem recast_record (s : Session) (e : Event) : (s.recast φ past).record e = (s.record e).recast φ past := by
  simp only [recast, record, List.append_assoc]

theorem recast_log (s : Session) (entries : List Entry) :
    (s.recast φ past).log entries = (s.log entries).recast φ past := by
  simp only [recast, log, List.append_assoc]

theorem recast_task? (hφ : Task.Recasts φ) (n : Nat) : (s.recast φ past).task? n = (s.task? n).map φ := by
  unfold task? recast
  rw [List.find?_map]
  congr 2
  funext u
  simp only [Function.comp_apply, hφ.number]

theorem recast_put (hφ : Task.Recasts φ) (t' : Task) :
    (s.recast φ past).put (φ t') = (s.put t').recast φ past := by
  unfold recast put
  simp only [List.map_map]
  congr 1
  apply List.map_congr_left
  intro u _
  simp only [Function.comp_apply, hφ.number]
  split <;> rfl

theorem cancel_recast (hφ : Task.Recasts φ) (target : Task) :
    (s.recast φ past).cancel (φ target) = (s.cancel target).recast φ past := by
  have hwaiting : (s.recast φ past).claim.waiting? (φ target).number = s.claim.waiting? target.number := by
    rw [recast_claim, hφ.number]
  by_cases hasleep : s.claim.waiting? target.number = some .asleep
  · rw [cancel, if_pos (hwaiting.trans hasleep), cancel, if_pos hasleep, hφ.number]
    rfl
  · rw [cancel, if_neg (hwaiting ▸ hasleep), cancel, if_neg hasleep, ← hφ.cancelled]
    exact recast_put hφ _

structure Shows (φ : Task → Task) (t : Task) : Prop where
  recasts : Task.Recasts φ
  same : ∀ u : Task, u.number = t.number → φ u = u

theorem Shows.of_number {t' : Task} (h : Shows φ t) (hn : t'.number = t.number) : Shows φ t' :=
  ⟨h.recasts, fun u hu => h.same u (hu.trans hn)⟩

section Moves
variable (hφ : Shows φ t)
include hφ

theorem put_recast (t' : Task) (hn : t'.number = t.number) :
    (s.recast φ past).put t' = (s.put t').recast φ past := by
  rw [← recast_put hφ.recasts, hφ.same t' hn]

theorem goto_recast (control : Control) : (s.recast φ past).goto t control = (s.goto t control).recast φ past :=
  put_recast hφ _ rfl

theorem log_goto_recast (s : Session) (entries : List Entry) (control : Control) :
    ((s.recast φ past).log entries).goto t control = ((s.log entries).goto t control).recast φ past := by
  rw [recast_log, goto_recast hφ]

theorem grant_recast (r : Request) (claim : Claim) :
    (s.recast φ past).grant t r claim = (s.grant t r claim).recast φ past := by
  let made := Statement.make s.config r.sql r.config true
  let added := ({ s with claim } : Session).add made.value
  cases r with
  | keep name sql config =>
    exact (congrArg (fun s : Session => (s.keep name _).goto t _) (recast_log added _)).trans
      (goto_recast (s := (added.log _).keep name _) hφ _)
  | direct purpose sql values => exact log_goto_recast hφ added _ _

theorem request_recast (r : Request) : (s.recast φ past).request t r = (s.request t r).recast φ past := by
  unfold request
  by_cases hopen : s.claim.isOpen = true
  · rw [if_pos hopen, if_pos (show (s.recast φ past).claim.isOpen = true from hopen)]
    exact grant_recast hφ r _
  · rw [if_neg hopen, if_neg (show ¬(s.recast φ past).claim.isOpen = true from hopen), recast_mode]
    cases s.mode with
    | blocking => exact log_goto_recast hφ s _ _
    | waiting =>
      dsimp only
      split
      · let withdrawn : Session := { s with mode := .waiting, claim := (s.claim.enqueue t.number).withdraw t.number }
        exact congrArg (fun s : Session => s.yield.wake (some t.number))
          (put_recast (s := withdrawn) hφ { t with control := .wait r, cancelled := false } rfl)
      · let queued : Session := { s with mode := .waiting, claim := s.claim.enqueue t.number }
        exact congrArg yield (goto_recast (s := queued) hφ (.wait r))

theorem resume_recast (r : Request) : (s.recast φ past).resume t r = (s.resume t r).recast φ past := by
  let resumed := s.claim.resume t.number t.cancelled
  unfold resume
  dsimp only
  by_cases hgranted : resumed.granted = true
  · rw [if_pos hgranted, if_pos (show ((s.recast φ past).claim.resume _ _).granted = true from hgranted)]
    exact grant_recast hφ r _
  · rw [if_neg hgranted, if_neg (show ¬((s.recast φ past).claim.resume _ _).granted = true from hgranted)]
    exact congrArg (fun s : Session => s.wake resumed.wakes)
      (put_recast (s := { s with claim := resumed.claim }) hφ
        { t with control := .done cancelledAnswer, cancelled := false } rfl)

theorem beginUse_recast (u : Use) (values : List Value) :
    (s.recast φ past).beginUse t u values = (s.beginUse t u values).recast φ past := by
  unfold beginUse
  rw [recast_statements]
  cases s.statements[u.statement]? with
  | none => exact goto_recast hφ _
  | some st =>
    dsimp only
    by_cases hprepared : st.stage = .prepared
    · rw [if_pos hprepared, if_pos hprepared]
      cases (st.build u.purpose values).2 with
      | error r => exact log_goto_recast hφ (s.setStage u.statement .executing) _ _
      | ok sql => exact log_goto_recast hφ (s.setStage u.statement .executing) _ _
    · rw [if_neg hprepared, if_neg hprepared]
      exact goto_recast hφ _

theorem push_recast (t' : Task) (hn : t'.number = t.number) (steps : List Step) (next : Control) :
    (s.recast φ past).push t' steps next = (s.push t' steps next).recast φ past := by
  cases steps <;> exact put_recast hφ _ hn

theorem call_recast (u : Use) (c : Call) (next : Control) :
    (s.recast φ past).call t u c next = (s.call t u c next).recast φ past := by
  unfold call
  rw [recast_record]
  dsimp only [recast_hook]
  cases (s.record (.called u.statement c)).hook with
  | none => exact goto_recast hφ next
  | some hook =>
    dsimp only
    split
    · exact push_recast (s := { s.record (.called u.statement c) with hook := none }) hφ _ rfl _ _
    · exact goto_recast hφ next

theorem send_recast (u : Use) (sql : String) : (s.recast φ past).send t u sql = (s.send t u sql).recast φ past := by
  unfold send
  rw [recast_transport]
  cases s.transport.send with
  | error r => exact log_goto_recast hφ s _ _
  | ok _ => exact (congrArg (fun s : Session => s.goto t _) (recast_record s _)).trans (goto_recast hφ _)

theorem receive_recast (u : Use) (sql : String) :
    (s.recast φ past).receive t u sql = (s.receive t u sql).recast φ past := goto_recast hφ _

theorem finish_recast (u : Use) (outcome : Except Raised Outcome) :
    (s.recast φ past).finish t u outcome = (s.finish t u outcome).recast φ past := by
  unfold finish
  have hrecord : ((s.recast φ past).setStage u.statement .idle).record (.released u.statement s.claim.held) =
      ((s.setStage u.statement .idle).record (.released u.statement s.claim.held)).recast φ past :=
    recast_record (s.setStage u.statement .idle) _
  rw [recast_claim, hrecord]
  dsimp only
  rw [recast_claim]
  cases ((s.setStage u.statement .idle).record (.released u.statement s.claim.held)).claim.release with
  | none => exact goto_recast hφ _
  | some p =>
    let idle := (s.setStage u.statement .idle).record (.released u.statement s.claim.held)
    let freed : Session := { idle with claim := p.1 }
    exact (congrArg (fun s : Session => (s.wake p.2).goto t _) (recast_log freed _)).trans
      (goto_recast (s := (freed.log [releasedEntry]).wake p.2) hφ _)

theorem conclude_recast (answer : Answer) :
    (s.recast φ past).conclude t answer = (s.conclude t answer).recast φ past := by
  unfold conclude
  split
  · have hfilter : (s.recast φ past).tasks.filter (·.number != t.number) =
        (s.tasks.filter (·.number != t.number)).map φ := by
      simp only [recast, List.filter_map, Function.comp_def, hφ.recasts.number]
    dsimp only
    rw [hfilter]
    exact congrArg yield (recast_record { s with tasks := s.tasks.filter (·.number != t.number) } _)
  · rename_i rest next frames _
    rw [recast_record]
    exact push_recast hφ { t with frames } rfl rest next

theorem start_recast (step : Step) : (s.recast φ past).start t step = (s.start t step).recast φ past := by
  cases step with
  | prepare name sql settings =>
    simp only [start]
    cases configOf settings <;> exact goto_recast hφ _
  | make name sql settings =>
    simp only [start]
    cases configOf settings with
    | error f => exact goto_recast hφ _
    | ok config =>
      let made := Statement.make s.config sql config false
      exact (congrArg (fun s : Session => (s.keep name _).goto t _) (recast_log (s.add made.value) _)).trans
        (goto_recast (s := ((s.add made.value).log _).keep name _) hφ _)
  | use name purpose values =>
    have hfind : (s.recast φ past).find? name = s.find? name := rfl
    simp only [start, hfind]
    cases s.find? name <;> exact goto_recast hφ _
  | direct purpose sql values => exact goto_recast hφ _
  | close name => exact goto_recast hφ _
  | details name => exact goto_recast hφ _
  | operation name => exact goto_recast hφ _
  | change c => exact goto_recast (s := s.applyChange c) hφ _
  | hook c on steps => exact goto_recast (s := { s.applyChange c with hook := some (on, steps) }) hφ _
  | cancel number =>
    simp only [start, recast_task? hφ.recasts]
    cases s.task? number with
    | none => exact goto_recast hφ _
    | some target =>
      simp only [Option.map_some, cancel_recast hφ.recasts, recast_task? hφ.recasts]
      cases ht : (s.cancel target).task? t.number with
      | none => exact goto_recast hφ _
      | some t' =>
        have hn := number_of_task? ht
        simp only [Option.map_some, Option.getD_some, hφ.same t' hn]
        exact goto_recast (hφ.of_number hn) _

theorem move_recast : (s.recast φ past).move t = (s.move t).recast φ past := by
  unfold move
  split
  · exact start_recast hφ _
  · exact request_recast hφ _
  · exact resume_recast hφ _
  · exact beginUse_recast hφ _ _
  · exact call_recast hφ _ _ _
  · exact send_recast hφ _ _
  · exact call_recast hφ _ _ _
  · exact receive_recast hφ _ _
  · exact finish_recast hφ _ _
  · exact conclude_recast hφ _

end Moves

theorem occur_recast (hφ : Task.Recasts φ) {e : Happening}
    (hmove : ∀ n, e = .move n → ∀ u : Task, u.number = n → φ u = u)
    (hnew : ∀ n step, e = .launch n step → s.task? n = none → ∀ u : Task, u.number = n → φ u = u) :
    (s.recast φ past).occur e = (s.occur e).recast φ past := by
  cases e with
  | launch number step =>
    simp only [occur, recast_task? hφ, Option.isNone_map]
    split
    · rename_i hnone
      rw [Option.isNone_iff_eq_none] at hnone
      have hsame := hnew number step rfl hnone { number, control := .start step } rfl
      simp only [launch, recast, List.map_append, List.map_cons, List.map_nil, hsame]
    · rfl
  | move number =>
    simp only [occur, happen, recast_task? hφ]
    cases ht : s.task? number with
    | none => rfl
    | some t =>
      obtain rfl := number_of_task? ht
      have hcan : (s.recast φ past).canMove t = s.canMove t := rfl
      simp only [Option.map_some, hmove t.number rfl t rfl, hcan]
      split
      · exact move_recast ⟨hφ, hmove t.number rfl⟩
      · rfl
  | cancel number =>
    simp only [occur, happen, recast_task? hφ]
    cases s.task? number with
    | none => rfl
    | some target => exact cancel_recast hφ target
  | transport transport => rfl
  | hook call steps => rfl

/-! ## One answer -/

/-- The same but for one answer of a task, which it has ready or has given. -/
inductive SameBut (n : Nat) (a b : Answer) (s : Session) : Session → Prop
  | ready {t : Task} (ht : s.task? n = some t) (hc : t.control = .done a) :
    SameBut n a b s { s with tasks := s.tasks.map (Task.answering n b) }
  | given {give : Answer → Event} (hg : give = .nested ∨ give = .ended n) (past later : List Event)
    (he : s.events = past ++ give a :: later) : SameBut n a b s { s with events := past ++ give b :: later }

variable {s' : Session} {n : Nat} {a b : Answer}

theorem sameBut_goto (ht : s.task? n = some t) (a b : Answer) :
    SameBut n a b (s.goto t (.done a)) (s.goto t (.done b)) := by
  obtain rfl := number_of_task? ht
  have htasks : (s.goto t (.done a)).tasks.map (Task.answering t.number b) = (s.goto t (.done b)).tasks := by
    simp only [goto, put, List.map_map]
    apply List.map_congr_left
    intro u _
    by_cases hu : u.number = t.number <;> simp [Task.answering, hu]
  have hready := SameBut.ready (b := b) (task?_goto ht (.done a) rfl) rfl
  rw [htasks] at hready
  exact hready

/-- What is put down later does not depend on what was put down before. -/
theorem occur_past (s : Session) (past : List Event) (e : Happening) :
    ({ s with events := past ++ s.events } : Session).occur e =
      { s.occur e with events := past ++ (s.occur e).events } := by
  have hid : ∀ r : Session, r.recast id past = { r with events := past ++ r.events } := by
    intro r
    simp only [recast, List.map_id]
  rw [← hid, ← hid]
  exact occur_recast ⟨fun _ => rfl, fun _ => rfl⟩ (fun _ _ _ _ => rfl) fun _ _ _ _ _ _ => rfl

theorem put_answering (s : Session) (b : Answer) {t' : Task} (hn : t'.number = n) :
    ({ s with tasks := s.tasks.map (Task.answering n b) } : Session).put t' = s.put t' := by
  unfold put
  simp only [List.map_map]
  congr 1
  apply List.map_congr_left
  intro u _
  by_cases hu : u.number = n <;> simp [Task.answering, hu, hn]

theorem occur_done (ht : s.task? n = some t) (hc : t.control = .done a) :
    s.occur (.move n) = s.conclude t a := by
  simp only [occur, happen, ht, canMove, hc, if_true, move]

namespace SameBut

theorem occur_given {give : Answer → Event} (hg : give = .nested ∨ give = .ended n) {past later : List Event}
    (he : s.events = past ++ give a :: later) (e : Happening) :
    SameBut n a b (s.occur e) (({ s with events := past ++ give b :: later } : Session).occur e) := by
  let bare : Session := { s with events := later }
  have hwith (c : Answer) : ({ s with events := past ++ give c :: later } : Session).occur e =
      { bare.occur e with events := past ++ give c :: (bare.occur e).events } := by
    have hpast := occur_past bare (past ++ [give c]) e
    simp only [List.append_assoc, List.singleton_append] at hpast
    exact hpast
  have hs : s = { s with events := past ++ give a :: later } := by rw [← he]
  rw [hs, hwith, hwith]
  exact .given hg past _ rfl

theorem conclude (ht : s.task? n = some t) :
    SameBut n a b (s.conclude t a)
      (({ s with tasks := s.tasks.map (Task.answering n b) } : Session).conclude (t.answering n b) b) := by
  obtain rfl := number_of_task? ht
  have hanswering : t.answering t.number b = { t with control := .done b } := if_pos rfl
  rw [hanswering]
  unfold Session.conclude
  cases hf : t.frames with
  | nil =>
    have hfilter : (s.tasks.map (Task.answering t.number b)).filter (·.number != t.number) =
        s.tasks.filter (·.number != t.number) := by
      simp only [List.filter_map, Function.comp_def, (Task.recasts_answering t.number b).number]
      have hother : ∀ u ∈ s.tasks.filter (·.number != t.number), u.answering t.number b = id u := by
        intro u hu
        have hne := (List.mem_filter.mp hu).2
        exact Task.answering_of_ne (by simpa using hne) b
      rw [List.map_congr_left hother, List.map_id]
    dsimp only
    rw [hfilter]
    exact .given (Or.inr rfl) s.events [] rfl
  | cons frame frames =>
    obtain ⟨rest, next⟩ := frame
    -- Where the task goes on after its answer does not depend on the answer.
    have hput : ∀ t' : Task, t'.number = t.number →
        SameBut t.number a b ((s.record (.nested a)).put t')
          ((({ s with tasks := s.tasks.map (Task.answering t.number b) } : Session).record (.nested b)).put t') := by
      intro t' hn
      have hsame := put_answering (s.record (.nested b)) b hn
      exact hsame ▸ .given (Or.inl rfl) s.events [] rfl
    cases rest with
    | nil => exact hput { t with control := next, frames } rfl
    | cons step rest => exact hput { t with control := .start step, frames := ⟨rest, next⟩ :: frames } rfl

theorem occur (h : SameBut n a b s s') (e : Happening) : SameBut n a b (s.occur e) (s'.occur e) := by
  cases h with
  | given hg past later he => exact occur_given hg he e
  | @ready t ht hc =>
    by_cases hmove : e = .move n
    · subst hmove
      obtain rfl := number_of_task? ht
      have hanswers : (t.answering t.number b).control = .done b := by simp [Task.answering]
      have hfound : ({ s with tasks := s.tasks.map (Task.answering t.number b) } : Session).task? t.number =
          some (t.answering t.number b) := by
        have hrecast : (s.recast (Task.answering t.number b) []).task? t.number = _ :=
          recast_task? (Task.recasts_answering t.number b) t.number
        rw [ht] at hrecast
        exact hrecast
      rw [occur_done ht hc, occur_done hfound hanswers]
      exact conclude ht
    · -- Nobody else can tell the two answers apart, and the task keeps its own until it moves.
      have hother : ∀ m, m ≠ n → ∀ u : Task, u.number = m → u.answering n b = u := by
        rintro m hm u rfl
        exact Task.answering_of_ne hm b
      obtain ⟨t', ht', hc', -⟩ := (comes_occur s e).task? ht hmove
      have hrecast : (s.recast (Task.answering n b) []).occur e = (s.occur e).recast (Task.answering n b) [] := by
        refine occur_recast (Task.recasts_answering n b) (fun m hm => ?_) fun m step hm hnew => ?_
        · exact hother m fun he => hmove (he ▸ hm)
        · refine hother m fun he => ?_
          rw [he, ht] at hnew
          cases hnew
      have hready := SameBut.ready (b := b) ht' (hc'.trans hc)
      exact hrecast ▸ hready

theorem evolve (h : SameBut n a b s s') (hs : List Happening) : SameBut n a b (s.evolve hs) (s'.evolve hs) := by
  induction hs generalizing s s' with
  | nil => exact h
  | cons e hs ih => exact ih (h.occur e)

end SameBut
end Session
end Prepared
