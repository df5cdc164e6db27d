import Prepared.Proofs.Connection.Queue
import Prepared.Proofs.Session.Claiming

/-!
# Who waits for the claim

The queue of the claim holds exactly the tasks that wait. With blocking callers
nobody queues. A task that is granted the claim after a wait is therefore the
one that was woken, and finds the claim free.
-/

namespace Prepared

namespace Session

structure Queued (s : Session) : Prop where
  numbers : (s.tasks.map (·.number)).Nodup
  queue : s.claim.Sound
  waits : ∀ n, n ∈ s.claim.tasks ↔ ∃ t, s.task? n = some t ∧ t.control.isWaiting = true
  blocking : s.mode = .blocking → s.claim.queue = []

variable {s s' : Session} {t : Task}

namespace Queued

theorem opened (mode : Mode) (config : Config) : (Session.opened mode config).Queued := by
  refine ⟨List.nodup_nil, Claim.sound_empty, fun n => ?_, fun _ => rfl⟩
  simp [Claim.tasks, Session.opened, task?]

theorem not_mem (h : s.Queued) (ht : s.task? t.number = some t) (hc : t.control.isWaiting = false) :
    t.number ∉ s.claim.tasks := by
  intro hm
  obtain ⟨u, hu, hw⟩ := (h.waits _).mp hm
  obtain rfl := Option.some.inj (ht.symm.trans hu)
  rw [hc] at hw; cases hw

theorem step (h : s.Queued) (ht : s.task? t.number = some t) (t' : Task) (hn : t'.number = t.number)
    (tasks : s'.tasks = (s.put t').tasks) (queue : s'.claim.Sound)
    (waits : ∀ n, n ∈ s'.claim.tasks ↔ if n = t.number then t'.control.isWaiting = true else n ∈ s.claim.tasks)
    (blocking : s'.mode = .blocking → s'.claim.queue = []) : s'.Queued := by
  refine ⟨?_, queue, fun n => ?_, blocking⟩
  · rw [tasks, numbers_put]
    exact h.numbers
  · rw [waits, task?_congr tasks, task?_put, hn]
    by_cases he : n = t.number
    · subst he
      simp [ht]
    · rw [if_neg he, if_neg he]
      exact h.waits n

theorem put (h : s.Queued) (ht : s.task? t.number = some t) (hc : t.control.isWaiting = false)
    (t' : Task) (hn : t'.number = t.number) (hc' : t'.control.isWaiting = false)
    (tasks : s'.tasks = (s.put t').tasks) (queue : s'.claim.Sound) (waiters : s'.claim.tasks = s.claim.tasks)
    (blocking : s'.mode = .blocking → s'.claim.queue = []) : s'.Queued := by
  refine h.step ht t' hn tasks queue (fun n => ?_) blocking
  by_cases he : n = t.number
  · subst he
    simp [waiters, h.not_mem ht hc, hc']
  · rw [if_neg he, waiters]

theorem goto (h : s.Queued) (ht : s.task? t.number = some t) (hc : t.control.isWaiting = false)
    (control : Control) (hc' : control.isWaiting = false) (tasks : s'.tasks = (s.goto t control).tasks)
    (claim : s'.claim = s.claim) (mode : s'.mode = s.mode) : s'.Queued :=
  h.put ht hc { t with control } rfl hc' tasks (by rw [claim]; exact h.queue) (by rw [claim])
    (by rw [claim, mode]; exact h.blocking)

theorem passes (h : s.Queued) (ht : s.task? t.number = some t) (hc : t.control.isWaiting = false)
    (hs : s.Passes t s') : s'.Queued := by
  obtain ⟨control, hp, -, tasks, hl⟩ := hs
  exact h.goto ht hc control hp.waiting tasks hl.claim hl.mode

theorem cancel (h : s.Queued) {target : Task} (hm : s.task? target.number = some target) :
    (s.cancel target).Queued := by
  unfold Session.cancel
  split
  · refine ⟨h.numbers, h.queue.withdraw _, fun n => ?_, fun hb => ?_⟩
    · have := h.waits n
      rw [← Claim.tasks_withdraw s.claim target.number] at this
      exact this
    · simp [wake, Claim.withdraw, h.blocking hb]
  · refine h.step hm { target with cancelled := true } rfl rfl h.queue (fun n => ?_) h.blocking
    split
    · rename_i he
      subst he
      exact (h.waits _).trans (by simp [hm])
    · exact Iff.rfl

theorem start (h : s.Queued) (ht : s.task? t.number = some t) {step : Step} (hc : t.control = .start step) :
    (s.start t step).Queued := by
  have hw : (Control.start step).isWaiting = false := rfl
  rcases start_cases ht hc with hs | ⟨target, t', -, hm, ht', -, hc', -, he⟩ | ⟨_, _, _, _, -, he⟩
  · exact h.passes ht (hc ▸ hw) hs
  · rw [he]
    exact (h.cancel hm).goto ht' (hc' ▸ hw) (.done (.cancelled true)) rfl rfl rfl rfl
  · rw [he]
    exact h.goto ht (hc ▸ hw) (.done _) rfl rfl rfl rfl

/-! ## The claim -/

theorem grant (h : s.Queued) (ht : s.task? t.number = some t) (r : Request) {claim : Claim} (hs : claim.Sound)
    (hq : ∀ n, n ∈ claim.tasks ↔ n ∈ s.claim.tasks ∧ n ≠ t.number)
    (hb : s.mode = .blocking → claim.queue = []) : (s.grant t r claim).Queued := by
  have hw : ∀ n, n ∈ claim.tasks ↔ if n = t.number then false = true else n ∈ s.claim.tasks := by
    intro n
    by_cases he : n = t.number <;> simp [hq, he]
  cases r with
  | keep name sql config =>
    exact h.step ht { t with control := .done _ } rfl rfl hs hw hb
  | direct purpose sql values =>
    exact h.step ht { t with control := .begin _ _ } rfl rfl hs hw hb

theorem request (h : s.Queued) (ht : s.task? t.number = some t) {r : Request} (hc : t.control = .claim r) :
    (s.request t r).Queued := by
  have hout : t.number ∉ s.claim.tasks := h.not_mem ht (by rw [hc]; rfl)
  unfold Session.request
  split
  · rename_i hopen
    have hw := (Claim.isOpen_iff.mp hopen).2
    refine h.grant ht r (h.queue.taken fun w hm => by simp [hw w hm]) (fun n => ?_) h.blocking
    constructor
    · intro hn
      exact ⟨hn, fun he => hout (he ▸ hn)⟩
    · exact And.left
  · split
    · exact h.goto ht (by rw [hc]; rfl) (.done .blocked) rfl rfl rfl rfl
    · rename_i hmode
      have hq := h.queue.enqueue hout
      have hwait : ∀ n, n ∈ (s.claim.enqueue t.number).tasks ↔
          if n = t.number then (Control.wait r).isWaiting = true else n ∈ s.claim.tasks := by
        intro n
        rw [Claim.tasks_enqueue, List.mem_append, List.mem_singleton]
        by_cases he : n = t.number <;> simp [he, Control.isWaiting]
      have hb : s.mode ≠ .blocking := by rw [hmode]; simp
      dsimp only
      split
      · refine h.step ht { t with control := .wait r, cancelled := false } rfl rfl
          (hq.withdraw _) (fun n => ?_) (fun hm => absurd hm hb)
        rw [← hwait n]
        exact iff_of_eq (congrArg (n ∈ ·) (Claim.tasks_withdraw (s.claim.enqueue t.number) t.number))
      · exact h.step ht { t with control := .wait r } rfl rfl hq hwait fun hm => absurd hm hb

theorem resume (h : s.Queued) (ht : s.task? t.number = some t) {r : Request} (hc : t.control = .wait r)
    (hm : s.canMove t = true) : (s.resume t r).Queued := by
  have hin : t.number ∈ s.claim.tasks := (h.waits _).mpr ⟨t, ht, by rw [hc]; rfl⟩
  have hasleep : s.claim.waiting? t.number ≠ some .asleep := by
    simpa [canMove, hc] using hm
  have hb : s.mode ≠ .blocking := by
    intro hb
    rw [Claim.queue_eq_nil.mp (h.blocking hb)] at hin
    cases hin
  unfold Session.resume
  by_cases hgone : t.cancelled ∨ s.claim.waiting? t.number = some .withdrawn
  · obtain ⟨hgranted, hq, htasks, -⟩ := h.queue.resume_withdrawn hgone
    dsimp only
    rw [hgranted, if_neg (by simp)]
    refine h.step ht { t with control := .done cancelledAnswer, cancelled := false } rfl rfl hq
      (fun n => ?_) (fun hm => absurd hm hb)
    change n ∈ (s.claim.resume t.number t.cancelled).claim.tasks ↔ if n = t.number then false = true else _
    rw [htasks, List.mem_filter]
    by_cases he : n = t.number <;> simp [he]
  · dsimp only
    rw [Claim.resume_eq_taken hgone, if_pos rfl]
    refine h.grant ht r (h.queue.resume_granted hin hasleep hgone).2 (fun n => ?_) (fun hm => absurd hm hb)
    change n ∈ (s.claim.without t.number).tasks ↔ _
    rw [Claim.tasks_without, List.mem_filter]
    simp

theorem finish (h : s.Queued) (ht : s.task? t.number = some t) {u : Use} {outcome : Except Raised Outcome}
    (hc : t.control = .finish u outcome) : (s.finish t u outcome).Queued := by
  have hw : t.control.isWaiting = false := by rw [hc]; rfl
  unfold Session.finish
  dsimp only [record, setStage]
  cases hheld : s.claim.held with
  | false =>
    rw [Claim.release, if_neg (by simp [hheld])]
    exact h.goto ht hw (.done notHeld) rfl rfl rfl rfl
  | true =>
    rw [Claim.release_eq hheld]
    refine h.put ht hw { t with control := .done (.ofOutcome outcome) } rfl rfl rfl h.queue.released
      (Claim.tasks_wakeFirst _) fun hb => ?_
    have hq : s.claim.queue = [] := h.blocking hb
    exact Claim.queue_eq_nil.mpr ((Claim.tasks_wakeFirst _).trans (Claim.queue_eq_nil.mp hq))

/-! ## Uses -/

theorem beginUse (h : s.Queued) (ht : s.task? t.number = some t) {u : Use} {values : List Value}
    (hc : t.control = .begin u values) : (s.beginUse t u values).Queued := by
  have hw : t.control.isWaiting = false := by rw [hc]; rfl
  unfold Session.beginUse
  split
  · exact h.goto ht hw (.done .noStatement) rfl rfl rfl rfl
  · split
    · dsimp only
      split
      · rename_i r _
        exact h.goto ht hw (.finish u (.error r)) rfl rfl rfl rfl
      · rename_i sql _
        exact h.goto ht hw (.write u sql) rfl rfl rfl rfl
    · rename_i st _ _
      exact h.goto ht hw (.done (.raised (Statement.spent st.stage))) rfl rfl rfl rfl

theorem push (h : s.Queued) (ht : s.task? t.number = some t) (hc : t.control.isWaiting = false)
    (t₁ : Task) (hnumber : t₁.number = t.number) (steps : List Step) {next : Control}
    (hn : next.isWaiting = false) : (s.push t₁ steps next).Queued := by
  cases steps with
  | nil => exact h.put ht hc { t₁ with control := next } hnumber hn rfl h.queue rfl h.blocking
  | cons step rest =>
    exact h.put ht hc { t₁ with control := .start step, frames := ⟨rest, next⟩ :: t₁.frames } hnumber rfl rfl
      h.queue rfl h.blocking

theorem call (h : s.Queued) (ht : s.task? t.number = some t) (hc : t.control.isWaiting = false) (u : Use)
    (c : Call) {next : Control} (hn : next.isWaiting = false) : (s.call t u c next).Queued := by
  have hgoto : ((s.record (.called u.statement c)).goto t next).Queued := h.goto ht hc next hn rfl rfl rfl
  have hnone : ({ s.record (.called u.statement c) with hook := none } : Session).Queued :=
    ⟨h.numbers, h.queue, h.waits, h.blocking⟩
  unfold Session.call
  dsimp only
  split
  · split
    · exact hnone.push ht hc t rfl _ hn
    · exact hgoto
  · exact hgoto

theorem send (h : s.Queued) (ht : s.task? t.number = some t) (hc : t.control.isWaiting = false) (u : Use)
    (sql : String) : (s.send t u sql).Queued := by
  unfold Session.send
  split
  · rename_i r _
    exact h.goto ht hc (.finish u (.error r)) rfl rfl rfl rfl
  · exact h.goto ht hc (.read u sql) rfl rfl rfl rfl

theorem conclude (h : s.Queued) (hs : s.Claiming) (ht : s.task? t.number = some t) {answer : Answer}
    (hc : t.control = .done answer) : (s.conclude t answer).Queued := by
  have hw : t.control.isWaiting = false := by rw [hc]; rfl
  unfold Session.conclude
  split
  · refine ⟨?_, h.queue, fun n => ?_, h.blocking⟩
    · exact h.numbers.sublist (List.filter_sublist.map _)
    · change n ∈ s.claim.tasks ↔ _
      rw [task?_of_filter (k := t.number) rfl]
      by_cases he : n = t.number
      · subst he
        simpa using h.not_mem ht hw
      · rw [if_neg he]
        exact h.waits n
  · rename_i rest next frames hframes
    have hf := (hs.tasks t (mem_of_task? ht).1).frames ⟨rest, next⟩ (by simp [hframes])
    have hrecord : (s.record (.nested answer)).Queued := ⟨h.numbers, h.queue, h.waits, h.blocking⟩
    exact hrecord.push ht hw { t with frames } rfl rest (next.not_waiting_of_use hf.1)

theorem move (h : s.Queued) (hs : s.Claiming) (ht : s.task? t.number = some t) (hm : s.canMove t = true) :
    (s.move t).Queued := by
  unfold Session.move
  split
  · exact h.start ht ‹_›
  · exact h.request ht ‹_›
  · exact h.resume ht ‹_› hm
  · exact h.beginUse ht ‹_›
  · rename_i hc
    exact h.call ht (by rw [hc]; rfl) _ _ rfl
  · rename_i hc
    exact h.send ht (by rw [hc]; rfl) _ _
  · rename_i hc
    exact h.call ht (by rw [hc]; rfl) _ _ rfl
  · rename_i hc
    exact h.goto ht (by rw [hc]; rfl) (.finish _ _) rfl rfl rfl rfl
  · exact h.finish ht ‹_›
  · exact h.conclude hs ht ‹_›

theorem launch (h : s.Queued) {number : Nat} (hnew : s.task? number = none) (step : Step) :
    (s.launch number step).Queued := by
  refine ⟨nodup_launch h.numbers hnew step, h.queue, fun n => (h.waits n).trans ?_, h.blocking⟩
  rw [task?_launch]
  by_cases he : n = number
  · subst he
    simp [hnew, Control.isWaiting]
  · simp [Ne.symm he]

end Queued
end Session
end Prepared
