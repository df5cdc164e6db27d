import Prepared.Proofs.Connection.Line
import Prepared.Proofs.Session.Release

/-!
# The order of grants

What is done about the claim in a run is the history of a line: tasks ask, they
are cancelled, and only the first of those who are left obtains the claim. The
line is that of the queue, without the tasks that have been cancelled. Main
statements: the history of every run is served by a line, and when nobody holds
the claim then a task that waits can go on.
-/

namespace Prepared

def Control.isAside : Control → Bool
  | .start (.cancel _) | .claim _ | .wait _ | .finish .. => false
  | _ => true

/-- What a task does about the claim in its next move, in which it obtains the
claim or not. Who was cancelled before it asks is cancelled as soon as it has to
wait. -/
def Task.deeds (t : Task) (obtains : Bool) : List Deed :=
  match t.control with
  | .start (.cancel m) => [.cancels m]
  | .claim _ =>
    .asks t.number ::
      if obtains then [.obtains t.number] else if t.cancelled then [.cancels t.number] else []
  | _ => if obtains then [.obtains t.number] else []

namespace Task

variable {t : Task} {n : Nat}

theorem deeds_cancel {m : Nat} (hc : t.control = .start (.cancel m)) (obtains : Bool) :
    t.deeds obtains = [.cancels m] := by
  rw [deeds, hc]

theorem deeds_claim {r : Request} (hc : t.control = .claim r) (obtains : Bool) :
    t.deeds obtains = .asks t.number ::
      if obtains then [.obtains t.number] else if t.cancelled then [.cancels t.number] else [] := by
  rw [deeds, hc]

theorem deeds_of_ne (hcancel : ∀ m, t.control ≠ .start (.cancel m)) (hclaim : ∀ r, t.control ≠ .claim r)
    (obtains : Bool) : t.deeds obtains = if obtains then [.obtains t.number] else [] := by
  unfold deeds
  split
  · exact absurd ‹_› (hcancel _)
  · exact absurd ‹_› (hclaim _)
  · rfl

theorem deeds_wait {r : Request} (hc : t.control = .wait r) (obtains : Bool) :
    t.deeds obtains = if obtains then [.obtains t.number] else [] :=
  deeds_of_ne (by simp [hc]) (by simp [hc]) obtains

theorem claim_of_asks {obtains : Bool} (h : .asks n ∈ t.deeds obtains) :
    n = t.number ∧ ∃ r, t.control = .claim r := by
  unfold deeds at h
  split at h
  · cases List.mem_singleton.mp h
  · rename_i r hc
    refine ⟨?_, r, hc⟩
    rcases List.mem_cons.mp h with h | h
    · exact Deed.asks.inj h
    · split_ifs at h <;> simp at h
  · split_ifs at h <;> simp at h

theorem cancel_of_cancels {obtains : Bool} (h : .cancels n ∈ t.deeds obtains) :
    t.control = .start (.cancel n) ∨ n = t.number ∧ ∃ r, t.control = .claim r := by
  unfold deeds at h
  split at h
  · rename_i m hc
    obtain rfl := Deed.cancels.inj (List.mem_singleton.mp h)
    exact Or.inl hc
  · rename_i r hc
    refine Or.inr ⟨?_, r, hc⟩
    rcases List.mem_cons.mp h with h | h
    · cases h
    · split_ifs at h <;> simp at h
      exact h
  · split_ifs at h <;> simp at h

end Task

namespace Session

/-- What is done about the claim when something happens, as it can be seen from
outside: a task is cancelled, asks, or obtains the claim, which is free before
its move and held after it. -/
def deeds (s : Session) : Happening → List Deed
  | .cancel n => [.cancels n]
  | .move n => (s.task? n).elim [] (·.deeds (!s.claim.held && (s.happen (.move n)).claim.held))
  | _ => []

def history (s : Session) : List Happening → List Deed
  | [] => []
  | e :: hs => s.deeds e ++ (s.happen e).history hs

def isCancelled (s : Session) (n : Nat) : Bool := (s.task? n).any (·.cancelled)

def line (s : Session) : List Nat := s.claim.standing s.isCancelled

variable {s s' : Session} {t : Task} {n : Nat}

theorem isCancelled_of_task? (ht : s.task? n = some t) : s.isCancelled n = t.cancelled := by
  rw [isCancelled, ht]
  rfl

theorem isCancelled_congr (h : s'.task? n = s.task? n) : s'.isCancelled n = s.isCancelled n := by
  rw [isCancelled, isCancelled, h]

/-! ## Moves that leave the claim alone -/

theorem others_move (ht : s.task? t.number = some t) (hc : ∀ m, t.control ≠ .start (.cancel m))
    (hn : n ≠ t.number) : (s.move t).task? n = s.task? n := by
  rcases move_tasks ht with hs | ⟨target, t', hcancel, -⟩ | ⟨-, tasks⟩
  · exact task?_of_steps hs hn
  · exact absurd hcancel (hc _)
  · rw [task?_of_filter tasks, if_neg hn]

theorem claim_call (s : Session) (t : Task) (u : Use) (c : Call) (next : Control) :
    (s.call t u c next).claim = s.claim := by
  unfold call
  dsimp only
  split
  · rename_i steps _
    split
    · cases steps <;> rfl
    · rfl
  · rfl

theorem claim_move (ht : s.task? t.number = some t) (h : t.control.isAside = true) :
    (s.move t).claim = s.claim := by
  unfold move
  split
  · rename_i step hc
    rcases start_cases ht hc with ⟨_, -, -, -, hl⟩ | ⟨target, t', rfl, -⟩ | ⟨_, _, _, _, -, he⟩
    · exact hl.claim
    · rw [hc] at h
      cases h
    · rw [he]
      rfl
  · rename_i hc
    rw [hc] at h
    cases h
  · rename_i hc
    rw [hc] at h
    cases h
  · unfold beginUse
    split
    · rfl
    · split
      · dsimp only
        split <;> rfl
      · rfl
  · exact claim_call ..
  · unfold send
    split <;> rfl
  · exact claim_call ..
  · rfl
  · rename_i hc
    rw [hc] at h
    cases h
  · unfold conclude
    split
    · rfl
    · rename_i rest _ _ _
      cases rest <;> rfl

/-! ## The line -/

theorem line_eq (h : ∀ m ∈ s'.claim.tasks, s'.task? m = s.task? m) :
    s'.line = s'.claim.standing s.isCancelled :=
  Claim.standing_congr rfl fun m hm => isCancelled_congr (h m hm)

theorem not_mem_line (hq : s.Queued) (hw : ∀ t, s.task? n = some t → t.control.isWaiting = false) : n ∉ s.line := by
  intro hn
  obtain ⟨t, ht, hwaits⟩ := (hq.waits n).mp (Claim.mem_tasks_of_standing hn)
  rw [hw t ht] at hwaits
  cases hwaits

theorem filter_line (hn : n ∉ s.line) : s.line.filter (· != n) = s.line := by
  refine List.filter_eq_self.mpr fun m hm => ?_
  have hne : m ≠ n := fun he => hn (he ▸ hm)
  simpa using hne

theorem isCancelled_goto (ht : s.task? t.number = some t) (control : Control)
    (tasks : s'.tasks = (s.goto t control).tasks) (m : Nat) : s'.isCancelled m = s.isCancelled m := by
  by_cases hm : m = t.number
  · subst hm
    rw [isCancelled_of_task? ht, isCancelled_of_task? (task?_goto ht control tasks)]
  · refine isCancelled_congr ?_
    rw [task?_congr tasks, goto, task?_put, if_neg hm]

theorem line_goto (ht : s.task? t.number = some t) (control : Control)
    (tasks : s'.tasks = (s.goto t control).tasks) (claim : s'.claim = s.claim) : s'.line = s.line := by
  unfold line
  rw [claim]
  exact Claim.standing_congr rfl fun m _ => isCancelled_goto ht control tasks m

theorem line_cancel {target : Task} (hm : s.task? target.number = some target) :
    (s.cancel target).line = s.line.filter (· != target.number) := by
  unfold line cancel
  split
  · exact Claim.standing_withdraw ..
  · refine Claim.standing_gone fun m => ?_
    simp only [isCancelled, task?_put]
    by_cases hn : m = target.number
    · simp [hn, hm]
    · simp [hn]

/-! ## Serving the line -/

def Leads (s : Session) (ds : List Deed) (s' : Session) : Prop := ds.foldlM Deed.serve s.line = some s'.line

theorem leads_nil (h : s'.line = s.line) : s.Leads [] s' := congrArg some h.symm

theorem leads_cancels (h : s'.line = s.line.filter (· != n)) : s.Leads [.cancels n] s' := congrArg some h.symm

theorem leads_asks (hn : n ∉ s.line) {ds : List Deed} (h : ds.foldlM Deed.serve (s.line ++ [n]) = some s'.line) :
    s.Leads (.asks n :: ds) s' := by
  unfold Leads
  rw [List.foldlM_cons, Deed.serve, if_neg hn]
  exact h

theorem Leads.append {s'' : Session} {ds ds' : List Deed} (h : s.Leads ds s') (h' : s'.Leads ds' s'') :
    s.Leads (ds ++ ds') s'' := by
  unfold Leads at h ⊢
  rw [List.foldlM_append, h]
  exact h'

theorem claim_grant (s : Session) (t : Task) (r : Request) (claim : Claim) : (s.grant t r claim).claim = claim := by
  cases r <;> rfl

theorem others_grant (s : Session) (t : Task) (r : Request) (claim : Claim) {m : Nat} (hm : m ≠ t.number) :
    (s.grant t r claim).task? m = s.task? m := by
  cases r with
  | keep name sql config => exact (task?_put ..).trans (if_neg hm)
  | direct purpose sql values => exact (task?_put ..).trans (if_neg hm)

theorem leads_aside (hq : s.Queued) (ht : s.task? t.number = some t) (h : t.control.isAside = true) :
    s.Leads (t.deeds (!s.claim.held && (s.move t).claim.held)) (s.move t) := by
  have hclaim := claim_move ht h
  have hwaits : t.control.isWaiting = false := by
    cases hc : t.control with
    | wait r => rw [hc] at h; cases h
    | _ => rfl
  have hcancel : ∀ m, t.control ≠ .start (.cancel m) := fun m hc => by rw [hc] at h; cases h
  have hclaims : ∀ r, t.control ≠ .claim r := fun r hc => by rw [hc] at h; cases h
  rw [t.deeds_of_ne hcancel hclaims, hclaim, Bool.not_and_self, if_neg Bool.false_ne_true]
  refine leads_nil ((line_eq fun m hm => others_move ht hcancel ?_).trans (by rw [hclaim]; rfl))
  rintro rfl
  exact hq.not_mem ht hwaits (hclaim ▸ hm)

theorem start_cancel {target : Task} (hm : s.task? target.number = some target)
    (ht : s.task? t.number = some t) :
    ∃ t', (s.cancel target).task? t'.number = some t' ∧
      s.start t (.cancel target.number) = (s.cancel target).goto t' (.done (.cancelled true)) := by
  obtain ⟨t', ht', hn, -⟩ := task?_cancel hm ht
  refine ⟨t', hn ▸ ht', ?_⟩
  simp only [start, hm, ht', Option.getD_some]

theorem leads_cancel (hq : s.Queued) (ht : s.task? t.number = some t) {m : Nat}
    (hc : t.control = .start (.cancel m)) : s.Leads [.cancels m] (s.move t) := by
  apply leads_cancels
  rw [move, hc]
  dsimp only
  cases hm : s.task? m with
  | none =>
    have hstart : s.start t (.cancel m) = s.goto t (.done (.cancelled false)) := by simp only [start, hm]
    rw [hstart, filter_line (not_mem_line hq fun u hu => by rw [hm] at hu; cases hu)]
    exact line_goto ht _ rfl rfl
  | some target =>
    obtain rfl := number_of_task? hm
    obtain ⟨t', ht', hstart⟩ := start_cancel hm ht
    rw [hstart, line_goto ht' _ rfl rfl, line_cancel hm]

theorem standing_joined (hout : n ∉ s.claim.tasks) (others : ∀ m, m ≠ n → s'.task? m = s.task? m)
    (hn : s'.isCancelled n = false) : (s.claim.enqueue n).standing s'.isCancelled = s.line ++ [n] := by
  rw [Claim.standing_enqueue _ hn]
  congr 1
  refine Claim.standing_congr rfl fun m hm => isCancelled_congr (others m ?_)
  rintro rfl
  exact hout hm

theorem request_waits (hmode : s.mode = .waiting) (hopen : ¬ s.claim.isOpen = true) (r : Request) :
    (s.request t r).claim = (if t.cancelled then (s.claim.enqueue t.number).withdraw t.number
        else s.claim.enqueue t.number) ∧
      (s.request t r).tasks = (s.put { t with control := .wait r, cancelled := false }).tasks := by
  unfold request
  rw [if_neg hopen, hmode]
  dsimp only
  cases hcancelled : t.cancelled with
  | true => exact ⟨rfl, rfl⟩
  | false =>
    have htask : { t with control := .wait r } = ({ t with control := .wait r, cancelled := false } : Task) :=
      congrArg (Task.mk t.number (.wait r) t.frames) hcancelled
    rw [← htask]
    exact ⟨rfl, rfl⟩

theorem leads_request (hq : s.Queued) (hmode : s.mode = .waiting) (ht : s.task? t.number = some t) {r : Request}
    (hc : t.control = .claim r) : s.Leads (t.deeds (!s.claim.held && (s.move t).claim.held)) (s.move t) := by
  have hout : t.number ∉ s.claim.tasks := hq.not_mem ht (by rw [hc]; rfl)
  have hmove : s.move t = s.request t r := by rw [move, hc]
  rw [t.deeds_claim hc, hmove]
  refine leads_asks (fun h => hout (Claim.mem_tasks_of_standing h)) ?_
  by_cases hopen : s.claim.isOpen = true
  · -- An open claim has no line, so who asks is the first and obtains it in the same move.
    have hempty : s.line = [] := Claim.standing_of_isOpen hopen _
    have hgrant : s.request t r = s.grant t r s.claim.taken := if_pos hopen
    have hempty' : (s.grant t r s.claim.taken).line = [] := by
      rw [line, claim_grant]
      exact Claim.standing_of_isOpen (c := s.claim) hopen _
    rw [hgrant, hempty, hempty', claim_grant, (Claim.isOpen_iff.mp hopen).1]
    simp [Claim.taken, Deed.serve]
  · obtain ⟨hclaim, tasks⟩ := request_waits hmode hopen r
    have hjoined : (s.claim.enqueue t.number).standing (s.request t r).isCancelled = s.line ++ [t.number] := by
      refine standing_joined hout (fun m hm => ?_) ?_
      · rw [task?_congr tasks, task?_put, if_neg hm]
      · exact isCancelled_of_task? ((task?_congr tasks _).trans (task?_put_self ht rfl))
    have hheld : (s.request t r).claim.held = s.claim.held := by
      rw [hclaim]
      split <;> rfl
    have hline : (s.request t r).line = (s.request t r).claim.standing (s.request t r).isCancelled := rfl
    rw [hheld, Bool.not_and_self, if_neg Bool.false_ne_true, hline, hclaim]
    by_cases hcancelled : t.cancelled = true
    · -- It leaves the line at once.
      rw [if_pos hcancelled, if_pos hcancelled, Claim.standing_withdraw, hjoined]
      rfl
    · rw [if_neg hcancelled, if_neg hcancelled, hjoined]
      rfl

theorem resume_of_gone (hq : s.Queued) (h : t.cancelled ∨ s.claim.waiting? t.number = some .withdrawn)
    (r : Request) :
    s.resume t r = (({ s with claim := (s.claim.resume t.number t.cancelled).claim }).put
      { t with control := .done cancelledAnswer, cancelled := false }).wake
        (s.claim.resume t.number t.cancelled).wakes := by
  unfold resume
  dsimp only
  rw [(hq.queue.resume_withdrawn h).1]
  rfl

theorem resume_of_not_gone (h : ¬ (t.cancelled ∨ s.claim.waiting? t.number = some .withdrawn)) (r : Request) :
    s.resume t r = s.grant t r (s.claim.without t.number).taken := by
  unfold resume
  dsimp only
  rw [Claim.resume_eq_taken h]
  rfl

theorem leads_gone (hq : s.Queued) (ht : s.task? t.number = some t) {r : Request} (hc : t.control = .wait r)
    (hgone : t.cancelled ∨ s.claim.waiting? t.number = some .withdrawn) :
    s.Leads (t.deeds (!s.claim.held && (s.resume t r).claim.held)) (s.resume t r) := by
  obtain ⟨-, -, htasks, hheld⟩ := hq.queue.resume_withdrawn hgone
  have hout : t.number ∉ s.line :=
    hq.queue.not_mem_standing (hgone.imp_left fun h => (isCancelled_of_task? ht).trans h)
  have hclaim : (s.resume t r).claim = (s.claim.resume t.number t.cancelled).claim := by
    rw [resume_of_gone hq hgone]
    rfl
  have hothers : ∀ m ∈ (s.resume t r).claim.tasks, (s.resume t r).task? m = s.task? m := by
    intro m hm
    rw [hclaim, htasks, List.mem_filter] at hm
    rw [resume_of_gone hq hgone]
    exact (task?_put ..).trans (if_neg (by simpa using hm.2))
  -- Who gives up has left the line before, so that it is served nothing here.
  rw [t.deeds_wait hc, hclaim, hheld, Bool.not_and_self, if_neg Bool.false_ne_true]
  apply leads_nil
  rw [line_eq hothers, hclaim, Claim.standing_resume hgone]
  exact filter_line hout

theorem leads_granted (hq : s.Queued) (ht : s.task? t.number = some t) {r : Request} (hc : t.control = .wait r)
    (hm : s.canMove t = true) (hstays : ¬ (t.cancelled ∨ s.claim.waiting? t.number = some .withdrawn)) :
    s.Leads (t.deeds (!s.claim.held && (s.resume t r).claim.held)) (s.resume t r) := by
  have hasleep : s.claim.waiting? t.number ≠ some .asleep := by simpa [canMove, hc] using hm
  have hin : t.number ∈ s.claim.tasks := (hq.waits _).mpr ⟨t, ht, by rw [hc]; rfl⟩
  have hwoken := Claim.woken_of_mem hin hasleep hstays
  have hline : s.line = t.number :: (s.claim.without t.number).standing s.isCancelled := by
    refine hq.queue.standing_woken hwoken ((isCancelled_of_task? ht).trans ?_)
    exact eq_false_of_ne_true fun h => hstays (Or.inl h)
  have hothers : ∀ m ∈ (s.claim.without t.number).tasks,
      (s.grant t r (s.claim.without t.number).taken).task? m = s.task? m := by
    intro m hm
    rw [Claim.tasks_without, List.mem_filter] at hm
    exact others_grant s t r _ (by simpa using hm.2)
  have hline' : (s.grant t r (s.claim.without t.number).taken).line =
      (s.claim.without t.number).standing s.isCancelled := by
    rw [line_eq (by rw [claim_grant]; exact hothers), claim_grant]
    rfl
  rw [t.deeds_wait hc, resume_of_not_gone hstays, claim_grant, hq.queue.held_of_woken hwoken]
  unfold Leads
  rw [hline, hline']
  simp [Claim.taken, Deed.serve]

theorem leads_finish (hs : s.Sound) (ht : s.task? t.number = some t) {u : Use} {outcome : Except Raised Outcome}
    (hc : t.control = .finish u outcome) :
    s.Leads (t.deeds (!s.claim.held && (s.move t).claim.held)) (s.move t) := by
  have hu : u ∈ s.uses := mem_uses_of_task ht (by rw [t.uses_eq, hc]; exact List.mem_cons_self)
  have hheld := hs.exclusive.held_of_mem_uses hu
  have hmove : s.move t = s.finish t u outcome := by rw [move, hc]
  obtain ⟨tasks, -, claim, -⟩ := finish_of_held hheld t u outcome
  rw [t.deeds_of_ne (by simp [hc]) (by simp [hc]), hheld, Bool.not_true, Bool.false_and,
    if_neg Bool.false_ne_true, hmove]
  -- Who is woken keeps his place until he goes on.
  apply leads_nil
  rw [line, claim, Claim.standing_wakeFirst]
  exact Claim.standing_congr (c := s.claim) rfl fun m _ => isCancelled_goto ht _ tasks m

theorem leads_move (hs : s.Sound) (hmode : s.mode = .waiting) (ht : s.task? t.number = some t)
    (hm : s.canMove t = true) : s.Leads (t.deeds (!s.claim.held && (s.move t).claim.held)) (s.move t) := by
  have hq := hs.queued
  cases hc : t.control with
  | start step =>
    cases step with
    | cancel m =>
      rw [t.deeds_cancel hc]
      exact leads_cancel hq ht hc
    | _ => exact leads_aside hq ht (by rw [hc]; rfl)
  | claim r => exact leads_request hq hmode ht hc
  | wait r =>
    have hmove : s.move t = s.resume t r := by rw [move, hc]
    rw [hmove]
    by_cases hgone : t.cancelled ∨ s.claim.waiting? t.number = some .withdrawn
    · exact leads_gone hq ht hc hgone
    · exact leads_granted hq ht hc hm hgone
  | finish u outcome => exact leads_finish hs ht hc
  | _ => exact leads_aside hq ht (by rw [hc]; rfl)

theorem wait_of_not_canMove (h : ¬ s.canMove t = true) : ∃ r, t.control = .wait r := by
  unfold canMove at h
  split at h
  · exact ⟨_, ‹_›⟩
  · exact absurd rfl h

theorem leads_happen (hs : s.Sound) (hmode : s.mode = .waiting) (e : Happening) :
    s.Leads (s.deeds e) (s.happen e) := by
  have hq := hs.queued
  cases e with
  | launch number step =>
    apply leads_nil
    simp only [happen]
    split
    · refine Claim.standing_congr (c := s.claim) rfl fun m hm => ?_
      obtain ⟨t, ht, -⟩ := (hq.waits m).mp hm
      refine isCancelled_congr ?_
      rw [task?_launch, ht]
      rfl
    · rfl
  | move number =>
    simp only [deeds, happen]
    cases ht : s.task? number with
    | none => exact leads_nil rfl
    | some t =>
      obtain rfl := number_of_task? ht
      by_cases hm : s.canMove t = true
      · simp only [hm, if_true]
        exact leads_move hs hmode ht hm
      · obtain ⟨r, hc⟩ := wait_of_not_canMove hm
        simp only [Option.elim_some, hm]
        rw [t.deeds_wait hc, if_neg Bool.false_ne_true, Bool.not_and_self]
        exact leads_nil rfl
  | cancel number =>
    simp only [happen]
    apply leads_cancels
    cases hm : s.task? number with
    | none => exact (filter_line (not_mem_line hq fun u hu => by rw [hm] at hu; cases hu)).symm
    | some target =>
      obtain rfl := number_of_task? hm
      exact line_cancel hm
  | transport transport => exact leads_nil rfl
  | hook call steps =>
    apply leads_nil
    simp only [happen]
    split <;> rfl

theorem leads_follow (hs : s.Sound) (hmode : s.mode = .waiting) (happenings : List Happening) :
    s.Leads (s.history happenings) (s.follow happenings) := by
  induction happenings generalizing s with
  | nil => exact leads_nil rfl
  | cons e happenings ih =>
    have hnext := next_happen s e
    exact (leads_happen hs hmode e).append (ih (hs.next hnext) ((mode_next hnext).trans hmode))

/-! ## Nobody is left asleep -/

theorem turn_cancel (s : Session) (target : Task) (n : Nat) : Claim.Turn n s.claim (s.cancel target).claim := by
  unfold cancel
  split
  · exact .withdraws target.number
  · exact .stays

theorem turn_move (ht : s.task? t.number = some t) : Claim.Turn t.number s.claim (s.move t).claim := by
  have haside (hc : t.control.isAside = true) : Claim.Turn t.number s.claim (s.move t).claim := by
    rw [claim_move ht hc]
    exact .stays
  cases hc : t.control with
  | start step =>
    cases step with
    | cancel m =>
      rw [move, hc]
      dsimp only
      rcases start_cases ht hc with ⟨_, -, -, -, hl⟩ | ⟨target, t', -, -, -, -, -, -, he⟩ | ⟨_, _, _, _, hstep, -⟩
      · rw [hl.claim]
        exact .stays
      · rw [he]
        exact turn_cancel s target t.number
      · cases hstep
    | _ => exact haside (by rw [hc]; rfl)
  | claim r =>
    rw [move, hc]
    dsimp only
    unfold request
    split
    · rw [claim_grant]
      exact .takes ‹_›
    · split
      · exact .stays
      · dsimp only
        split
        · exact .skips ‹_›
        · exact .joins ‹_›
  | wait r =>
    rw [move, hc]
    dsimp only
    unfold resume
    dsimp only
    split
    · rw [claim_grant]
      exact .resumes t.cancelled
    · exact .resumes t.cancelled
  | finish u outcome =>
    rw [move, hc]
    dsimp only
    unfold finish
    dsimp only [record, setStage]
    cases hheld : s.claim.held with
    | false =>
      rw [Claim.release, if_neg (by simp [hheld])]
      exact .stays
    | true =>
      rw [Claim.release_eq hheld]
      exact .releases
  | _ => exact haside (by rw [hc]; rfl)

theorem alert_follow (mode : Mode) (config : Config) (hs : List Happening) :
    ((Session.opened mode config).follow hs).claim.Alert := by
  refine follow_keeps (P := (·.claim.Alert)) (fun s s' h hnext => ?_) (fun _ w hw => ?_) hs
  · cases hnext with
    | move ht => exact h.turn (turn_move ht)
    | @cancel t => exact h.turn (turn_cancel s t t.number)
    | _ => exact h
  · cases hw

/-- When nobody holds the claim and nobody who waits for it can go on, then nobody waits. -/
theorem none_waits (hq : s.Queued) (h : s.claim.Alert) (hfree : s.claim.held = false)
    (hstuck : ∀ t ∈ s.tasks, t.control.isWaiting = true → s.canMove t = false) :
    ∀ t ∈ s.tasks, t.control.isWaiting = false := by
  have hempty : s.claim.queue = [] := by
    cases hqueue : s.claim.queue with
    | nil => rfl
    | cons w q =>
      have hfirst : w ∈ s.claim.queue := hqueue ▸ List.mem_cons_self
      obtain ⟨t, ht, hwaits⟩ := (hq.waits w.task).mp (List.mem_map_of_mem hfirst)
      obtain ⟨hmem, hnumber⟩ := mem_of_task? ht
      have hstays := hstuck t hmem hwaits
      obtain ⟨r, hc⟩ := wait_of_not_canMove (ne_true_of_eq_false hstays)
      have hasleep : w.wait = .asleep := by
        simpa [canMove, hc, hnumber, hq.queue.waiting?_of_mem hfirst] using hstays
      exact absurd hasleep (h hfree w (by rw [hqueue]; rfl))
  intro t ht
  refine eq_false_of_ne_true fun hwaits => ?_
  have hin : t.number ∈ s.claim.tasks := (hq.waits _).mpr ⟨t, task?_of_mem hq.numbers ht, hwaits⟩
  rw [Claim.queue_eq_nil.mp hempty] at hin
  cases hin

end Session
end Prepared
