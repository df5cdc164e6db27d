import Prepared.Proofs.Session.Once
import Prepared.Proofs.Session.Order

/-!
# Cancellation

A task that is cancelled while it waits for the claim is out of the line, so it
never gets the claim: its next move takes it out of the queue, and the one after
that answers it. A task that is cancelled while the transport writes or reads
for it ends its use like any other. Main statement: the claim is granted in
order, it is not lost, and whoever is cancelled leaves it as it should be.
-/

namespace Prepared.Session

def StandsAt (s : Session) (n : Nat) (control : Control) (frames : List Frame) : Prop :=
  ∃ t, s.task? n = some t ∧ t.control = control ∧ t.frames = frames

structure Untouched (s s' : Session) : Prop where
  held : s'.claim.held = s.claim.held
  statements : s'.statements = s.statements
  exchanges : s'.exchanges = s.exchanges
  releases : s'.releases = s.releases

variable {s s' : Session} {t : Task} {n : Nat} {control : Control} {frames : List Frame}

/-! ## Standing still -/

theorem StandsAt.happen (h : s.StandsAt n control frames) {e : Happening} (he : e ≠ .move n) :
    (s.happen e).StandsAt n control frames := by
  obtain ⟨t, ht, hc, hf⟩ := h
  obtain ⟨t', ht', hc', hf'⟩ := (comes_happen s e).task? ht he
  exact ⟨t', ht', hc'.trans hc, hf'.trans hf⟩

theorem StandsAt.goto (ht : s.task? n = some t) (control : Control) (tasks : s'.tasks = (s.goto t control).tasks) :
    s'.StandsAt n control t.frames :=
  ⟨_, task?_goto ht control tasks, rfl, rfl⟩

theorem follow_keeps_of_not_mem {P : Session → Prop} (hstep : ∀ s e, P s → e ≠ .move n → P (s.happen e)) (h : P s)
    {hs : List Happening} (hn : .move n ∉ hs) : P (s.follow hs) := by
  induction hs generalizing s with
  | nil => exact h
  | cons e hs ih =>
    rw [List.mem_cons, not_or] at hn
    exact ih (hstep s e h (Ne.symm hn.1)) hn.2

/-! ## Falling asleep -/

theorem Comes.asleep {e : Happening} (h : s.Comes e s') (he : e ≠ .move n)
    (hasleep : s'.claim.waiting? n = some .asleep) : s.claim.waiting? n = some .asleep := by
  cases h with
  | move ht => exact (turn_move ht).asleep (fun hn => he (hn ▸ rfl)) hasleep
  | cancel =>
    unfold Session.cancel at hasleep
    split at hasleep
    · exact Claim.asleep_of_withdraw hasleep
    · exact hasleep
  | _ => exact hasleep

/-! ## Giving up -/

/-- The task waits for the claim, but has been cancelled and can go on. -/
structure WaitsInVain (s : Session) (n : Nat) (r : Request) (frames : List Frame) : Prop where
  sound : s.Sound
  mode : s.mode = .waiting
  stands : s.StandsAt n (.wait r) frames
  out : n ∉ s.line
  awake : s.claim.waiting? n ≠ some .asleep

theorem gone_of_not_mem_line (hq : s.Queued) (ht : s.task? t.number = some t) {r : Request}
    (hc : t.control = .wait r) (hout : t.number ∉ s.line) :
    t.cancelled = true ∨ s.claim.waiting? t.number = some .withdrawn := by
  by_contra hgone
  rw [not_or] at hgone
  have hin : t.number ∈ s.claim.tasks := (hq.waits _).mpr ⟨t, ht, by rw [hc]; rfl⟩
  refine hout (Claim.mem_standing hin ?_ hgone.2)
  exact (isCancelled_of_task? ht).trans (eq_false_of_ne_true hgone.1)

theorem mem_deeds_move {d : Deed} {m : Nat} (h : d ∈ s.deeds (.move m)) :
    ∃ t obtains, s.task? m = some t ∧ d ∈ t.deeds obtains := by
  unfold deeds at h
  cases ht : s.task? m with
  | none => simp [ht] at h
  | some t => exact ⟨t, _, rfl, by simpa [ht] using h⟩

theorem deeds_of_wait {r : Request} (h : s.StandsAt n (.wait r) frames) (e : Happening) :
    .asks n ∉ s.deeds e ∧ (.cancels n ∈ s.deeds e → e ≠ .move n) := by
  obtain ⟨t, ht, hc, -⟩ := h
  refine ⟨fun hasks => ?_, ?_⟩
  · cases e with
    | move m =>
      obtain ⟨u, obtains, hu, hmem⟩ := mem_deeds_move hasks
      obtain ⟨rfl, r', hc'⟩ := u.claim_of_asks hmem
      obtain rfl := number_of_task? hu
      rw [Option.some.inj (ht.symm.trans hu), hc'] at hc
      cases hc
    | cancel m => cases List.mem_singleton.mp hasks
    | _ => cases hasks
  · rintro hcancels rfl
    obtain ⟨u, obtains, hu, hmem⟩ := mem_deeds_move hcancels
    obtain rfl := Option.some.inj (ht.symm.trans hu)
    rw [t.deeds_wait hc] at hmem
    split_ifs at hmem <;> simp at hmem

theorem awake_cancel (ht : s.task? n = some t) : (s.cancel t).claim.waiting? n ≠ some .asleep := by
  obtain rfl := number_of_task? ht
  unfold cancel
  split
  · change (s.claim.withdraw t.number).waiting? t.number ≠ some .asleep
    rw [Claim.waiting?_withdraw, if_pos rfl]
    simp
  · assumption

namespace WaitsInVain

variable {r : Request}

theorem happen (h : s.WaitsInVain n r frames) {e : Happening} (he : e ≠ .move n) :
    (s.happen e).WaitsInVain n r frames := by
  have hnext := next_happen s e
  refine ⟨h.sound.next hnext, (mode_next hnext).trans h.mode, h.stands.happen he, ?_, fun hasleep => ?_⟩
  · exact Deed.serve_not_mem_all (leads_happen h.sound h.mode e) h.out (deeds_of_wait h.stands e).1
  · exact h.awake ((comes_happen s e).asleep he hasleep)

theorem follow (h : s.WaitsInVain n r frames) {hs : List Happening} (hn : .move n ∉ hs) :
    (s.follow hs).WaitsInVain n r frames :=
  follow_keeps_of_not_mem (P := (·.WaitsInVain n r frames)) (fun _ _ h he => h.happen he) h hn

theorem move (h : s.WaitsInVain n r frames) :
    s.Untouched (s.happen (.move n)) ∧ (s.happen (.move n)).StandsAt n (.done cancelledAnswer) frames := by
  obtain ⟨t, ht, hc, rfl⟩ := h.stands
  obtain rfl := number_of_task? ht
  have hgone := gone_of_not_mem_line h.sound.queued ht hc h.out
  have hm : s.canMove t = true := by
    have hawake := h.awake
    simpa [canMove, hc] using hawake
  have hmove : s.happen (.move t.number) = s.resume t r := by
    rw [happen_move ht hm, Session.move, hc]
  rw [hmove, resume_of_gone h.sound.queued hgone]
  refine ⟨⟨(h.sound.queued.queue.resume_withdrawn hgone).2.2.2, rfl, rfl, rfl⟩, ?_⟩
  exact ⟨_, task?_put_self ht rfl, rfl, rfl⟩

end WaitsInVain

theorem waitsInVain_of_cancels (hs : s.Sound) (hmode : s.mode = .waiting) {r : Request}
    (h : s.StandsAt n (.wait r) frames) {e : Happening} (hcancels : .cancels n ∈ s.deeds e) :
    (s.happen e).WaitsInVain n r frames := by
  obtain ⟨hasks, hne⟩ := deeds_of_wait h e
  have hnext := next_happen s e
  refine ⟨hs.next hnext, (mode_next hnext).trans hmode, h.happen (hne hcancels), ?_, ?_⟩
  · exact Deed.not_mem_of_cancels (leads_happen hs hmode e) hcancels hasks
  · obtain ⟨t, ht, hc, -⟩ := h
    obtain rfl := number_of_task? ht
    cases e with
    | cancel m =>
      obtain rfl := Deed.cancels.inj (List.mem_singleton.mp hcancels)
      simp only [Session.happen, ht]
      exact awake_cancel ht
    | move m =>
      obtain ⟨u, obtains, hu, hmem⟩ := mem_deeds_move hcancels
      obtain rfl := number_of_task? hu
      -- Another task cancels it in a step; it would be its own claim if it did not wait already.
      rcases u.cancel_of_cancels hmem with hstart | ⟨hn, r', hclaim⟩
      · obtain ⟨u', -, he⟩ := start_cancel ht hu
        rw [happen_move hu (by simp [canMove, hstart]), Session.move, hstart]
        dsimp only
        rw [he]
        exact awake_cancel ht
      · rw [hn] at ht
        rw [Option.some.inj (ht.symm.trans hu), hclaim] at hc
        cases hc
    | _ => cases hcancels

theorem answered (hs : s.Sound) {answer : Answer} (h : s.StandsAt n (.done answer) frames) :
    s.Untouched (s.happen (.move n)) ∧
      (s.happen (.move n)).events = s.events ++ [if frames.isEmpty then .ended n answer else .nested answer] := by
  obtain ⟨t, ht, hc, rfl⟩ := h
  obtain rfl := number_of_task? ht
  have hmove : s.move t = s.conclude t answer := by rw [move, hc]
  rw [happen_move ht (by simp [canMove, hc])]
  refine ⟨⟨?_, ?_, ?_, ?_⟩, ?_⟩
  · rw [claim_move ht (by rw [hc]; rfl)]
  · rw [hmove]
    unfold conclude
    split
    · rfl
    · exact statements_push ..
  · refine (calm_move hs.queued.numbers ht (by rw [hc]; rfl) fun u values he => ?_).exchanges
    rw [hc] at he
    cases he
  · refine (kept_move ht fun u outcome he => ?_).releases
    rw [hc] at he
    cases he
  · rw [hmove]
    unfold conclude
    split
    · rename_i hframes
      rw [hframes]
      rfl
    · rename_i rest next frames hframes
      rw [hframes]
      cases rest <;> rfl

/-! ## Interrupted calls -/

/-- The call of the transport in which the task stands is cancelled, and the transport lets that through. -/
def Interrupted (s : Session) (n : Nat) (u : Use) (text : String) (frames : List Frame) : Prop :=
  ∃ sql, s.StandsAt n (.send u sql) frames ∧ s.transport.sendError = some (.interrupt .cancelled text) ∨
    s.StandsAt n (.receive u sql) frames ∧ s.transport.receiveError = some (.interrupt .cancelled text)

theorem Interrupted.move {u : Use} {text : String} (h : s.Interrupted n u text frames) :
    (s.happen (.move n)).StandsAt n (.finish u (.error { failure := .interrupt .cancelled text })) frames ∧
      (s.happen (.move n)).releases = s.releases := by
  obtain ⟨sql, ⟨⟨t, ht, hc, rfl⟩, hfails⟩ | ⟨⟨t, ht, hc, rfl⟩, hfails⟩⟩ := h
  · obtain rfl := number_of_task? ht
    have hsend : s.transport.send = .error { failure := .interrupt .cancelled text } := by
      rw [Transport.send, hfails]
      rfl
    rw [happen_move ht (by simp [canMove, hc]), Session.move, hc]
    dsimp only
    unfold send
    rw [hsend]
    exact ⟨.goto ht _ rfl, releases_log ..⟩
  · obtain rfl := number_of_task? ht
    have hreceive : s.transport.receive u.purpose sql = .error { failure := .interrupt .cancelled text } := by
      unfold Transport.receive
      rw [hfails]
      cases u.purpose <;> rfl
    rw [happen_move ht (by simp [canMove, hc]), Session.move, hc]
    dsimp only
    unfold receive
    rw [hreceive]
    exact ⟨.goto ht _ rfl, rfl⟩

theorem finish_waits (hs : s.Sound) {u : Use} {outcome : Except Raised Outcome}
    (h : s.StandsAt n (.finish u outcome) frames) {hs' : List Happening} (hn : .move n ∉ hs') :
    (s.follow hs').StandsAt n (.finish u outcome) frames ∧ (s.follow hs').releases = s.releases := by
  induction hs' generalizing s with
  | nil => exact ⟨h, rfl⟩
  | cons e hs' ih =>
    rw [List.mem_cons, not_or] at hn
    have he : e ≠ .move n := Ne.symm hn.1
    obtain ⟨hstands, hreleases⟩ := ih (hs.next (next_happen s e)) (h.happen he) hn.2
    obtain ⟨t, ht, hc, -⟩ := h
    have hu : u ∈ t.uses := by
      rw [t.uses_eq, hc]
      exact List.mem_cons_self
    have hother : e.moves n = false := eq_false_of_ne_true fun hm => he (eq_move_of_moves hm)
    exact ⟨hstands, hreleases.trans (steady hs ht hu hother).2⟩

theorem finish_ends (hs : s.Sound) {before : Session} {u : Use} {outcome : Except Raised Outcome}
    (h : s.StandsAt n (.finish u outcome) frames) (hreleases : s.releases = before.releases) :
    (s.happen (.move n)).StandsAt n (.done (.ofOutcome outcome)) frames ∧
      CallEnded before n u (s.happen (.move n)) := by
  obtain ⟨t, ht, hc, rfl⟩ := h
  obtain rfl := number_of_task? ht
  have hu : u ∈ s.uses := mem_uses_of_task ht (by rw [t.uses_eq, hc]; exact List.mem_cons_self)
  obtain ⟨tasks, -⟩ := finish_of_held (hs.exclusive.held_of_mem_uses hu) t u outcome
  rw [happen_move ht (by simp [canMove, hc]), Session.move, hc]
  exact ⟨.goto ht _ tasks, callEnded_finish hs ht hc hreleases⟩

theorem idle_occur (h : s.Once) {i : Nat} (hi : s.stage? i = some .idle) (e : Happening) :
    (s.occur e).stage? i = some .idle := by
  have hgoes := goes_occur h e i
  rw [hi] at hgoes
  generalize (s.occur e).stage? i = after at hgoes
  cases hgoes
  rfl

theorem idle_evolve (h : s.Once) {i : Nat} (hi : s.stage? i = some .idle) (hs : List Happening) :
    (s.evolve hs).stage? i = some .idle := by
  induction hs generalizing s with
  | nil => exact hi
  | cons e hs ih => exact ih (h.occur e) (idle_occur h hi e)

/-! ## The claim under cancellation -/

/-- Whatever happens before the next two moves of the task, the first takes it
out of the queue and the second answers it, and neither touches the claim. -/
def TurnsAway (s : Session) (n : Nat) (frames : List Frame) : Prop :=
  ∀ hs₁ hs₂, .move n ∉ hs₁ → .move n ∉ hs₂ →
    let waits := s.follow hs₁
    let told := (waits.happen (.move n)).follow hs₂
    waits.Untouched (waits.happen (.move n)) ∧ told.StandsAt n (.done cancelledAnswer) frames ∧
      told.Untouched (told.happen (.move n)) ∧ (told.happen (.move n)).events =
        told.events ++ [if frames.isEmpty then .ended n cancelledAnswer else .nested cancelledAnswer]

/-- After the move of the task the use is going to finish with the interrupt,
and whatever happens before its next move, in that one the claim is given back,
for the first time and the last. The statement is idle for good, and the
interrupt is the answer. -/
def GivesBackOnce (s : Session) (n : Nat) (u : Use) (text : String) (frames : List Frame) : Prop :=
  let raised : Raised := { failure := .interrupt .cancelled text }
  ∀ hs₁, .move n ∉ hs₁ →
    let finishes := (s.happen (.move n)).follow hs₁
    let ended := finishes.happen (.move n)
    finishes.StandsAt n (.finish u (.error raised)) frames ∧ finishes.releases = s.releases ∧
      ended.StandsAt n (.done (.raised raised)) frames ∧ CallEnded s n u ended ∧
      ∀ hs₂, (ended.follow hs₂).stage? u.statement = some .idle ∧
        (ended.follow hs₂).releases.countP (·.1 == u.statement) = 1

theorem WaitsInVain.turnsAway {r : Request} (h : s.WaitsInVain n r frames) : s.TurnsAway n frames := by
  intro hs₁ hs₂ hn₁ hn₂ waits told
  have hwaits : waits.WaitsInVain n r frames := h.follow hn₁
  obtain ⟨huntouched, hdone⟩ := hwaits.move
  have htold : told.StandsAt n (.done cancelledAnswer) frames :=
    follow_keeps_of_not_mem (P := (·.StandsAt n (.done cancelledAnswer) frames)) (fun _ _ h he => h.happen he)
      hdone hn₂
  have hsound : told.Sound := (hwaits.sound.next (next_happen _ _)).follow hs₂
  obtain ⟨huntouched', hevents⟩ := answered hsound htold
  exact ⟨huntouched, htold, huntouched', hevents⟩

theorem Interrupted.givesBackOnce (hs : s.Sound) (ho : s.Once) {u : Use} {text : String}
    (h : s.Interrupted n u text frames) : s.GivesBackOnce n u text frames := by
  intro hs₁ hn finishes ended
  have hnext : (s.happen (.move n)).Sound := hs.next (next_happen s _)
  have hsound : finishes.Sound := hnext.follow hs₁
  obtain ⟨hstands, hreleases⟩ := finish_waits hnext h.move.1 hn
  have hkept : finishes.releases = s.releases := hreleases.trans h.move.2
  obtain ⟨hdone, hended⟩ := finish_ends hsound hstands hkept
  refine ⟨hstands, hkept, hdone, hended, fun hs₂ => ?_⟩
  have hsound' : (ended.follow hs₂).Sound := (hsound.next (next_happen _ _)).follow hs₂
  have honce : ended.Once := ((ho.follow [.move n]).follow hs₁).follow [.move n]
  have hidle : (ended.follow hs₂).stage? u.statement = some .idle := by
    rw [follow_eq_evolve]
    exact idle_evolve honce hended.idle _
  exact ⟨hidle, (hsound'.exclusive.once _).trans (if_pos hidle)⟩

/-- With waiting callers, the claim is granted in order and is not lost. What
is done about it is the history of a line, in which nobody who asks later
obtains the claim before somebody who has asked, unless the latter is cancelled.
When nobody holds the claim and nobody who waits for it can go on, then nobody
waits. A task that is cancelled while it waits never holds the claim or gives it
back, and sends nothing. A task that is cancelled while the transport writes or
reads for it gives the claim back once, and is answered with the interrupt. -/
theorem follow_grants (config : Config) (hs : List Happening) :
    let start := Session.opened .waiting config
    let s := start.follow hs
    ((start.history hs).foldlM Deed.serve [] = some s.line ∧
      ∀ a b c m n, start.history hs = a ++ .asks m :: (b ++ .obtains n :: c) →
        .obtains m ∉ b → .cancels m ∉ b → .asks n ∉ b) ∧
      (s.claim.held = false → (∀ t ∈ s.tasks, t.control.isWaiting = true → s.canMove t = false) →
        ∀ t ∈ s.tasks, t.control.isWaiting = false) ∧
      (∀ n r frames e, s.StandsAt n (.wait r) frames → .cancels n ∈ s.deeds e →
        (s.happen e).TurnsAway n frames) ∧
      ∀ n u text frames, s.Interrupted n u text frames → s.GivesBackOnce n u text frames := by
  intro start s
  have hsound : s.Sound := (Sound.opened .waiting config).follow hs
  have hmode : s.mode = .waiting := mode_follow .waiting config hs
  have honce : s.Once := (Once.opened .waiting config).follow hs
  have hserved : (start.history hs).foldlM Deed.serve [] = some s.line :=
    leads_follow (Sound.opened .waiting config) rfl hs
  refine ⟨⟨hserved, fun a b c m n he ho hc => ?_⟩, ?_, ?_, ?_⟩
  · rw [he] at hserved
    exact Deed.not_overtaken hserved ho hc
  · exact none_waits hsound.queued (alert_follow .waiting config hs)
  · intro n r frames e hstands hcancels
    exact (waitsInVain_of_cancels hsound hmode hstands hcancels).turnsAway
  · exact fun n u text frames h => h.givesBackOnce hsound honce

/-- While one task writes, two others wait. The first of these is cancelled, and
then the write; the second obtains the claim, and everybody is answered. -/
theorem follow_grants_passed_on :
    let writes : List Happening := [.launch 0 (.direct .exec "SELECT 1" []), .move 0, .move 0, .move 0, .move 0]
    let waits : List Happening :=
      [.launch 1 (.direct .query "SELECT 2" []), .move 1, .move 1, .launch 2 (.direct .query "SELECT 3" []),
        .move 2, .move 2, .transport { sendError := some (.interrupt .cancelled "stop") }]
    let rest : List Happening :=
      [.cancel 1] ++ List.replicate 3 (.move 0) ++ List.replicate 2 (.move 1) ++ List.replicate 6 (.move 2)
    let s := (Session.opened .waiting {}).follow (writes ++ waits)
    ((Session.opened .waiting {}).history (writes ++ waits ++ rest) =
        [.asks 0, .obtains 0, .asks 1] ++ .asks 2 :: ([.cancels 1] ++ [.obtains 2]) ∧ .asks 2 ∉ [Deed.cancels 1]) ∧
      (∀ t ∈ ((Session.opened .waiting {}).follow (writes ++ waits ++ rest)).tasks, t.control.isWaiting = false) ∧
      (s.happen (.cancel 1)).TurnsAway 1 [] ∧ s.GivesBackOnce 0 ⟨0, .exec⟩ "stop" [] := by
  intro writes waits rest s
  obtain ⟨-, -, haway, honce⟩ := follow_grants {} (writes ++ waits)
  obtain ⟨⟨-, horder⟩, hnobody, -, -⟩ := follow_grants {} (writes ++ waits ++ rest)
  have hhistory : (Session.opened .waiting {}).history (writes ++ waits ++ rest) =
      [.asks 0, .obtains 0, .asks 1] ++ .asks 2 :: ([.cancels 1] ++ [.obtains 2]) := by
    simp only [writes, waits, rest]
    decide +kernel
  have hfree : ((Session.opened .waiting {}).follow (writes ++ waits ++ rest)).claim.held = false := by
    simp only [writes, waits, rest]
    decide +kernel
  have hended : ((Session.opened .waiting {}).follow (writes ++ waits ++ rest)).tasks = [] := by
    apply List.isEmpty_iff.mp
    simp only [writes, waits, rest]
    decide +kernel
  refine ⟨⟨hhistory, ?_⟩, ?_, ?_, ?_⟩
  · exact horder [.asks 0, .obtains 0, .asks 1] [.cancels 1] [] 2 2 hhistory (by decide) (by decide)
  · refine hnobody hfree fun t ht => ?_
    rw [hended] at ht
    cases ht
  · exact haway 1 (.direct .query "SELECT 2" []) [] (.cancel 1) ⟨_, rfl, rfl, rfl⟩ (List.mem_singleton_self _)
  · exact honce 0 ⟨0, .exec⟩ "stop" [] ⟨"SELECT 1", Or.inl ⟨⟨_, rfl, rfl, rfl⟩, rfl⟩⟩

end Prepared.Session
