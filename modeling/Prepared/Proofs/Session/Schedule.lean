import Prepared.Proofs.Session.Exclusion

/-!
# Runs

A run is one of the orders in which things can happen. The tasks that are ready
are there, each is ready only once, and none of them is asleep in the queue, so
the one that runs next can make its move. Whoever is woken was asleep until
then, and was therefore not ready.
-/

namespace Prepared.Session

structure Ready (s : Session) : Prop where
  nodup : s.ready.Nodup
  present : ∀ n ∈ s.ready, n ∈ s.tasks.map (·.number)
  awake : ∀ n ∈ s.ready, s.claim.waiting? n ≠ some .asleep

variable {s s' : Session} {t : Task}

theorem present_of_asleep (hq : s.Queued) {n : Nat} {w : Wait} (h : s.claim.waiting? n = some w) :
    n ∈ s.tasks.map (·.number) := by
  obtain ⟨t, ht, -⟩ := (hq.waits n).mp (Claim.mem_tasks_of_waiting? h)
  obtain ⟨hm, rfl⟩ := mem_of_task? ht
  exact List.mem_map_of_mem hm

namespace Ready

theorem opened (mode : Mode) (config : Config) : (Session.opened mode config).Ready :=
  ⟨List.nodup_nil, fun _ h => absurd h List.not_mem_nil, fun _ h => absurd h List.not_mem_nil⟩

theorem canMove (h : s.Ready) (ht : t.number ∈ s.ready) : s.canMove t = true := by
  unfold Session.canMove
  split
  · simpa using h.awake _ ht
  · rfl

theorem wake (h : s.Ready) (hq : s.Queued) (numbers : s'.tasks.map (·.number) = s.tasks.map (·.number))
    (asleep : ∀ n ∈ s.ready, s'.claim.waiting? n = some .asleep → s.claim.waiting? n = some .asleep)
    (woken : Option Nat) (ready : s'.ready = s.ready ++ woken.toList)
    (hw : ∀ n, woken = some n → s.claim.waiting? n = some .asleep ∧ s'.claim.waiting? n ≠ some .asleep) :
    s'.Ready := by
  have hnew : ∀ n, n ∈ woken.toList → n ∉ s.ready := by
    intro n hn hr
    exact h.awake n hr (hw n (Option.mem_toList.mp hn)).1
  refine ⟨?_, fun n hn => ?_, fun n hn => ?_⟩
  · rw [ready, List.nodup_append]
    refine ⟨h.nodup, by cases woken <;> simp, fun a ha b hb he => hnew b hb (he ▸ ha)⟩
  · rw [ready] at hn
    rw [numbers]
    rcases List.mem_append.mp hn with hn | hn
    · exact h.present n hn
    · exact present_of_asleep hq (hw n (Option.mem_toList.mp hn)).1
  · rw [ready] at hn
    rcases List.mem_append.mp hn with hn | hn
    · exact fun he => h.awake n hn (asleep n hn he)
    · exact (hw n (Option.mem_toList.mp hn)).2

theorem same (h : s.Ready) (numbers : s'.tasks.map (·.number) = s.tasks.map (·.number))
    (queue : s'.claim.queue = s.claim.queue) (ready : s'.ready = s.ready) : s'.Ready := by
  refine ⟨ready ▸ h.nodup, fun n hn => numbers ▸ h.present n (ready ▸ hn), fun n hn => ?_⟩
  rw [Claim.waiting?, queue]
  exact h.awake n (ready ▸ hn)

theorem goto (h : s.Ready) (t : Task) (control : Control) (tasks : s'.tasks = (s.goto t control).tasks)
    (queue : s'.claim.queue = s.claim.queue) (ready : s'.ready = s.ready) : s'.Ready :=
  h.same (by rw [tasks]; exact numbers_put s _) queue ready

theorem cancel (h : s.Ready) (hq : s.Queued) (target : Task) : (s.cancel target).Ready := by
  have hnumbers := numbers_cancel s target
  unfold Session.cancel at hnumbers ⊢
  split
  · rename_i hasleep
    rw [if_pos hasleep] at hnumbers
    refine h.wake hq hnumbers (fun n hn he => ?_) (some target.number) rfl fun n hn => ?_
    · exact Claim.asleep_of_withdraw he
    · obtain rfl := Option.some.inj hn
      refine ⟨hasleep, ?_⟩
      change (s.claim.withdraw target.number).waiting? target.number ≠ some .asleep
      rw [Claim.waiting?_withdraw, if_pos rfl]
      simp
  · rename_i hawake
    rw [if_neg hawake] at hnumbers
    exact h.same hnumbers rfl rfl

theorem start (h : s.Ready) (hq : s.Queued) (ht : s.task? t.number = some t) {step : Step}
    (hc : t.control = .start step) : (s.start t step).Ready := by
  rcases start_cases ht hc with
    ⟨control, -, -, tasks, hl⟩ | ⟨target, t', -, -, -, -, -, -, he⟩ | ⟨_, _, _, _, -, he⟩
  · exact h.goto t control tasks (by rw [hl.claim]) hl.ready
  · rw [he]
    exact (h.cancel hq target).goto t' _ rfl rfl rfl
  · rw [he]
    exact h.goto t (.done _) rfl rfl rfl

theorem grant (h : s.Ready) (t : Task) (r : Request) {claim : Claim}
    (asleep : ∀ n ∈ s.ready, claim.waiting? n = some .asleep → s.claim.waiting? n = some .asleep)
    (hq : s.Queued) : (s.grant t r claim).Ready := by
  have hnumbers : (s.grant t r claim).tasks.map (·.number) = s.tasks.map (·.number) := by
    cases r <;> exact numbers_put s _
  cases r with
  | keep => exact h.wake hq hnumbers asleep none (List.append_nil _).symm nofun
  | direct => exact h.wake hq hnumbers asleep none (List.append_nil _).symm nofun

theorem yield (h : s.Ready) {n : Nat} (hhead : s.ready.head? = some n)
    (present : ∀ m ∈ s.ready, m ≠ n → m ∈ s'.tasks.map (·.number))
    (asleep : ∀ m ∈ s.ready, m ≠ n → s'.claim.waiting? m = some .asleep → s.claim.waiting? m = some .asleep)
    (again : Option Nat) (ready : s'.ready = s.ready.drop 1 ++ again.toList)
    (ha : ∀ m, again = some m → m = n ∧ n ∈ s'.tasks.map (·.number) ∧ s'.claim.waiting? n ≠ some .asleep) :
    s'.Ready := by
  obtain ⟨rest, hr, hnot, hnodup⟩ : ∃ rest, s.ready = n :: rest ∧ n ∉ rest ∧ rest.Nodup := by
    cases hr : s.ready with
    | nil => rw [hr] at hhead; cases hhead
    | cons m rest =>
      rw [hr] at hhead
      obtain rfl := Option.some.inj hhead
      have hnodup := h.nodup
      rw [hr, List.nodup_cons] at hnodup
      exact ⟨rest, rfl, hnodup⟩
  have hmem : ∀ m ∈ rest, m ∈ s.ready ∧ m ≠ n := fun m hm => ⟨by simp [hr, hm], fun he => hnot (he ▸ hm)⟩
  have hrest : s'.ready = rest ++ again.toList := by rw [ready, hr]; rfl
  refine ⟨?_, fun m hm => ?_, fun m hm => ?_⟩
  · rw [hrest, List.nodup_append]
    refine ⟨hnodup, by cases again <;> simp, fun a hm b hb he => ?_⟩
    have hb' := (ha b (Option.mem_toList.mp hb)).1
    exact (hmem a hm).2 (he.trans hb')
  · rw [hrest] at hm
    rcases List.mem_append.mp hm with hm | hm
    · exact present m (hmem m hm).1 (hmem m hm).2
    · obtain ⟨rfl, hpresent, -⟩ := ha m (Option.mem_toList.mp hm)
      exact hpresent
  · rw [hrest] at hm
    rcases List.mem_append.mp hm with hm | hm
    · exact fun he => h.awake m (hmem m hm).1 (asleep m (hmem m hm).1 (hmem m hm).2 he)
    · obtain ⟨rfl, -, hawake⟩ := ha m (Option.mem_toList.mp hm)
      exact hawake

theorem request (h : s.Ready) (hq : s.Queued) (ht : s.task? t.number = some t)
    (hhead : s.ready.head? = some t.number) (r : Request) : (s.request t r).Ready := by
  have hnumbers : ∀ t' : Task, ∀ m ∈ s.ready, m ≠ t.number → m ∈ (s.put t').tasks.map (·.number) := by
    intro t' m hm _
    rw [numbers_put]
    exact h.present m hm
  unfold Session.request
  split
  · exact h.grant t r (fun _ _ => id) hq
  · split
    · exact h.goto t (.done .blocked) rfl rfl rfl
    · dsimp only
      split
      · -- It was cancelled before, so it has given up, and finds that out when its turn comes.
        refine h.yield hhead (hnumbers _) (fun m _ hm he => ?_) (some t.number) rfl fun m hm => ⟨?_, ?_, ?_⟩
        · exact (s.claim.waiting?_enqueue hm).symm.trans (Claim.asleep_of_withdraw he)
        · exact (Option.some.inj hm).symm
        · change t.number ∈ (s.put _).tasks.map (·.number)
          rw [numbers_put]
          exact List.mem_map_of_mem (mem_of_task? ht).1
        · change ((s.claim.enqueue t.number).withdraw t.number).waiting? t.number ≠ some .asleep
          rw [Claim.waiting?_withdraw, if_pos rfl]
          simp
      · refine h.yield hhead (hnumbers _) (fun m _ hm he => ?_) none (List.append_nil _).symm nofun
        exact (s.claim.waiting?_enqueue hm).symm.trans he

theorem resume (h : s.Ready) (hq : s.Queued) (t : Task) (r : Request) : (s.resume t r).Ready := by
  unfold Session.resume
  by_cases hgone : t.cancelled ∨ s.claim.waiting? t.number = some .withdrawn
  · have hnumbers : ∀ t' : Task, (s.put t').tasks.map (·.number) = s.tasks.map (·.number) := numbers_put s
    unfold Claim.resume
    dsimp only
    rw [if_pos hgone]
    split
    · exact h.wake hq (hnumbers _) (fun m _ => Claim.asleep_of_without) none rfl nofun
    · refine h.wake hq (hnumbers _) (fun m _ he => ?_) _ rfl fun m hm => ?_
      · exact Claim.asleep_of_without (Claim.asleep_of_wakeFirst he).1
      · exact ⟨Claim.asleep_of_without (Claim.waiting?_of_wakeFirst hm), fun he => (Claim.asleep_of_wakeFirst he).2 hm⟩
  · dsimp only
    rw [Claim.resume_eq_taken hgone, if_pos rfl]
    exact h.grant t r (fun m _ he => Claim.asleep_of_without he) hq

theorem beginUse (h : s.Ready) (t : Task) (u : Use) (values : List Value) : (s.beginUse t u values).Ready := by
  unfold Session.beginUse
  split
  · exact h.goto t (.done .noStatement) rfl rfl rfl
  · split
    · dsimp only
      split
      · exact h.goto t (.finish u _) rfl rfl rfl
      · exact h.goto t (.write u _) rfl rfl rfl
    · exact h.goto t (.done _) rfl rfl rfl

theorem push (h : s.Ready) (t : Task) (steps : List Step) (next : Control) : (s.push t steps next).Ready := by
  cases steps <;> exact h.same (numbers_put s _) rfl rfl

theorem call (h : s.Ready) (t : Task) (u : Use) (c : Call) (next : Control) : (s.call t u c next).Ready := by
  unfold Session.call
  dsimp only
  split
  · split
    · have hnone : ({ s.record (.called u.statement c) with hook := none } : Session).Ready := h.same rfl rfl rfl
      exact hnone.push ..
    · exact h.goto t next rfl rfl rfl
  · exact h.goto t next rfl rfl rfl

theorem send (h : s.Ready) (t : Task) (u : Use) (sql : String) : (s.send t u sql).Ready := by
  unfold Session.send
  split
  · exact h.goto t (.finish u _) rfl rfl rfl
  · exact h.goto t (.read u sql) rfl rfl rfl

theorem finish (h : s.Ready) (hq : s.Queued) (t : Task) (u : Use) (outcome : Except Raised Outcome) :
    (s.finish t u outcome).Ready := by
  unfold Session.finish
  dsimp only [record, setStage]
  cases hheld : s.claim.held with
  | false =>
    rw [Claim.release, if_neg (by simp [hheld])]
    exact h.goto t (.done notHeld) rfl rfl rfl
  | true =>
    rw [Claim.release_eq hheld]
    refine h.wake hq (numbers_put s _) (fun m _ he => ?_) _ rfl fun m hm => ?_
    · exact (Claim.asleep_of_wakeFirst he).1
    · have hwoken : ({ s.claim with held := false } : Claim).wakeFirst.2 = some m := hm
      have hasleep := Claim.waiting?_of_wakeFirst hwoken
      exact ⟨hasleep, fun he => (Claim.asleep_of_wakeFirst he).2 hwoken⟩

theorem conclude (h : s.Ready) (hhead : s.ready.head? = some t.number) (answer : Answer) :
    (s.conclude t answer).Ready := by
  unfold Session.conclude
  split
  · refine h.yield hhead (fun m hm hne => ?_) (fun m _ _ => id) none (List.append_nil _).symm nofun
    obtain ⟨u, hu, rfl⟩ := List.mem_map.mp (h.present m hm)
    have hkept : u ∈ s.tasks.filter (·.number != t.number) := List.mem_filter.mpr ⟨hu, by simpa using hne⟩
    exact List.mem_map_of_mem hkept
  · have hrecord : (s.record (.nested answer)).Ready := h.same rfl rfl rfl
    exact hrecord.push ..

theorem move (h : s.Ready) (hs : s.Sound) (ht : s.task? t.number = some t)
    (hhead : s.ready.head? = some t.number) : (s.move t).Ready := by
  unfold Session.move
  split
  · exact h.start hs.queued ht ‹_›
  · exact h.request hs.queued ht hhead _
  · exact h.resume hs.queued t _
  · exact h.beginUse t _ _
  · exact h.call t _ _ _
  · exact h.send t _ _
  · exact h.call t _ _ _
  · exact h.goto t (.finish _ _) rfl rfl rfl
  · exact h.finish hs.queued t _ _
  · exact h.conclude hhead _

theorem launch (h : s.Ready) (hq : s.Queued) {number : Nat} (hnew : s.task? number = none) (step : Step) :
    (s.launch number step).Ready := by
  have hnot : number ∉ s.tasks.map (·.number) := task?_eq_none.mp hnew
  have hnumbers : (s.launch number step).tasks.map (·.number) = s.tasks.map (·.number) ++ [number] :=
    List.map_append
  refine ⟨?_, fun n hn => ?_, fun n hn => ?_⟩
  · have hfresh : number ∉ s.ready := fun hr => hnot (h.present number hr)
    simpa [Session.launch, List.concat_eq_append] using h.nodup.concat hfresh
  · rw [hnumbers]
    rcases List.mem_append.mp hn with hn | hn
    · exact List.mem_append_left _ (h.present n hn)
    · exact List.mem_append_right _ hn
  · rcases List.mem_append.mp hn with hn | hn
    · exact h.awake n hn
    · obtain rfl := List.mem_singleton.mp hn
      exact fun he => hnot (present_of_asleep hq he)

end Ready

theorem running_eq_some (h : s.running = some t) :
    s.task? t.number = some t ∧ s.ready.head? = some t.number := by
  obtain ⟨n, hn, ht⟩ := Option.bind_eq_some_iff.mp h
  obtain rfl := number_of_task? ht
  exact ⟨ht, hn⟩

/-- Making moves until no task is ready is one order in which they can be made. -/
theorem settle_follows (hs : s.Sound) (h : s.Ready) (k : Nat) :
    (∃ hs', s.settle k = s.follow hs') ∧ (s.settle k).Ready ∧
      ∀ n ∈ (s.settle k).tasks.map (·.number), n ∈ s.tasks.map (·.number) := by
  induction k generalizing s with
  | zero => exact ⟨⟨[], rfl⟩, h, fun _ => id⟩
  | succ k ih =>
    unfold settle
    cases hr : s.running with
    | none => exact ⟨⟨[], rfl⟩, h, fun _ => id⟩
    | some t =>
      obtain ⟨ht, hhead⟩ := running_eq_some hr
      have hm : s.canMove t = true := h.canMove (List.mem_of_head? hhead)
      obtain ⟨⟨hs', hfollow⟩, hready, hnumbers⟩ := ih (hs.next (.move ht hm)) (h.move hs ht hhead)
      refine ⟨⟨.move t.number :: hs', ?_⟩, hready, fun n hn => ?_⟩
      · have hmoved : s.happen (.move t.number) = s.move t := happen_move ht hm
        rw [follow, List.foldl_cons, hmoved]
        exact hfollow
      · exact mem_numbers_move ht (hnumbers n hn)

theorem take_follows (hs : s.Sound) (h : s.Ready) {number : Nat} (hnew : s.task? number = none) {step : Step}
    (hstep : step.claims = true) :
    (∃ hs', s.take number step = s.follow hs') ∧ (s.take number step).Ready ∧
      ∀ n ∈ (s.take number step).tasks.map (·.number), n ∈ s.tasks.map (·.number) ∨ n = number := by
  have hsound : (s.launch number step).Sound := hs.next (.launch hnew hstep)
  obtain ⟨⟨hs', hfollow⟩, hready, hnumbers⟩ :=
    settle_follows hsound (h.launch hs.queued hnew step) (s.launch number step).budget
  refine ⟨⟨.launch number step :: hs', ?_⟩, hready, fun n hn => ?_⟩
  · rw [follow, List.foldl_cons, happen_launch hnew hstep]
    exact hfollow
  · have hn' := hnumbers n hn
    rw [Session.launch, List.map_append, List.mem_append] at hn'
    exact hn'.imp id List.mem_singleton.mp

/-- Every session of a script whose statements are all made with the claim is
reached by things that happen in some order. -/
theorem run_follows (hs : s.Sound) (h : s.Ready) {number : Nat}
    (hnumbers : ∀ n ∈ s.tasks.map (·.number), n < number) {steps : List Step} (hsteps : stepsClaim steps = true) :
    ∀ p ∈ s.run number steps, ∃ hs', p.1 = s.follow hs' := by
  induction steps generalizing s number with
  | nil => exact fun p hp => absurd hp List.not_mem_nil
  | cons step steps ih =>
    obtain ⟨hstep, hsteps⟩ := stepsClaim_cons.mp hsteps
    have hnew : s.task? number = none := task?_eq_none.mpr fun hn => Nat.lt_irrefl _ (hnumbers number hn)
    obtain ⟨⟨hs₁, hfollow⟩, hready, hbelow⟩ := take_follows hs h hnew hstep
    intro p hp
    rcases List.mem_cons.mp hp with rfl | hp
    · exact ⟨hs₁, hfollow⟩
    · have hsound : (s.take number step).Sound := hfollow ▸ hs.follow hs₁
      have hnext : ∀ n ∈ (s.take number step).tasks.map (·.number), n < number + 1 := by
        intro n hn
        rcases hbelow n hn with hn | rfl
        · exact Nat.lt_succ_of_lt (hnumbers n hn)
        · exact Nat.lt_succ_self n
      obtain ⟨hs₂, he⟩ := ih hsound hready hnext hsteps p hp
      exact ⟨hs₁ ++ hs₂, by rw [he, hfollow, follow_append]⟩

theorem run_sound (mode : Mode) (config : Config) (number : Nat) {steps : List Step}
    (hsteps : stepsClaim steps = true) : ∀ p ∈ (Session.opened mode config).run number steps, p.1.Sound := by
  intro p hp
  obtain ⟨hs', he⟩ :=
    run_follows (.opened mode config) (.opened mode config) (by simp [Session.opened]) hsteps p hp
  rw [he]
  exact (Sound.opened mode config).follow hs'

end Prepared.Session
