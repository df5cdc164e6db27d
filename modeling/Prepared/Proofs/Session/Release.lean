import Prepared.Proofs.Session.Exclusion

/-!
# Release

A call that begins to use a statement ends by giving the claim back, once,
whatever comes of the rewriting and whatever the transport does. From its
beginning the task is in the middle of the use, with nothing given back, until
the move in which the use finishes. Every move of its own brings it closer to
that, unless the transport takes steps first.
-/

namespace Prepared

def Happening.moves (task : Nat) : Happening → Bool
  | .move n => n == task
  | _ => false

def Control.left : Control → Nat
  | .write .. => 5
  | .send .. => 4
  | .read .. => 3
  | .receive .. => 2
  | .finish .. => 1
  | _ => 0

namespace Session

/-- The transport has no steps for the middle of a call while these things happen. -/
def Undisturbed (s : Session) : List Happening → Prop
  | [] => True
  | e :: hs => s.hook = none ∧ (s.happen e).Undisturbed hs

structure InCall (before : Session) (task : Nat) (u : Use) (s : Session) : Prop where
  task : ∃ t, s.task? task = some t ∧ u ∈ t.uses
  releases : s.releases = before.releases

structure CallEnded (before : Session) (task : Nat) (u : Use) (s : Session) : Prop where
  answered : ∃ t answer, s.task? task = some t ∧ t.control = .done answer
  idle : s.stage? u.statement = some .idle
  released : s.releases = before.releases ++ [(u.statement, true)]
  free : s.claim.held = false

def Ends (before begun : Session) (task : Nat) (u : Use) (hs : List Happening) : Prop :=
  ∃ hs₁ hs₂, hs = hs₁ ++ hs₂ ∧ CallEnded before task u (begun.follow hs₁)

variable {s s' before : Session} {t t' : Task} {n : Nat} {u : Use}

/-! ## What gives the claim back -/

structure Kept (s s' : Session) : Prop where
  mode : s'.mode = s.mode
  releases : s'.releases = s.releases

theorem Kept.trans {s₁ s₂ s₃ : Session} (h : s₁.Kept s₂) (h' : s₂.Kept s₃) : s₁.Kept s₃ :=
  ⟨h'.mode.trans h.mode, h'.releases.trans h.releases⟩

theorem kept_record (s : Session) {e : Event} (he : e.release? = none) : s.Kept (s.record e) :=
  ⟨rfl, by rw [releases_record, he]; exact List.append_nil _⟩

theorem kept_cancel (s : Session) (target : Task) : s.Kept (s.cancel target) := by
  unfold cancel
  split <;> exact ⟨rfl, rfl⟩

theorem kept_grant (s : Session) (t : Task) (r : Request) (claim : Claim) : s.Kept (s.grant t r claim) := by
  cases r <;> exact ⟨rfl, releases_log ..⟩

theorem kept_push (s : Session) (t : Task) (steps : List Step) (next : Control) :
    s.Kept (s.push t steps next) := by
  cases steps <;> exact ⟨rfl, rfl⟩

theorem kept_call (s : Session) (t : Task) (u : Use) (c : Call) (next : Control) :
    s.Kept (s.call t u c next) := by
  have hrecord : s.Kept (s.record (.called u.statement c)) := kept_record s rfl
  unfold call
  dsimp only
  split
  · split
    · have hnone : s.Kept { s.record (.called u.statement c) with hook := none } :=
        ⟨hrecord.mode, hrecord.releases⟩
      exact hnone.trans (kept_push ..)
    · exact ⟨hrecord.mode, hrecord.releases⟩
  · exact ⟨hrecord.mode, hrecord.releases⟩

/-- Only a use that finishes gives the claim back. -/
theorem kept_move (ht : s.task? t.number = some t)
    (hf : ∀ u outcome, t.control ≠ .finish u outcome) : s.Kept (s.move t) := by
  unfold move
  split
  · rename_i step hc
    rcases start_cases ht hc with ⟨_, -, -, -, hl⟩ | ⟨target, t', -, -, -, -, -, -, he⟩ | ⟨_, _, _, _, -, he⟩
    · exact ⟨hl.mode, hl.releases⟩
    · have hcancel := kept_cancel s target
      rw [he]
      exact ⟨hcancel.mode, hcancel.releases⟩
    · rw [he]
      exact ⟨rfl, releases_log ..⟩
  · unfold request
    split
    · exact kept_grant ..
    · split
      · exact ⟨rfl, releases_log ..⟩
      · dsimp only
        split <;> exact ⟨rfl, rfl⟩
  · unfold resume
    dsimp only
    split
    · exact kept_grant ..
    · exact ⟨rfl, rfl⟩
  · unfold beginUse
    split
    · exact ⟨rfl, rfl⟩
    · split
      · dsimp only
        split <;> exact ⟨rfl, releases_log ..⟩
      · exact ⟨rfl, rfl⟩
  · exact kept_call ..
  · unfold send
    split
    · exact ⟨rfl, releases_log ..⟩
    · exact ⟨rfl, (kept_record s rfl).releases⟩
  · exact kept_call ..
  · exact ⟨rfl, rfl⟩
  · rename_i hc
    exact absurd hc (hf _ _)
  · unfold conclude
    split
    · exact ⟨rfl, (kept_record s rfl).releases⟩
    · exact (kept_record s rfl).trans (kept_push ..)

theorem mode_move (ht : s.task? t.number = some t) :
    (s.move t).mode = s.mode := by
  by_cases hf : ∃ u outcome, t.control = .finish u outcome
  · obtain ⟨u, outcome, hc⟩ := hf
    rw [move, hc]
    dsimp only
    unfold finish
    dsimp only
    split <;> rfl
  · exact (kept_move ht fun u outcome hc => hf ⟨u, outcome, hc⟩).mode

/-! ## The end of a call -/

theorem mem_uses_of_task (ht : s.task? n = some t) (hu : u ∈ t.uses) : u ∈ s.uses := by
  obtain ⟨c, hc, hcu⟩ := List.mem_filterMap.mp hu
  exact List.mem_filterMap.mpr ⟨c, List.mem_flatMap.mpr ⟨t, (mem_of_task? ht).1, hc⟩, hcu⟩

theorem eq_number_of_uses (h : s.Exclusive) (hn : (s.tasks.map (·.number)).Nodup)
    (ht : s.task? t.number = some t) {v : Use} (hv : t.control.use? = some v) (ht' : s.task? n = some t')
    (hu : u ∈ t'.uses) : n = t.number := by
  by_contra hne
  -- Without the first task nobody would be in a use, and the second one still is.
  have hnil : (s.goto t (.done notHeld)).uses = [] := by
    rw [uses, h.underway_goto hn ht hv]
    rfl
  have hother : (s.goto t (.done notHeld)).task? n = some t' := by
    rw [goto, task?_put, if_neg hne, ht']
  have hmem := mem_uses_of_task hother hu
  rw [hnil] at hmem
  cases hmem

theorem callEnded_finish (hs : s.Sound) (ht : s.task? t.number = some t) {outcome : Except Raised Outcome}
    (hc : t.control = .finish u outcome) (hreleases : s.releases = before.releases) :
    CallEnded before t.number u (s.finish t u outcome) := by
  have hu : u ∈ s.uses := mem_uses_of_task ht (by rw [t.uses_eq, hc]; exact List.mem_cons_self)
  have hheld := hs.exclusive.held_of_mem_uses hu
  obtain ⟨tasks, statements, claim, released⟩ := finish_of_held hheld t u outcome
  refine ⟨⟨{ t with control := .done (.ofOutcome outcome) }, .ofOutcome outcome, ?_, rfl⟩, ?_, ?_, ?_⟩
  · exact task?_goto ht _ tasks
  · have hstage : (s.finish t u outcome).stage? u.statement =
        (s.setStage u.statement .idle).stage? u.statement := by
      rw [stage?, stage?, statements]
    rw [hstage, stage?_setStage, if_pos rfl, hs.exclusive.executing u hu]
    rfl
  · rw [released, hreleases]
  · rw [claim, Claim.held_wakeFirst]

theorem InCall.move (hs : s.Sound) (h : InCall before t.number u s) (ht : s.task? t.number = some t) :
    InCall before t.number u (s.move t) ∨ CallEnded before t.number u (s.move t) := by
  obtain ⟨t₀, ht₀, hu⟩ := h.task
  obtain rfl := Option.some.inj (ht.symm.trans ht₀)
  by_cases hf : ∃ v outcome, t.control = .finish v outcome
  · obtain ⟨v, outcome, hc⟩ := hf
    -- No other use waits below the one that finishes, so it is this one.
    obtain ⟨-, hframes, -⟩ := hs.exclusive.alone hs.queued.numbers ht (u := v) (by rw [hc]; rfl)
    have huses : t.uses = [v] := by
      rw [Task.uses, t.underway_of_frames hframes, hc]
      rfl
    obtain rfl := List.mem_singleton.mp (huses ▸ hu)
    right
    rw [Session.move, hc]
    exact callEnded_finish hs ht hc h.releases
  · have hne : ∀ v outcome, t.control ≠ .finish v outcome := fun v outcome hc => hf ⟨v, outcome, hc⟩
    refine Or.inl ⟨?_, (kept_move ht hne).releases.trans h.releases⟩
    refine (mem_uses_move ht hu).resolve_right ?_
    rintro ⟨outcome, hc⟩
    exact hne u outcome hc

theorem steady (hs : s.Sound) (ht : s.task? n = some t) (hu : u ∈ t.uses) {e : Happening}
    (he : e.moves n = false) :
    (∃ t', (s.happen e).task? n = some t' ∧ t'.control = t.control ∧ t'.frames = t.frames) ∧
      (s.happen e).releases = s.releases := by
  have hne : e ≠ .move n := by
    rintro rfl
    simp [Happening.moves] at he
  have hcomes := comes_happen s e
  refine ⟨hcomes.task? ht hne, ?_⟩
  generalize s.happen e = s' at hcomes
  cases hcomes with
  | @move v hm =>
    refine (kept_move hm fun w outcome hc => hne ?_).releases
    have huse : v.control.use? = some w := by rw [hc]; rfl
    rw [eq_number_of_uses hs.exclusive hs.queued.numbers hm huse ht hu]
  | @cancel target => exact (kept_cancel s target).releases
  | _ => rfl

theorem eq_move_of_moves {e : Happening} (he : e.moves n = true) : e = .move n := by
  cases e with
  | move m => rw [eq_of_beq he]
  | _ => cases he

theorem InCall.happen (hs : s.Sound) (h : InCall before n u s) (e : Happening) :
    InCall before n u (s.happen e) ∨ CallEnded before n u (s.happen e) := by
  obtain ⟨t, ht, hu⟩ := h.task
  by_cases he : e.moves n = true
  · obtain rfl := eq_move_of_moves he
    obtain rfl := number_of_task? ht
    by_cases hm : s.canMove t = true
    · rw [happen_move ht hm]
      exact h.move hs ht
    · simp only [Session.happen, ht, hm]
      exact Or.inl h
  · obtain ⟨⟨t', ht', hc, hf⟩, hreleases⟩ := steady hs ht hu (by simpa using he)
    have huses : t'.uses = t.uses := Task.uses_of_use (by rw [hc]) hf
    exact Or.inl ⟨⟨t', ht', huses ▸ hu⟩, hreleases.trans h.releases⟩

theorem InCall.follow (hs : s.Sound) (h : InCall before n u s) (hs' : List Happening) :
    InCall before n u (s.follow hs') ∨ Ends before s n u hs' := by
  induction hs' generalizing s with
  | nil => exact Or.inl h
  | cons e hs' ih =>
    rcases h.happen hs e with hin | hended
    · rcases ih (hs.next (next_happen s e)) hin with hin | ⟨hs₁, hs₂, rfl, hended⟩
      · exact Or.inl hin
      · exact Or.inr ⟨e :: hs₁, hs₂, rfl, hended⟩
    · exact Or.inr ⟨[e], hs', rfl, hended⟩

/-! ## Getting there -/

theorem call_undisturbed (hhook : s.hook = none) (t : Task) (u : Use) (c : Call) (next : Control) :
    s.call t u c next = (s.record (.called u.statement c)).goto t next := by
  have hrecord : (s.record (.called u.statement c)).hook = none := hhook
  unfold call
  dsimp only
  rw [hrecord]

theorem move_undisturbed (ht : s.task? t.number = some t) (hhook : s.hook = none) (hu : t.control.use? = some u)
    (hf : ∀ v outcome, t.control ≠ .finish v outcome) :
    ∃ t', (s.move t).task? t.number = some t' ∧ t'.control.use? = some u ∧
      t'.control.left < t.control.left := by
  cases hc : t.control with
  | write v sql =>
    refine ⟨{ t with control := .send v sql }, ?_, by rw [← hu, hc]; rfl, by simp [Control.left]⟩
    rw [move, hc]
    dsimp only
    rw [call_undisturbed hhook]
    exact task?_goto ht (.send v sql) rfl
  | send v sql =>
    rw [move, hc]
    dsimp only
    unfold send
    split
    · rename_i r _
      exact ⟨{ t with control := .finish v (.error r) }, task?_goto ht _ rfl, by rw [← hu, hc]; rfl,
        by simp [Control.left]⟩
    · exact ⟨{ t with control := .read v sql }, task?_goto ht _ rfl, by rw [← hu, hc]; rfl,
        by simp [Control.left]⟩
  | read v sql =>
    refine ⟨{ t with control := .receive v sql }, ?_, by rw [← hu, hc]; rfl, by simp [Control.left]⟩
    rw [move, hc]
    dsimp only
    rw [call_undisturbed hhook]
    exact task?_goto ht (.receive v sql) rfl
  | receive v sql =>
    rw [move, hc]
    exact ⟨_, task?_goto ht (.finish v _) rfl, by rw [← hu, hc]; rfl, by simp [Control.left]⟩
  | finish v outcome => exact absurd hc (hf v outcome)
  | _ =>
    rw [hc] at hu
    cases hu

theorem canMove_of_use (hu : t.control.use? = some u) : s.canMove t = true := by
  unfold canMove
  split
  · rename_i hc
    rw [hc] at hu
    cases hu
  · rfl

theorem left_pos {control : Control} (hu : control.use? = some u) : 0 < control.left := by
  cases control with
  | write | send | read | receive | finish => simp [Control.left]
  | _ => cases hu

theorem closer (hs : s.Sound) (ht : s.task? t.number = some t) (hu : t.control.use? = some u)
    (hhook : s.hook = none) (hreleases : s.releases = before.releases) :
    CallEnded before t.number u (s.move t) ∨
      ∃ t', (s.move t).task? t.number = some t' ∧ t'.control.use? = some u ∧
        t'.control.left < t.control.left ∧ (s.move t).releases = before.releases := by
  by_cases hf : ∃ v outcome, t.control = .finish v outcome
  · obtain ⟨v, outcome, hc⟩ := hf
    obtain rfl : v = u := by
      rw [hc] at hu
      exact Option.some.inj hu
    left
    rw [Session.move, hc]
    exact callEnded_finish hs ht hc hreleases
  · have hne : ∀ v outcome, t.control ≠ .finish v outcome := fun v outcome hc => hf ⟨v, outcome, hc⟩
    obtain ⟨t', ht', hu', hless⟩ := move_undisturbed ht hhook hu hne
    exact Or.inr ⟨t', ht', hu', hless, (kept_move ht hne).releases.trans hreleases⟩

theorem ended_of_moves (hs : s.Sound) (ht : s.task? n = some t) (hu : t.control.use? = some u)
    (hreleases : s.releases = before.releases) {hs' : List Happening} (hquiet : s.Undisturbed hs')
    (hleft : t.control.left ≤ hs'.countP (Happening.moves n)) : Ends before s n u hs' := by
  -- The moves of the task that are still to come are never fewer than those left in its use.
  induction hs' generalizing s t with
  | nil =>
    have hpos := left_pos hu
    simp only [List.countP_nil] at hleft
    omega
  | cons e hs' ih =>
    obtain ⟨hhook, hquiet⟩ := hquiet
    have hsound : (s.happen e).Sound := hs.next (next_happen s e)
    by_cases he : e.moves n = true
    · obtain rfl := eq_move_of_moves he
      obtain rfl := number_of_task? ht
      have hmoved : s.happen (.move t.number) = s.move t := happen_move ht (canMove_of_use hu)
      rcases closer hs ht hu hhook hreleases with hended | ⟨t', ht', hu', hless, hreleases'⟩
      · rw [← hmoved] at hended
        exact ⟨[.move t.number], hs', rfl, hended⟩
      · rw [List.countP_cons_of_pos he] at hleft
        rw [← hmoved] at ht' hreleases'
        obtain ⟨hs₁, hs₂, rfl, hended⟩ := ih hsound ht' hu' hreleases' hquiet (by omega)
        exact ⟨.move t.number :: hs₁, hs₂, rfl, hended⟩
    · have hmem : u ∈ t.uses := by
        rw [t.uses_eq, hu]
        exact List.mem_append_left _ (by simp)
      obtain ⟨⟨t', ht', hc, -⟩, hreleases'⟩ := steady hs ht hmem (by simpa using he)
      rw [List.countP_cons_of_neg he, ← hc] at hleft
      obtain ⟨hs₁, hs₂, rfl, hended⟩ :=
        ih hsound ht' (by rw [hc]; exact hu) (hreleases'.trans hreleases) hquiet hleft
      exact ⟨e :: hs₁, hs₂, rfl, hended⟩

theorem begun (ht : s.task? t.number = some t) {values : List Value} (hc : t.control = .begin u values)
    (hp : s.stage? u.statement = some .prepared) :
    ∃ t', (s.move t).task? t.number = some t' ∧ t'.control.use? = some u ∧ t'.control.left ≤ 5 := by
  obtain ⟨st, hst, hprepared⟩ := Option.map_eq_some_iff.mp hp
  rw [move, hc]
  dsimp only
  unfold beginUse
  rw [hst]
  dsimp only
  rw [if_pos hprepared]
  split
  · exact ⟨_, task?_goto ht (.finish u _) rfl, rfl, by simp [Control.left]⟩
  · exact ⟨_, task?_goto ht (.write u _) rfl, rfl, by simp [Control.left]⟩

/-! ## The next caller -/

def Prepares (s : Session) : Prop :=
  ∀ (n : Nat) (name sql : String) (settings : Settings) (config : Option Config), s.task? n = none →
    configOf settings = .ok config →
      let s' := s.follow [.launch n (.prepare name sql settings), .move n, .move n]
      s'.claim.held = true ∧
        ∃ t count inherits, s'.task? n = some t ∧ t.control = .done (.prepared count inherits)

theorem asks (name sql : String) {settings : Settings} {config : Option Config} (hn : s.task? n = none)
    (hconfig : configOf settings = .ok config) :
    let s' := s.follow [.launch n (.prepare name sql settings), .move n]
    s'.claim = s.claim ∧ ∃ t, s'.task? n = some t ∧ t.control = .claim (.keep name sql config) := by
  intro s'
  have ht : (s.launch n (.prepare name sql settings)).task? n =
      some { number := n, control := .start (.prepare name sql settings) } := by
    rw [task?_launch, hn, if_pos rfl]
    rfl
  have hs' : s' = (s.launch n (.prepare name sql settings)).goto
      { number := n, control := .start (.prepare name sql settings) } (.claim (.keep name sql config)) := by
    simp only [s', follow, List.foldl_cons, List.foldl_nil]
    rw [happen_launch hn rfl, happen_move ht rfl]
    simp only [move, start, hconfig]
  rw [hs']
  exact ⟨rfl, _, task?_goto ht _ rfl, rfl⟩

theorem granted {name sql : String} {config : Option Config} (h : s.claim.isOpen = true)
    (ht : s.task? n = some t) (hc : t.control = .claim (.keep name sql config)) :
    (s.happen (.move n)).claim.held = true ∧
      ∃ t' count inherits, (s.happen (.move n)).task? n = some t' ∧
        t'.control = .done (.prepared count inherits) := by
  obtain rfl := number_of_task? ht
  rw [happen_move ht (by simp [canMove, hc]), move, hc]
  dsimp only
  unfold request
  rw [if_pos h]
  exact ⟨rfl, _, _, _, task?_goto ht _ rfl, rfl⟩

theorem prepares_of_isOpen (h : s.claim.isOpen = true) : s.Prepares := by
  intro n name sql settings config hn hconfig s'
  obtain ⟨hclaim, t, ht, hc⟩ := asks name sql hn hconfig
  rw [← hclaim] at h
  exact granted h ht hc

theorem mode_next (h : s.Next s') : s'.mode = s.mode := by
  cases h with
  | same => rfl
  | launch => rfl
  | move ht => exact mode_move ht
  | cancel => exact (kept_cancel ..).mode
  | outside => rfl

theorem mode_follow (mode : Mode) (config : Config) (hs : List Happening) :
    ((Session.opened mode config).follow hs).mode = mode :=
  follow_keeps (fun _ _ h hnext => (mode_next hnext).trans h) rfl hs

/-- A call that begins to use a prepared statement gives the claim back exactly
once. Whatever happens after its beginning, it is still in the middle of the
use, with nothing given back, or it has come to its end. Unless the transport
takes steps in the middle of it, five moves take it there. A blocking caller
that comes next can then prepare a statement. -/
theorem use_releases_once (mode : Mode) (config : Config) (hs : List Happening) {t : Task} {u : Use}
    {values : List Value} (ht : ((Session.opened mode config).follow hs).task? t.number = some t)
    (hc : t.control = .begin u values)
    (hp : ((Session.opened mode config).follow hs).stage? u.statement = some .prepared) :
    let s := (Session.opened mode config).follow hs
    let begun := s.happen (.move t.number)
    (∀ hs', InCall s t.number u (begun.follow hs') ∨ Ends s begun t.number u hs') ∧
      (∀ hs', begun.Undisturbed hs' → 5 ≤ hs'.countP (Happening.moves t.number) → Ends s begun t.number u hs') ∧
      (∀ hs', (begun.follow hs').releases.countP (·.1 == u.statement) ≤ 1) ∧
      ∀ hs', CallEnded s t.number u (begun.follow hs') → mode = .blocking → (begun.follow hs').Prepares := by
  intro s begun
  have hsound : s.Sound := (Sound.opened mode config).follow hs
  have hbegun : begun = s.move t := happen_move ht (by simp [canMove, hc])
  have hsound' : begun.Sound := hsound.next (next_happen s _)
  obtain ⟨t', ht', hu, hleft⟩ := Session.begun ht hc hp
  rw [← hbegun] at ht'
  have hreleases : begun.releases = s.releases := by
    rw [hbegun]
    refine (kept_move ht fun v outcome he => ?_).releases
    rw [hc] at he
    cases he
  refine ⟨fun hs' => ?_, fun hs' hquiet henough => ?_, fun hs' => ?_, fun hs' hended hmode => ?_⟩
  · have hin : InCall s t.number u begun := by
      refine ⟨⟨t', ht', ?_⟩, hreleases⟩
      rw [t'.uses_eq, hu]
      exact List.mem_append_left _ (by simp)
    exact hin.follow hsound' hs'
  · exact ended_of_moves hsound' ht' hu hreleases hquiet (Nat.le_trans hleft henough)
  · rw [(hsound'.follow hs').exclusive.once]
    split <;> omega
  · have hblocking : (begun.follow hs').mode = .blocking := by
      have hrun : begun.follow hs' = (Session.opened mode config).follow (hs ++ .move t.number :: hs') := by
        rw [follow_append]
        rfl
      rw [hrun, mode_follow, hmode]
    have hqueue := (hsound'.follow hs').queued.blocking hblocking
    exact prepares_of_isOpen (Claim.isOpen_iff.mpr ⟨hended.free, by simp [hqueue]⟩)

theorem use_releases_once_direct :
    let s := (Session.opened .blocking {}).follow
      [.launch 0 (.direct .exec "SELECT 1" []), .move 0, .move 0]
    let begun := s.happen (.move 0)
    Ends s begun 0 ⟨0, .exec⟩ (List.replicate 5 (.move 0)) := by
  intro s begun
  obtain ⟨-, hends, -⟩ := use_releases_once .blocking {}
    [.launch 0 (.direct .exec "SELECT 1" []), .move 0, .move 0]
    (t := { number := 0, control := .begin ⟨0, .exec⟩ [] }) rfl rfl rfl
  exact hends (List.replicate 5 (.move 0)) ⟨rfl, rfl, rfl, rfl, rfl, trivial⟩ (by decide)

end Session
end Prepared
