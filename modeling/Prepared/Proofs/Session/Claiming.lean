import Prepared.Proofs.Session.Move

/-!
# Steps that are still to be taken

Tasks and the transport hold steps for later. None of these makes a statement
without the claim, and what a task goes on with after them is a use.
-/

namespace Prepared

structure Task.Claiming (t : Task) : Prop where
  control : ∀ step, t.control = .start step → step.claims = true
  frames : ∀ f ∈ t.frames, f.next.use?.isSome = true ∧ stepsClaim f.rest = true

theorem stepsClaim_cons {step : Step} {steps : List Step} :
    stepsClaim (step :: steps) = true ↔ step.claims = true ∧ stepsClaim steps = true := by
  rw [stepsClaim, Bool.and_eq_true]

theorem Control.not_waiting_of_use {c : Control} (h : c.use?.isSome = true) : c.isWaiting = false := by
  cases c with
  | wait r => cases h
  | _ => rfl

theorem Control.ne_start_of_use {c : Control} (h : c.use?.isSome = true) (step : Step) : c ≠ .start step := by
  rintro rfl
  cases h

theorem Task.Claiming.goto {t : Task} (h : t.Claiming) {control : Control}
    (hs : ∀ step, control ≠ .start step) : ({ t with control } : Task).Claiming :=
  ⟨fun step he => absurd he (hs step), h.frames⟩

namespace Session

structure Claiming (s : Session) : Prop where
  tasks : ∀ t ∈ s.tasks, t.Claiming
  hook : ∀ on steps, s.hook = some (on, steps) → stepsClaim steps = true

variable {s s' : Session} {t : Task}

namespace Claiming

theorem steps (h : s.Claiming) {n : Nat} (ht : s.task? n = some t) :
    ∀ step, t.control = .start step → step.claims = true :=
  (h.tasks t (mem_of_task? ht).1).control

theorem opened (mode : Mode) (config : Config) : (Session.opened mode config).Claiming :=
  ⟨fun _ h => (nomatch h), fun _ _ h => nomatch h⟩

theorem put (h : s.Claiming) (t' : Task) (ht : t'.Claiming) (tasks : s'.tasks = (s.put t').tasks)
    (hook : ∀ on steps, s'.hook = some (on, steps) → s.hook = some (on, steps) ∨ stepsClaim steps = true) :
    s'.Claiming := by
  refine ⟨fun u hu => ?_, fun on steps hs => (hook on steps hs).elim (h.hook on steps) id⟩
  rw [tasks] at hu
  rcases mem_put hu with rfl | hu
  · exact ht
  · exact h.tasks u hu

theorem goto (h : s.Claiming) (ht : t ∈ s.tasks) (control : Control) (hs : ∀ step, control ≠ .start step)
    (tasks : s'.tasks = (s.goto t control).tasks) (hook : s'.hook = s.hook) : s'.Claiming :=
  h.put { t with control } ((h.tasks t ht).goto hs) tasks fun _ _ he => Or.inl (hook ▸ he)

theorem passes (h : s.Claiming) (ht : t ∈ s.tasks) (hs : s.Passes t s')
    (hook : ∀ on steps, s'.hook = some (on, steps) → s.hook = some (on, steps) ∨ stepsClaim steps = true) :
    s'.Claiming := by
  obtain ⟨control, -, hstart, tasks, -⟩ := hs
  exact h.put { t with control } ((h.tasks t ht).goto hstart) tasks hook

theorem cancel (h : s.Claiming) {target : Task} (hm : target ∈ s.tasks) : (s.cancel target).Claiming := by
  unfold Session.cancel
  split
  · exact ⟨h.tasks, h.hook⟩
  · have := h.tasks target hm
    exact h.put { target with cancelled := true } ⟨this.control, this.frames⟩ rfl fun _ _ => Or.inl

theorem hook_start (s : Session) (t : Task) {step : Step} (hstep : step.claims = true) (on : Call)
    (steps : List Step) (h : (s.start t step).hook = some (on, steps)) :
    s.hook = some (on, steps) ∨ stepsClaim steps = true := by
  cases step with
  | make => cases hstep
  | hook c on' steps' =>
    obtain ⟨-, rfl⟩ := Prod.mk.inj (Option.some.inj h)
    exact Or.inr hstep
  | change c =>
    change (if c.dropsHook then none else s.hook) = some (on, steps) at h
    split at h
    · cases h
    · exact Or.inl h
  | prepare name sql settings =>
    simp only [Session.start] at h
    split at h <;> exact Or.inl h
  | use name purpose values =>
    simp only [Session.start] at h
    split at h <;> exact Or.inl h
  | cancel number =>
    simp only [Session.start, Session.cancel] at h
    split at h
    · exact Or.inl h
    · split at h <;> exact Or.inl h
  | direct | close | details | operation => exact Or.inl h

theorem start (h : s.Claiming) (ht : s.task? t.number = some t) {step : Step} (hc : t.control = .start step) :
    (s.start t step).Claiming := by
  have hmem := (mem_of_task? ht).1
  have hstep := h.steps ht step hc
  rcases start_cases ht hc with hs | ⟨target, t', -, hm, ht', -, -, -, he⟩ | ⟨_, _, _, _, rfl, -⟩
  · exact h.passes hmem hs (hook_start s t hstep)
  · rw [he]
    exact (h.cancel (mem_of_task? hm).1).goto (mem_of_task? ht').1 (.done (.cancelled true)) nofun rfl rfl
  · cases hstep

theorem grant (h : s.Claiming) (ht : t ∈ s.tasks) (r : Request) (claim : Claim) :
    (s.grant t r claim).Claiming := by
  cases r with
  | keep name sql config => exact h.goto ht (.done _) nofun rfl rfl
  | direct purpose sql values => exact h.goto ht (.begin _ _) nofun rfl rfl

theorem request (h : s.Claiming) (ht : t ∈ s.tasks) (r : Request) : (s.request t r).Claiming := by
  unfold Session.request
  split
  · exact h.grant ht r _
  · split
    · exact h.goto ht (.done .blocked) nofun rfl rfl
    · dsimp only
      split
      · exact h.put { t with control := .wait r, cancelled := false } ⟨nofun, (h.tasks t ht).frames⟩ rfl
          fun _ _ => Or.inl
      · exact h.goto ht (.wait r) nofun rfl rfl

theorem resume (h : s.Claiming) (ht : t ∈ s.tasks) (r : Request) : (s.resume t r).Claiming := by
  unfold Session.resume
  dsimp only
  split
  · exact h.grant ht r _
  · exact h.put { t with control := .done cancelledAnswer, cancelled := false }
      ⟨nofun, (h.tasks t ht).frames⟩ rfl fun _ _ => Or.inl

theorem beginUse (h : s.Claiming) (ht : t ∈ s.tasks) (u : Use) (values : List Value) :
    (s.beginUse t u values).Claiming := by
  unfold Session.beginUse
  split
  · exact h.passes ht (passes_done s t _) fun _ _ => Or.inl
  · split
    · dsimp only
      split
      · rename_i r _
        exact h.goto ht (.finish u (.error r)) nofun rfl rfl
      · rename_i sql _
        exact h.goto ht (.write u sql) nofun rfl rfl
    · exact h.passes ht (passes_done s t _) fun _ _ => Or.inl

theorem push (h : s.Claiming) (t : Task)
    (hf : ∀ f ∈ t.frames, f.next.use?.isSome = true ∧ stepsClaim f.rest = true) {steps : List Step}
    (hs : stepsClaim steps = true) {next : Control} (hn : next.use?.isSome = true) :
    (s.push t steps next).Claiming := by
  cases steps with
  | nil =>
    have hstart : ∀ step, next ≠ .start step := next.ne_start_of_use hn
    exact h.put { t with control := next } ⟨fun step he => absurd he (hstart step), hf⟩ rfl fun _ _ => Or.inl
  | cons step rest =>
    obtain ⟨hstep, hrest⟩ := stepsClaim_cons.mp hs
    refine h.put { t with control := .start step, frames := ⟨rest, next⟩ :: t.frames }
      ⟨fun step' he => ?_, fun f hm => ?_⟩ rfl fun _ _ => Or.inl
    · obtain rfl := Control.start.inj he
      exact hstep
    · rcases List.mem_cons.mp hm with rfl | hm
      · exact ⟨hn, hrest⟩
      · exact hf f hm

theorem call (h : s.Claiming) (ht : t ∈ s.tasks) (u : Use) (c : Call) {next : Control}
    (hn : next.use?.isSome = true) : (s.call t u c next).Claiming := by
  have hgoto : ((s.record (.called u.statement c)).goto t next).Claiming :=
    h.goto ht next (next.ne_start_of_use hn) rfl rfl
  have hnone : ({ s.record (.called u.statement c) with hook := none } : Session).Claiming :=
    ⟨h.tasks, nofun⟩
  unfold Session.call
  dsimp only
  split
  · rename_i on steps hook
    split
    · exact hnone.push t (h.tasks t ht).frames (h.hook on steps hook) hn
    · exact hgoto
  · exact hgoto

theorem conclude (h : s.Claiming) (ht : t ∈ s.tasks) (answer : Answer) : (s.conclude t answer).Claiming := by
  unfold Session.conclude
  split
  · exact ⟨fun u hu => h.tasks u (List.mem_filter.mp hu).1, h.hook⟩
  · rename_i rest next frames hframes
    have hf := (h.tasks t ht).frames
    rw [hframes] at hf
    have hfirst := hf ⟨rest, next⟩ (by simp)
    have hrecord : (s.record (.nested answer)).Claiming := ⟨h.tasks, h.hook⟩
    exact hrecord.push { t with frames } (fun f hm => hf f (by simp [hm])) hfirst.2 hfirst.1

theorem move (h : s.Claiming) (ht : s.task? t.number = some t) : (s.move t).Claiming := by
  have hmem := (mem_of_task? ht).1
  unfold Session.move
  split
  · exact h.start ht ‹_›
  · exact h.request hmem _
  · exact h.resume hmem _
  · exact h.beginUse hmem _ _
  · exact h.call hmem _ _ rfl
  · rename_i u sql _
    unfold Session.send
    split
    · rename_i r _
      exact h.goto hmem (.finish u (.error r)) nofun rfl rfl
    · exact h.goto hmem (.read u sql) nofun rfl rfl
  · exact h.call hmem _ _ rfl
  · exact h.goto hmem (.finish _ _) nofun rfl rfl
  · unfold Session.finish
    dsimp only
    split
    · exact h.goto hmem (.done notHeld) nofun rfl rfl
    · exact h.goto hmem (.done _) nofun rfl rfl
  · exact h.conclude hmem _

theorem launch (h : s.Claiming) (number : Nat) {step : Step} (hs : step.claims = true) :
    (s.launch number step).Claiming := by
  refine ⟨fun u hu => ?_, h.hook⟩
  rcases List.mem_append.mp hu with hu | hu
  · exact h.tasks u hu
  · obtain rfl := List.mem_singleton.mp hu
    refine ⟨fun step' he => ?_, fun f hf => absurd hf List.not_mem_nil⟩
    obtain rfl := Control.start.inj he
    exact hs

end Claiming
end Session
end Prepared
