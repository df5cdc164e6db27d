import Mathlib.Data.List.Nodup
import Prepared.Session.Interleaving

/-!
# The tasks of a session

Tasks go by numbers, no two by the same. A task is in the middle of a use when
it writes, reads or finishes, or when a call of such a use waits below it for
the steps that the transport takes. `underway` lists where all tasks stand in
their uses, and most moves leave it as it is.
-/

namespace Prepared

def Control.use? : Control → Option Use
  | .write u _ | .send u _ | .read u _ | .receive u _ | .finish u _ => some u
  | _ => none

def Control.isWaiting : Control → Bool
  | .wait _ => true
  | _ => false

def Task.controls (t : Task) : List Control := t.control :: t.frames.map (·.next)

def Task.underway (t : Task) : List Control := t.controls.filter (·.use?.isSome)

def Task.uses (t : Task) : List Use := t.underway.filterMap Control.use?

theorem Task.uses_eq (t : Task) : t.uses = t.control.use?.toList ++ t.frames.filterMap (·.next.use?) := by
  have hall : t.uses = t.controls.filterMap Control.use? := by
    unfold uses underway
    rw [List.filterMap_filter]
    apply List.filterMap_congr
    intro c _
    cases c.use? <;> rfl
  rw [hall, controls, List.filterMap_cons, List.filterMap_map]
  cases t.control.use? <;> rfl

theorem Task.uses_of_use {t t' : Task} (hu : t'.control.use? = t.control.use?) (hf : t'.frames = t.frames) :
    t'.uses = t.uses := by
  rw [t'.uses_eq, t.uses_eq, hu, hf]

theorem Task.underway_of_not_use {t t' : Task} (hu : t.control.use? = none) (hu' : t'.control.use? = none)
    (hf : t'.frames = t.frames) : t'.underway = t.underway := by
  simp [underway, controls, hu, hu', hf]

theorem Task.mem_uses_of_use {t t' : Task} (hf : t'.frames = t.frames)
    (hu : ∀ v, t.control.use? = some v → t'.control.use? = some v) {v : Use} (hv : v ∈ t.uses) : v ∈ t'.uses := by
  rw [t.uses_eq] at hv
  rw [t'.uses_eq, hf]
  rcases List.mem_append.mp hv with hv | hv
  · rw [hu v (Option.mem_toList.mp hv)]
    exact List.mem_append_left _ (by simp)
  · exact List.mem_append_right _ hv

theorem Task.uses_push (t : Task) (step : Step) (rest : List Step) (next : Control) :
    ({ t with control := .start step, frames := ⟨rest, next⟩ :: t.frames } : Task).uses =
      next.use?.toList ++ t.frames.filterMap (·.next.use?) := by
  rw [Task.uses_eq, List.filterMap_cons]
  cases next.use? <;> rfl

theorem Task.underway_of_frames (t : Task) (hf : ∀ f ∈ t.frames, f.next.use? = none) :
    t.underway = if t.control.use?.isSome then [t.control] else [] := by
  have hnone : (t.frames.map (·.next)).filter (·.use?.isSome) = [] := by
    rw [List.filter_eq_nil_iff]
    intro c hc
    obtain ⟨f, hm, rfl⟩ := List.mem_map.mp hc
    simp [hf f hm]
  rw [underway, controls, List.filter_cons, hnone]

namespace Session

def underway (s : Session) : List Control := s.tasks.flatMap Task.underway

def uses (s : Session) : List Use := s.underway.filterMap Control.use?

variable {s s' : Session} {t t' : Task}

theorem mem_of_task? {n : Nat} (h : s.task? n = some t) : t ∈ s.tasks ∧ t.number = n :=
  ⟨List.mem_of_find?_eq_some h, by simpa using List.find?_some h⟩

theorem number_of_task? {n : Nat} (h : s.task? n = some t) : t.number = n := (mem_of_task? h).2

theorem task?_of_mem (hn : (s.tasks.map (·.number)).Nodup) (ht : t ∈ s.tasks) : s.task? t.number = some t := by
  have hsome : (s.task? t.number).isSome := List.find?_isSome.mpr ⟨t, ht, beq_self_eq_true _⟩
  obtain ⟨u, hu⟩ := Option.isSome_iff_exists.mp hsome
  obtain ⟨hmem, hnumber⟩ := mem_of_task? hu
  obtain rfl := List.inj_on_of_nodup_map hn hmem ht hnumber
  exact hu

theorem task?_congr (h : s'.tasks = s.tasks) (n : Nat) : s'.task? n = s.task? n := by
  rw [task?, task?, h]

theorem task?_eq_none {n : Nat} : s.task? n = none ↔ n ∉ s.tasks.map (·.number) := by
  simp [task?, List.find?_eq_none]

theorem task?_put (s : Session) (t' : Task) (n : Nat) :
    (s.put t').task? n = if n = t'.number then (s.task? n).map fun _ => t' else s.task? n := by
  have hp : ∀ u : Task, ((if u.number = t'.number then t' else u).number == n) = (u.number == n) := by
    intro u
    split
    · rename_i h; rw [h]
    · rfl
  have hf : (s.put t').task? n =
      (s.task? n).map fun u => if u.number = t'.number then t' else u := by
    unfold task? put
    rw [List.find?_map]
    congr 2
    funext u
    exact hp u
  rw [hf]
  cases h : s.task? n with
  | none => simp
  | some u =>
    by_cases hn : n = t'.number <;> simp [number_of_task? h, hn]

theorem task?_put_self (ht : s.task? t.number = some t) (hn : t'.number = t.number) :
    (s.put t').task? t.number = some t' := by
  rw [task?_put, if_pos hn.symm, ht]
  rfl

theorem task?_goto {n : Nat} (ht : s.task? n = some t) (control : Control)
    (tasks : s'.tasks = (s.goto t control).tasks) : s'.task? n = some { t with control } := by
  obtain rfl := number_of_task? ht
  rw [task?_congr tasks]
  exact task?_put_self ht rfl

theorem numbers_put (s : Session) (t' : Task) :
    (s.put t').tasks.map (·.number) = s.tasks.map (·.number) := by
  simp only [put, List.map_map]
  apply List.map_congr_left
  intro u _
  by_cases h : u.number = t'.number <;> simp [h]

theorem mem_put {u : Task} (h : u ∈ (s.put t').tasks) : u = t' ∨ u ∈ s.tasks := by
  obtain ⟨v, hv, rfl⟩ := List.mem_map.mp h
  by_cases hn : v.number = t'.number
  · exact Or.inl (if_pos hn)
  · rw [if_neg hn]
    exact Or.inr hv

theorem task?_launch (s : Session) (number : Nat) (step : Step) (n : Nat) :
    (s.launch number step).task? n =
      (s.task? n).or (if number = n then some { number, control := .start step } else none) := by
  unfold task? launch
  rw [List.find?_append, List.find?_singleton]
  simp

theorem nodup_launch (hn : (s.tasks.map (·.number)).Nodup) {number : Nat} (hnew : s.task? number = none)
    (step : Step) : ((s.launch number step).tasks.map (·.number)).Nodup := by
  simpa [launch, List.concat_eq_append] using hn.concat (task?_eq_none.mp hnew)

theorem task?_of_filter {k : Nat} (tasks : s'.tasks = s.tasks.filter (·.number != k)) (n : Nat) :
    s'.task? n = if n = k then none else s.task? n := by
  unfold task?
  rw [tasks, List.find?_filter]
  by_cases h : n = k
  · rw [if_pos h, List.find?_eq_none]
    intro u _
    simp only [bne_iff_ne, beq_iff_eq, decide_eq_true_eq]
    rintro ⟨hk, hn⟩
    exact hk (hn.trans h)
  · rw [if_neg h]
    congr 1
    funext u
    by_cases hu : u.number = n
    · simp [hu, h]
    · simp [hu]

theorem exists_split (hn : (s.tasks.map (·.number)).Nodup) (ht : s.task? t.number = some t) :
    ∃ l₁ l₂, s.tasks = l₁ ++ t :: l₂ ∧ (∀ t', t'.number = t.number → (s.put t').tasks = l₁ ++ t' :: l₂) ∧
      s.tasks.filter (·.number != t.number) = l₁ ++ l₂ := by
  obtain ⟨l₁, l₂, hs⟩ := List.append_of_mem (mem_of_task? ht).1
  have hother : ∀ u ∈ l₁ ++ l₂, u.number ≠ t.number := by
    rw [hs, List.map_append, List.map_cons, List.nodup_middle, List.nodup_cons, ← List.map_append] at hn
    intro u hu he
    exact hn.1 (List.mem_map.mpr ⟨u, hu, he⟩)
  have hput : ∀ t' : Task, t'.number = t.number → ∀ l : List Task, (∀ u ∈ l, u.number ≠ t.number) →
      (l.map fun u => if u.number = t'.number then t' else u) = l := by
    intro t' hn' l hl
    have hid : l.map (fun u => if u.number = t'.number then t' else u) = l.map id :=
      List.map_congr_left fun u hu => if_neg (hn' ▸ hl u hu)
    rw [hid, List.map_id]
  refine ⟨l₁, l₂, hs, fun t' hn' => ?_, ?_⟩
  · have h₁ := hput t' hn' l₁ fun u hu => hother u (List.mem_append_left _ hu)
    have h₂ := hput t' hn' l₂ fun u hu => hother u (List.mem_append_right _ hu)
    rw [put, hs, List.map_append, List.map_cons, h₁, h₂, if_pos hn'.symm]
  · have hfilter : (l₁ ++ l₂).filter (·.number != t.number) = l₁ ++ l₂ :=
      List.filter_eq_self.mpr fun u hu => by simpa using hother u hu
    rw [List.filter_append] at hfilter
    rw [hs, List.filter_append, List.filter_cons, if_neg (by simp), hfilter]

theorem underway_split (hn : (s.tasks.map (·.number)).Nodup) (ht : s.task? t.number = some t) :
    ∃ a b, s.underway = a ++ t.underway ++ b ∧
      ∀ t', t'.number = t.number → (s.put t').underway = a ++ t'.underway ++ b := by
  obtain ⟨l₁, l₂, hs, hput, -⟩ := exists_split hn ht
  refine ⟨l₁.flatMap Task.underway, l₂.flatMap Task.underway, ?_, fun t' hn' => ?_⟩
  · simp [underway, hs]
  · simp [underway, hput t' hn']

theorem underway_congr (h : s'.tasks = s.tasks) : s'.underway = s.underway := by
  rw [underway, underway, h]

theorem underway_put (hn : (s.tasks.map (·.number)).Nodup) (ht : s.task? t.number = some t)
    (hnumber : t'.number = t.number) (hu : t'.underway = t.underway) : (s.put t').underway = s.underway := by
  obtain ⟨a, b, hs, hput⟩ := underway_split hn ht
  rw [hput t' hnumber, hs, hu]

theorem underway_push (s : Session) (t : Task) (steps : List Step) (next : Control) :
    (s.push t steps next).underway = (s.goto t next).underway := by
  cases steps with
  | nil => rfl
  | cons step rest =>
    simp only [underway, push, goto, put, List.flatMap_map]
    congr 1
    funext u
    by_cases hu : u.number = t.number
    · rw [if_pos hu, if_pos hu]
      rfl
    · rw [if_neg hu, if_neg hu]

theorem underway_of_filter (hn : (s.tasks.map (·.number)).Nodup) (ht : s.task? t.number = some t)
    (hu : t.underway = []) (tasks : s'.tasks = s.tasks.filter (·.number != t.number)) :
    s'.underway = s.underway := by
  obtain ⟨l₁, l₂, hs, -, hfilter⟩ := exists_split hn ht
  rw [underway, tasks, hfilter, underway, hs]
  simp [hu]

theorem underway_launch (s : Session) (number : Nat) (step : Step) :
    (s.launch number step).underway = s.underway := by
  simp [underway, launch, Task.underway, Task.controls, Control.use?]

theorem uses_congr (h : s'.tasks = s.tasks) : s'.uses = s.uses := by
  rw [uses, uses, underway_congr h]

theorem length_uses (s : Session) : s.uses.length = s.underway.length := by
  rw [uses, List.length_filterMap_eq_countP, List.countP_eq_length]
  intro c hc
  obtain ⟨t, -, hm⟩ := List.mem_flatMap.mp hc
  exact (List.mem_filter.mp hm).2

theorem uses_split (hn : (s.tasks.map (·.number)).Nodup) (ht : s.task? t.number = some t) :
    ∃ a b, s.uses = a ++ t.uses ++ b ∧
      ∀ t', t'.number = t.number → (s.put t').uses = a ++ t'.uses ++ b := by
  obtain ⟨a, b, hs, hput⟩ := underway_split hn ht
  refine ⟨a.filterMap Control.use?, b.filterMap Control.use?, ?_, fun t' hn' => ?_⟩
  · simp only [uses, hs, Task.uses, List.filterMap_append]
  · simp only [uses, hput t' hn', Task.uses, List.filterMap_append]

theorem uses_put (hn : (s.tasks.map (·.number)).Nodup) (ht : s.task? t.number = some t)
    (hnumber : t'.number = t.number) (hu : t'.uses = t.uses) : (s.put t').uses = s.uses := by
  obtain ⟨a, b, hs, hput⟩ := uses_split hn ht
  rw [hput t' hnumber, hs, hu]

theorem underway_put_of_nil (hn : (s.tasks.map (·.number)).Nodup) (ht : s.task? t.number = some t)
    (hs : s.uses = []) (t' : Task) (hnumber : t'.number = t.number) (hf : t'.frames = t.frames) {u : Use}
    (hu : t'.control.use? = some u) : (s.put t').underway = [t'.control] := by
  have hnil : s.underway = [] := by
    rw [← List.length_eq_zero_iff, ← length_uses, hs]
    rfl
  obtain ⟨a, b, hsplit, hput⟩ := underway_split hn ht
  rw [hsplit] at hnil
  simp only [List.append_eq_nil_iff] at hnil
  obtain ⟨⟨ha, hunderway⟩, hb⟩ := hnil
  have hframes : ∀ f ∈ t'.frames, f.next.use? = none := by
    intro f hm
    have hcontrols : f.next ∈ t.controls := List.mem_cons_of_mem _ (List.mem_map_of_mem (hf ▸ hm))
    have hnone := List.filter_eq_nil_iff.mp hunderway f.next hcontrols
    simpa using hnone
  rw [hput t' hnumber, ha, hb, t'.underway_of_frames hframes, hu]
  rfl

end Session
end Prepared
