import Mathlib.Data.List.Nodup
import Prepared.Connection.Claim

/-!
# The queue of the claim

Every task waits at most once, and only the first in the queue can have been
woken, while nobody holds the claim. Each operation keeps this, so a waiter
that goes on and has not given up finds the claim free.
-/

namespace Prepared.Claim

def tasks (c : Claim) : List Nat := c.queue.map (·.task)

theorem queue_eq_nil {c : Claim} : c.queue = [] ↔ c.tasks = [] := List.map_eq_nil_iff.symm

structure Sound (c : Claim) : Prop where
  nodup : c.tasks.Nodup
  first : ∀ w ∈ c.queue.tail, w.wait ≠ .woken
  free : c.held = true → ∀ w ∈ c.queue, w.wait ≠ .woken

variable {c : Claim} {n : Nat}

theorem sound_empty : Sound {} := ⟨List.nodup_nil, fun _ h => (nomatch h), fun h => (nomatch h)⟩

theorem isOpen_iff : c.isOpen = true ↔ c.held = false ∧ ∀ w ∈ c.queue, w.wait = .withdrawn := by
  simp [isOpen]

theorem Sound.taken (h : c.Sound) (hw : ∀ w ∈ c.queue, w.wait ≠ .woken) : c.taken.Sound :=
  ⟨h.nodup, h.first, fun _ => hw⟩

theorem tasks_enqueue (c : Claim) (n : Nat) : (c.enqueue n).tasks = c.tasks ++ [n] := by
  simp [tasks, enqueue]

theorem Sound.enqueue (h : c.Sound) (hn : n ∉ c.tasks) : (c.enqueue n).Sound := by
  have hasleep : (⟨n, .asleep⟩ : Waiter).wait ≠ .woken := by simp
  refine ⟨?_, fun w hw => ?_, fun hheld w hw => ?_⟩
  · rw [tasks_enqueue]
    simpa [List.concat_eq_append] using h.nodup.concat hn
  · cases hq : c.queue with
    | nil => simp [Claim.enqueue, hq] at hw
    | cons v q =>
      simp only [Claim.enqueue, hq, List.cons_append, List.tail_cons, List.mem_append,
        List.mem_singleton] at hw
      rcases hw with hw | rfl
      · exact h.first w (by rw [hq]; exact hw)
      · exact hasleep
  · rcases List.mem_append.mp hw with hw | hw
    · exact h.free hheld w hw
    · obtain rfl := List.mem_singleton.mp hw
      exact hasleep

/-! ## Waking -/

theorem tasks_wakeFirst (c : Claim) : c.wakeFirst.1.tasks = c.tasks := by
  unfold wakeFirst
  split
  · rename_i hq
    simp [tasks, hq]
  · rfl

theorem Sound.wakeFirst (h : c.Sound) (hheld : c.held = false) : c.wakeFirst.1.Sound := by
  refine ⟨by rw [tasks_wakeFirst]; exact h.nodup, ?_, fun he => ?_⟩
  · have hfirst := h.first
    unfold Claim.wakeFirst
    split
    · rename_i hq
      rw [hq] at hfirst
      exact hfirst
    · exact hfirst
  · rw [held_wakeFirst, hheld] at he
    cases he

theorem release_eq (h : c.held = true) : c.release = some ({ c with held := false } : Claim).wakeFirst :=
  if_pos h

theorem Sound.released (h : c.Sound) : ({ c with held := false } : Claim).wakeFirst.1.Sound :=
  Sound.wakeFirst ⟨h.nodup, h.first, fun he => by cases he⟩ rfl

/-! ## Leaving the queue -/

theorem tasks_without (c : Claim) (n : Nat) : (c.without n).tasks = c.tasks.filter (· != n) := by
  simp only [tasks, without, List.filter_map]
  rfl

theorem Sound.without (h : c.Sound) (n : Nat) : (c.without n).Sound := by
  refine ⟨?_, fun w hw => ?_, fun hheld w hw => h.free hheld w (List.mem_filter.mp hw).1⟩
  · rw [tasks_without]
    exact h.nodup.filter _
  · have hfirst := h.first
    cases hq : c.queue with
    | nil => simp [Claim.without, hq] at hw
    | cons v q =>
      rw [hq] at hfirst
      simp only [Claim.without, hq, List.filter_cons] at hw
      split at hw
      · exact hfirst w (List.mem_filter.mp hw).1
      · exact hfirst w (List.mem_filter.mp (List.mem_of_mem_tail hw)).1

theorem Sound.first_of_woken (h : c.Sound) (hn : c.waiting? n = some .woken) :
    ∃ q, c.queue = ⟨n, .woken⟩ :: q ∧ ∀ w ∈ q, w.task ≠ n := by
  obtain ⟨⟨task, wait⟩, hv, hwoken⟩ := Option.map_eq_some_iff.mp hn
  obtain rfl : task = n := by simpa using List.find?_some hv
  obtain rfl : wait = .woken := hwoken
  have hmem := List.mem_of_find?_eq_some hv
  have hfirst := h.first
  have hnodup := h.nodup
  cases hq : c.queue with
  | nil => rw [hq] at hmem; cases hmem
  | cons u q =>
    rw [hq] at hmem hfirst
    rw [tasks, hq, List.map_cons, List.nodup_cons] at hnodup
    rcases List.mem_cons.mp hmem with rfl | hmem
    · exact ⟨q, rfl, fun w hw he => hnodup.1 (List.mem_map.mpr ⟨w, hw, he⟩)⟩
    · exact absurd rfl (hfirst _ hmem)

theorem Sound.not_woken_without (h : c.Sound) (hn : c.waiting? n = some .woken) :
    ∀ w ∈ (c.without n).queue, w.wait ≠ .woken := by
  obtain ⟨q, hq, -⟩ := h.first_of_woken hn
  have hfirst := h.first
  intro w hw
  obtain ⟨hmem, hne⟩ := List.mem_filter.mp hw
  rw [hq] at hmem hfirst
  rcases List.mem_cons.mp hmem with rfl | hmem
  · simp at hne
  · exact hfirst w hmem

theorem tasks_withdraw (c : Claim) (n : Nat) : (c.withdraw n).tasks = c.tasks := by
  simp only [tasks, withdraw, List.map_map]
  apply List.map_congr_left
  intro w _
  by_cases h : w.task = n <;> simp [h]

theorem Sound.withdraw (h : c.Sound) (n : Nat) : (c.withdraw n).Sound := by
  have hmap : ∀ q : List Waiter, (∀ w ∈ q, w.wait ≠ .woken) →
      ∀ w ∈ q.map fun w => if w.task = n then ⟨n, .withdrawn⟩ else w, w.wait ≠ .woken := by
    intro q hq w hw
    obtain ⟨v, hv, rfl⟩ := List.mem_map.mp hw
    split
    · simp
    · exact hq v hv
  refine ⟨by rw [tasks_withdraw]; exact h.nodup, ?_, fun hheld => hmap _ (h.free hheld)⟩
  simp only [Claim.withdraw, ← List.map_tail]
  exact hmap _ h.first

/-! ## How a task waits -/

theorem mem_tasks_of_waiting? {w : Wait} (h : c.waiting? n = some w) : n ∈ c.tasks := by
  obtain ⟨v, hv, -⟩ := Option.map_eq_some_iff.mp h
  have hn : v.task = n := by simpa using List.find?_some hv
  exact List.mem_map.mpr ⟨v, List.mem_of_find?_eq_some hv, hn⟩

theorem waiting?_enqueue (c : Claim) {m : Nat} (hm : m ≠ n) : (c.enqueue n).waiting? m = c.waiting? m := by
  simp [waiting?, enqueue, List.find?_append, Ne.symm hm]

theorem waiting?_without (c : Claim) (n m : Nat) :
    (c.without n).waiting? m = if m = n then none else c.waiting? m := by
  simp only [waiting?, without, List.find?_filter]
  by_cases hm : m = n
  · rw [if_pos hm, List.find?_eq_none.mpr]
    · rfl
    · intro w _
      simp only [bne_iff_ne, beq_iff_eq, decide_eq_true_eq]
      rintro ⟨hne, he⟩
      exact hne (he.trans hm)
  · rw [if_neg hm]
    congr 2
    funext w
    by_cases hw : w.task = m
    · simp [hw, hm]
    · simp [hw]

theorem waiting?_withdraw (c : Claim) (n m : Nat) :
    (c.withdraw n).waiting? m = if m = n then (c.waiting? m).map fun _ => .withdrawn else c.waiting? m := by
  have hp : ∀ w : Waiter, ((if w.task = n then ⟨n, .withdrawn⟩ else w : Waiter).task == m) = (w.task == m) := by
    intro w
    split
    · rename_i h
      rw [h]
    · rfl
  have hfind : (c.withdraw n).queue.find? (·.task == m) =
      (c.queue.find? (·.task == m)).map fun w => if w.task = n then ⟨n, .withdrawn⟩ else w := by
    simp only [withdraw, List.find?_map]
    congr 2
    funext w
    exact hp w
  rw [waiting?, hfind, waiting?]
  cases hw : c.queue.find? (·.task == m) with
  | none => simp
  | some w =>
    have hm : w.task = m := by simpa using List.find?_some hw
    by_cases he : m = n <;> simp [hm, he]

theorem waiting?_of_wakeFirst (h : c.wakeFirst.2 = some n) : c.waiting? n = some .asleep := by
  unfold wakeFirst at h
  split at h
  · rename_i task rest hq
    obtain rfl := Option.some.inj h
    simp [waiting?, hq]
  · cases h

theorem waiting?_wakeFirst (c : Claim) (m : Nat) :
    c.wakeFirst.1.waiting? m = if c.wakeFirst.2 = some m then some .woken else c.waiting? m := by
  unfold wakeFirst
  split
  · rename_i task rest hq
    by_cases hm : task = m
    · simp [waiting?, hm]
    · simp [waiting?, hq, hm]
  · simp

theorem asleep_of_wakeFirst (h : c.wakeFirst.1.waiting? n = some .asleep) :
    c.waiting? n = some .asleep ∧ c.wakeFirst.2 ≠ some n := by
  rw [waiting?_wakeFirst] at h
  by_cases hn : c.wakeFirst.2 = some n
  · simp [hn] at h
  · rw [if_neg hn] at h
    exact ⟨h, hn⟩

theorem asleep_of_without {m : Nat} (h : (c.without m).waiting? n = some .asleep) : c.waiting? n = some .asleep := by
  rw [waiting?_without] at h
  split at h
  · cases h
  · exact h

theorem asleep_of_withdraw {m : Nat} (h : (c.withdraw m).waiting? n = some .asleep) :
    c.waiting? n = some .asleep := by
  rw [waiting?_withdraw] at h
  split at h
  · obtain ⟨w, -, hw⟩ := Option.map_eq_some_iff.mp h
    cases hw
  · exact h

/-! ## Going on -/

theorem asleep_of_resume {m : Nat} {cancelled : Bool} (h : (c.resume m cancelled).claim.waiting? n = some .asleep) :
    c.waiting? n = some .asleep := by
  unfold resume at h
  dsimp only at h
  split at h
  · split at h
    · exact asleep_of_without h
    · exact asleep_of_without (asleep_of_wakeFirst h).1
  · exact asleep_of_without h

theorem waiting?_of_mem (h : n ∈ c.tasks) : ∃ w, c.waiting? n = some w := by
  obtain ⟨v, hv, hn⟩ := List.mem_map.mp h
  have : (c.queue.find? (·.task == n)).isSome := List.find?_isSome.mpr ⟨v, hv, by simpa using hn⟩
  obtain ⟨w, hw⟩ := Option.isSome_iff_exists.mp this
  exact ⟨w.wait, by rw [waiting?, hw]; rfl⟩

theorem Sound.held_of_woken (h : c.Sound) (hn : c.waiting? n = some .woken) : c.held = false := by
  obtain ⟨v, hv, hwoken⟩ := Option.map_eq_some_iff.mp hn
  cases hheld : c.held with
  | false => rfl
  | true => exact absurd hwoken (h.free hheld v (List.mem_of_find?_eq_some hv))

theorem resume_eq_taken {cancelled : Bool} (hc : ¬ (cancelled ∨ c.waiting? n = some .withdrawn)) :
    c.resume n cancelled = ⟨(c.without n).taken, true, none⟩ := if_neg hc

theorem woken_of_mem (hn : n ∈ c.tasks) (hasleep : c.waiting? n ≠ some .asleep) {cancelled : Bool}
    (hc : ¬ (cancelled ∨ c.waiting? n = some .withdrawn)) : c.waiting? n = some .woken := by
  obtain ⟨w, hw⟩ := waiting?_of_mem hn
  cases w with
  | asleep => exact absurd hw hasleep
  | woken => exact hw
  | withdrawn => exact absurd (Or.inr hw) hc

theorem Sound.resume_granted (h : c.Sound) (hn : n ∈ c.tasks) (hasleep : c.waiting? n ≠ some .asleep)
    {cancelled : Bool} (hc : ¬ (cancelled ∨ c.waiting? n = some .withdrawn)) :
    c.held = false ∧ (c.without n).taken.Sound := by
  have hwoken := woken_of_mem hn hasleep hc
  exact ⟨h.held_of_woken hwoken, (h.without n).taken (h.not_woken_without hwoken)⟩

theorem Sound.resume_withdrawn (h : c.Sound) {cancelled : Bool}
    (hc : cancelled ∨ c.waiting? n = some .withdrawn) :
    (c.resume n cancelled).granted = false ∧ (c.resume n cancelled).claim.Sound ∧
      (c.resume n cancelled).claim.tasks = c.tasks.filter (· != n) ∧
      (c.resume n cancelled).claim.held = c.held := by
  unfold resume
  simp only [if_pos hc]
  cases hheld : (c.without n).held with
  | true => exact ⟨rfl, h.without n, tasks_without c n, rfl⟩
  | false =>
    refine ⟨rfl, (h.without n).wakeFirst hheld, ?_, ?_⟩
    · exact (tasks_wakeFirst _).trans (tasks_without c n)
    · exact held_wakeFirst _

end Prepared.Claim
