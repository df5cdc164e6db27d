import Prepared.Proofs.Connection.Queue

/-!
# The line in front of the claim

Those who ask for the claim stand in a line, which they leave at its front with
the claim, or anywhere without it. So nobody who asks later obtains it before
somebody who stays. The queue of a claim holds this line, among others that
have given up; every operation does to the line what it should. Main
statements: nobody is overtaken in a line, and whoever comes first in the queue
of a claim that nobody holds is not asleep.
-/

namespace Prepared

inductive Deed
  | asks (task : Nat)
  | obtains (task : Nat)
  | cancels (task : Nat)
deriving DecidableEq, Repr

/-- The line after a deed: only the first in it obtains the claim, and nobody stands in it twice. -/
def Deed.serve (line : List Nat) : Deed → Option (List Nat)
  | .asks n => if n ∈ line then none else some (line ++ [n])
  | .obtains n => if line.head? = some n then some line.tail else none
  | .cancels n => some (line.filter (· != n))

namespace Deed

variable {line line' x y : List Nat} {m n : Nat} {d : Deed}

theorem exists_of_append {a b : List Deed} (h : (a ++ b).foldlM serve line = some line') :
    ∃ next, a.foldlM serve line = some next ∧ b.foldlM serve next = some line' := by
  rw [List.foldlM_append] at h
  exact Option.bind_eq_some_iff.mp h

theorem exists_of_cons {ds : List Deed} (h : (d :: ds).foldlM serve line = some line') :
    ∃ next, d.serve line = some next ∧ ds.foldlM serve next = some line' := by
  rw [List.foldlM_cons] at h
  exact Option.bind_eq_some_iff.mp h

theorem serve_asks (h : (asks n).serve line = some line') : n ∉ line ∧ line' = line ++ [n] := by
  rw [serve, Option.ite_none_left_eq_some] at h
  exact ⟨h.1, (Option.some.inj h.2).symm⟩

/-- Somebody in the line who does not obtain the claim and is not cancelled stays, and nobody gets ahead of him. -/
theorem serve_split (h : d.serve (x ++ m :: y) = some line') (ho : d ≠ .obtains m) (hc : d ≠ .cancels m) :
    ∃ x' y', line' = x' ++ m :: y' ∧ x' ⊆ x := by
  cases d with
  | asks k =>
    obtain ⟨-, rfl⟩ := serve_asks h
    exact ⟨x, y ++ [k], by simp, List.Subset.refl x⟩
  | obtains k =>
    cases x with
    | nil =>
      rw [serve, Option.ite_none_right_eq_some] at h
      obtain rfl : m = k := Option.some.inj h.1
      exact absurd rfl ho
    | cons j x =>
      rw [serve, Option.ite_none_right_eq_some] at h
      obtain rfl := Option.some.inj h.2
      exact ⟨x, y, rfl, List.subset_cons_self j x⟩
  | cancels k =>
    have hm : m ≠ k := fun he => hc (he ▸ rfl)
    obtain rfl := Option.some.inj h
    exact ⟨x.filter (· != k), y.filter (· != k), by simp [hm], List.filter_subset_self x⟩

theorem serve_split_all {ds : List Deed} (h : ds.foldlM serve (x ++ m :: y) = some line') (ho : .obtains m ∉ ds)
    (hc : .cancels m ∉ ds) : ∃ x' y', line' = x' ++ m :: y' ∧ x' ⊆ x := by
  induction ds generalizing x y with
  | nil => exact ⟨x, y, (Option.some.inj h).symm, List.Subset.refl x⟩
  | cons d ds ih =>
    rw [List.mem_cons, not_or] at ho hc
    obtain ⟨next, hd, hds⟩ := exists_of_cons h
    obtain ⟨x₁, y₁, rfl, hx₁⟩ := serve_split hd (Ne.symm ho.1) (Ne.symm hc.1)
    obtain ⟨x₂, y₂, he, hx₂⟩ := ih hds ho.2 hc.2
    exact ⟨x₂, y₂, he, List.Subset.trans hx₂ hx₁⟩

/-- Whoever asks while somebody waits does not obtain the claim before him, unless he is cancelled. -/
theorem not_overtaken {a b c : List Deed}
    (h : (a ++ .asks m :: (b ++ .obtains n :: c)).foldlM serve line = some line') (ho : .obtains m ∉ b)
    (hc : .cancels m ∉ b) : .asks n ∉ b := by
  intro hn
  obtain ⟨b₁, b₂, rfl⟩ := List.append_of_mem hn
  simp only [List.mem_append, List.mem_cons, not_or] at ho hc
  obtain ⟨l, -, h⟩ := exists_of_append h
  obtain ⟨_, hm, h⟩ := exists_of_cons h
  obtain ⟨-, rfl⟩ := serve_asks hm
  rw [List.append_assoc, List.cons_append] at h
  obtain ⟨_, hb₁, h⟩ := exists_of_append h
  obtain ⟨x, y, rfl, -⟩ := serve_split_all hb₁ ho.1 hc.1
  -- When the other asks, he comes behind.
  obtain ⟨_, hasks, h⟩ := exists_of_cons h
  obtain ⟨hout, rfl⟩ := serve_asks hasks
  obtain ⟨_, hb₂, h⟩ := exists_of_append h
  rw [List.append_assoc, List.cons_append] at hb₂
  obtain ⟨x', y', rfl, hx'⟩ := serve_split_all hb₂ ho.2.2 hc.2.2
  obtain ⟨_, hobtains, -⟩ := exists_of_cons h
  rw [serve, Option.ite_none_right_eq_some] at hobtains
  cases x' with
  | nil =>
    obtain rfl : m = n := Option.some.inj hobtains.1
    exact hout (by simp)
  | cons k x' =>
    obtain rfl : k = n := Option.some.inj hobtains.1
    exact hout (List.mem_append_left _ (hx' List.mem_cons_self))

theorem serve_not_mem (h : d.serve line = some line') (hn : n ∉ line) (ha : d ≠ .asks n) : n ∉ line' := by
  cases d with
  | asks k =>
    obtain ⟨-, rfl⟩ := serve_asks h
    have hne : n ≠ k := fun he => ha (he ▸ rfl)
    simp [hn, hne]
  | obtains k =>
    rw [serve, Option.ite_none_right_eq_some] at h
    obtain rfl := Option.some.inj h.2
    exact fun hmem => hn (List.mem_of_mem_tail hmem)
  | cancels k =>
    obtain rfl := Option.some.inj h
    exact fun hmem => hn (List.mem_filter.mp hmem).1

theorem serve_not_mem_all {ds : List Deed} (h : ds.foldlM serve line = some line') (hn : n ∉ line)
    (ha : .asks n ∉ ds) : n ∉ line' := by
  induction ds generalizing line with
  | nil => exact Option.some.inj h ▸ hn
  | cons d ds ih =>
    rw [List.mem_cons, not_or] at ha
    obtain ⟨next, hd, hds⟩ := exists_of_cons h
    exact ih hds (serve_not_mem hd hn (Ne.symm ha.1)) ha.2

theorem not_mem_of_cancels {ds : List Deed} (h : ds.foldlM serve line = some line') (hc : .cancels n ∈ ds)
    (ha : .asks n ∉ ds) : n ∉ line' := by
  obtain ⟨a, b, rfl⟩ := List.append_of_mem hc
  obtain ⟨_, -, h⟩ := exists_of_append h
  obtain ⟨_, hcancels, hb⟩ := exists_of_cons h
  obtain rfl := Option.some.inj hcancels
  exact serve_not_mem_all hb (by simp) fun hmem => ha (by simp [hmem])

end Deed

namespace Claim

/-- The line in the queue of a claim: those that have not given up and are not gone. -/
def standing (c : Claim) (gone : Nat → Bool) : List Nat :=
  (c.queue.filter fun w => w.wait != .withdrawn && !gone w.task).map (·.task)

variable {c c' : Claim} {n : Nat} {gone gone' : Nat → Bool}

theorem standing_congr (queue : c'.queue = c.queue) (hgone : ∀ m ∈ c.tasks, gone' m = gone m) :
    c'.standing gone' = c.standing gone := by
  unfold standing
  rw [queue]
  congr 1
  apply List.filter_congr
  intro w hw
  rw [hgone w.task (List.mem_map_of_mem hw)]

theorem mem_tasks_of_standing (h : n ∈ c.standing gone) : n ∈ c.tasks := by
  obtain ⟨w, hw, rfl⟩ := List.mem_map.mp h
  exact List.mem_map_of_mem (List.mem_filter.mp hw).1

theorem mem_standing (hn : n ∈ c.tasks) (hgone : gone n = false) (hw : c.waiting? n ≠ some .withdrawn) :
    n ∈ c.standing gone := by
  obtain ⟨w, hwait⟩ := waiting?_of_mem hn
  obtain ⟨v, hv, rfl⟩ := Option.map_eq_some_iff.mp hwait
  have htask : v.task = n := by simpa using List.find?_some hv
  refine List.mem_map.mpr ⟨v, List.mem_filter.mpr ⟨List.mem_of_find?_eq_some hv, ?_⟩, htask⟩
  rw [hwait] at hw
  simpa [htask, hgone] using hw

theorem standing_of_isOpen (h : c.isOpen = true) (gone : Nat → Bool) : c.standing gone = [] := by
  have hall := (isOpen_iff.mp h).2
  rw [standing, List.map_eq_nil_iff, List.filter_eq_nil_iff]
  intro w hw
  simp [hall w hw]

theorem standing_enqueue (c : Claim) (hn : gone n = false) :
    (c.enqueue n).standing gone = c.standing gone ++ [n] := by
  simp [standing, enqueue, List.filter_append, hn]

theorem standing_without (c : Claim) (n : Nat) (gone : Nat → Bool) :
    (c.without n).standing gone = (c.standing gone).filter (· != n) := by
  simp only [standing, without, List.filter_map, List.filter_filter]
  congr 1
  apply List.filter_congr
  intro w _
  exact Bool.and_comm ..

theorem standing_withdraw (c : Claim) (n : Nat) (gone : Nat → Bool) :
    (c.withdraw n).standing gone = (c.standing gone).filter (· != n) := by
  simp only [standing, withdraw]
  induction c.queue with
  | nil => rfl
  | cons w q ih =>
    by_cases hn : w.task = n
    · -- It gives up now, if it has not before.
      rw [List.map_cons, if_pos hn, List.filter_cons_of_neg (by simp), ih, List.filter_cons]
      split <;> simp [hn]
    · cases hw : (w.wait != .withdrawn && !gone w.task) <;> simp [hw, hn, ih]

theorem standing_gone (hgone : ∀ m, gone' m = (m == n || gone m)) :
    c.standing gone' = (c.standing gone).filter (· != n) := by
  simp only [standing, List.filter_map, List.filter_filter]
  congr 1
  apply List.filter_congr
  intro w _
  simp only [hgone, Function.comp_apply]
  cases hn : (w.task == n) <;> simp_all

theorem standing_wakeFirst (c : Claim) (gone : Nat → Bool) : c.wakeFirst.1.standing gone = c.standing gone := by
  unfold wakeFirst
  split
  · rename_i task rest hq
    cases hgone : gone task <;> simp [standing, hq, hgone]
  · rfl

theorem Sound.standing_woken (h : c.Sound) (hn : c.waiting? n = some .woken) (hgone : gone n = false) :
    c.standing gone = n :: (c.without n).standing gone := by
  obtain ⟨q, hq, hother⟩ := h.first_of_woken hn
  have hwithout : (c.without n).queue = q := by
    rw [Claim.without, hq, List.filter_cons_of_neg (by simp)]
    exact List.filter_eq_self.mpr fun w hw => by simpa using hother w hw
  simp [standing, hwithout, hq, hgone]

theorem Sound.waiting?_of_mem (h : c.Sound) {w : Waiter} (hw : w ∈ c.queue) : c.waiting? w.task = some w.wait := by
  have hsome : (c.queue.find? (·.task == w.task)).isSome := List.find?_isSome.mpr ⟨w, hw, beq_self_eq_true _⟩
  obtain ⟨v, hv⟩ := Option.isSome_iff_exists.mp hsome
  have htask : v.task = w.task := by simpa using List.find?_some hv
  obtain rfl := List.inj_on_of_nodup_map h.nodup (List.mem_of_find?_eq_some hv) hw htask
  rw [waiting?, hv]
  rfl

theorem Sound.not_mem_standing (h : c.Sound) (hn : gone n = true ∨ c.waiting? n = some .withdrawn) :
    n ∉ c.standing gone := by
  intro hmem
  obtain ⟨w, hw, rfl⟩ := List.mem_map.mp hmem
  obtain ⟨hqueue, hstands⟩ := List.mem_filter.mp hw
  rcases hn with hn | hn
  · simp [hn] at hstands
  · rw [h.waiting?_of_mem hqueue] at hn
    simp [Option.some.inj hn] at hstands

theorem standing_resume {cancelled : Bool} (hc : cancelled ∨ c.waiting? n = some .withdrawn) (gone : Nat → Bool) :
    (c.resume n cancelled).claim.standing gone = (c.standing gone).filter (· != n) := by
  unfold resume
  dsimp only
  rw [if_pos hc]
  split
  · exact standing_without ..
  · exact (standing_wakeFirst ..).trans (standing_without ..)

/-! ## Who comes first -/

/-- While nobody holds the claim, whoever comes first in the queue is not asleep. -/
def Alert (c : Claim) : Prop := c.held = false → ∀ w, c.queue.head? = some w → w.wait ≠ .asleep

theorem alert_of_held (h : c.held = true) : c.Alert := by
  intro he
  rw [h] at he
  cases he

theorem alert_wakeFirst (c : Claim) : c.wakeFirst.1.Alert := by
  intro _ w hw
  unfold wakeFirst at hw
  split at hw
  · obtain rfl := Option.some.inj hw
    simp
  · rename_i hfirst
    intro hasleep
    obtain ⟨task, wait⟩ := w
    obtain rfl : wait = .asleep := hasleep
    obtain ⟨q, hq⟩ := List.head?_eq_some_iff.mp hw
    exact hfirst task q hq

theorem Alert.enqueue (h : c.Alert) (hopen : c.isOpen ≠ true) (n : Nat) : (c.enqueue n).Alert := by
  intro he w hw
  -- A claim that nobody holds is open unless somebody is in the queue already, and he stays first.
  have hne : c.queue ≠ [] := fun hq => hopen (isOpen_iff.mpr ⟨he, by simp [hq]⟩)
  obtain ⟨v, q, hq⟩ := List.exists_cons_of_ne_nil hne
  refine h he w ?_
  rw [Claim.enqueue, hq] at hw
  rw [hq]
  exact hw

theorem Alert.withdraw (h : c.Alert) (n : Nat) : (c.withdraw n).Alert := by
  intro he w hw
  rw [Claim.withdraw, List.head?_map] at hw
  obtain ⟨v, hv, rfl⟩ := Option.map_eq_some_iff.mp hw
  split
  · simp
  · exact h he v hv

theorem alert_resume (c : Claim) (n : Nat) (cancelled : Bool) : (c.resume n cancelled).claim.Alert := by
  unfold resume
  dsimp only
  split
  · split
    · rename_i hheld
      exact alert_of_held hheld
    · exact alert_wakeFirst _
  · exact alert_of_held rfl

/-! ## Turns -/

inductive Turn (n : Nat) (c : Claim) : Claim → Prop
  | stays : Turn n c c
  | takes (hopen : c.isOpen = true) : Turn n c c.taken
  | joins (hopen : c.isOpen ≠ true) : Turn n c (c.enqueue n)
  | skips (hopen : c.isOpen ≠ true) : Turn n c ((c.enqueue n).withdraw n)
  | resumes (cancelled : Bool) : Turn n c (c.resume n cancelled).claim
  | releases : Turn n c ({ c with held := false } : Claim).wakeFirst.1
  | withdraws (m : Nat) : Turn n c (c.withdraw m)

theorem Alert.turn (h : c.Alert) (hturn : Turn n c c') : c'.Alert := by
  cases hturn with
  | stays => exact h
  | takes => exact alert_of_held rfl
  | joins hopen => exact h.enqueue hopen n
  | skips hopen => exact (h.enqueue hopen n).withdraw n
  | resumes cancelled => exact alert_resume c n cancelled
  | releases => exact alert_wakeFirst _
  | withdraws m => exact h.withdraw m

theorem Turn.asleep {m : Nat} (hturn : Turn n c c') (hm : m ≠ n) (h : c'.waiting? m = some .asleep) :
    c.waiting? m = some .asleep := by
  cases hturn with
  | stays => exact h
  | takes => exact h
  | joins => exact (c.waiting?_enqueue hm).symm.trans h
  | skips => exact (c.waiting?_enqueue hm).symm.trans (asleep_of_withdraw h)
  | resumes => exact asleep_of_resume h
  | releases => exact (asleep_of_wakeFirst h).1
  | withdraws => exact asleep_of_withdraw h

end Claim
end Prepared
