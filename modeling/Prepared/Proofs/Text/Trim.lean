import Mathlib.Data.List.Basic
import Mathlib.Data.List.Infix
import Mathlib.Data.List.TakeWhile
import Prepared.Text.Blank

/-!
# Trimming

What is left of a text when the blanks at its ends are taken away. A text that is
not all blanks keeps whatever stands in front of it, apart from blanks at the
very beginning.
-/

namespace Prepared.Text

theorem trimStart_eq_nil {s : List Char} : trimStart s = [] ↔ ∀ c ∈ s, isBlank c = true := List.dropWhile_eq_nil_iff

theorem trimEnd_eq_nil {s : List Char} : trimEnd s = [] ↔ ∀ c ∈ s, isBlank c = true := by
  rw [trimEnd, List.reverse_eq_nil_iff, trimStart_eq_nil]
  simp only [List.mem_reverse]

theorem trimStart_suffix (s : List Char) : trimStart s <:+ s := List.dropWhile_suffix _

theorem trimEnd_prefix (s : List Char) : trimEnd s <+: s := by
  rw [← List.reverse_suffix, trimEnd, List.reverse_reverse]
  exact trimStart_suffix s.reverse

theorem trim_eq_nil {s : List Char} : trim s = [] ↔ ∀ c ∈ s, isBlank c = true := by
  rw [trim, trimEnd_eq_nil]
  refine ⟨fun h => ?_, fun h c hc => h c ((trimStart_suffix s).subset hc)⟩
  -- What is left of a text begins with a character that is no blank.
  cases hs : trimStart s with
  | nil => exact trimStart_eq_nil.mp hs
  | cons c t =>
    have hhead := List.head?_dropWhile_not isBlank s
    rw [← trimStart, hs] at hhead
    change isBlank c = false at hhead
    rw [h c (by rw [hs]; exact List.mem_cons_self ..)] at hhead
    cases hhead

theorem trimStart_append (s t : List Char) :
    trimStart (s ++ t) = if trimStart s = [] then trimStart t else trimStart s ++ t := by
  unfold trimStart
  rw [List.dropWhile_append]
  by_cases hs : s.dropWhile isBlank = [] <;> simp [hs]

theorem trimEnd_append (s t : List Char) :
    trimEnd (s ++ t) = if trimEnd t = [] then trimEnd s else s ++ trimEnd t := by
  simp only [trimEnd, List.reverse_append, trimStart_append, List.reverse_eq_nil_iff]
  split
  · rfl
  · simp

theorem trimStart_eq_self {s : List Char} (h : ∀ c ∈ s, isBlank c = false) : trimStart s = s := by
  cases s with
  | nil => rfl
  | cons c s => rw [trimStart_cons, h c (by simp)]; rfl

theorem trim_eq_self {s : List Char} (h : ∀ c ∈ s, isBlank c = false) : trim s = s := by
  have hreverse : ∀ c ∈ s.reverse, isBlank c = false := fun c hc => h c (List.mem_reverse.mp hc)
  rw [trim, trimStart_eq_self h, trimEnd, trimStart_eq_self hreverse, List.reverse_reverse]

variable {s t : List Char}

theorem trim_append_of_blank (ht : trim t = []) : trim (s ++ t) = trim s := by
  have hblank := trim_eq_nil.mp ht
  rw [trim, trim, trimStart_append]
  split
  · rename_i hs
    rw [hs, trimStart_eq_nil.mpr hblank]
  · rw [trimEnd_append, if_pos (trimEnd_eq_nil.mpr hblank)]

theorem trim_append_of_ne (ht : trim t ≠ []) :
    trim (s ++ t) = if trimStart s = [] then trim t else trimStart s ++ trimEnd t := by
  have hend : trimEnd t ≠ [] := fun h => ht (trim_eq_nil.mpr (trimEnd_eq_nil.mp h))
  rw [trim, trimStart_append]
  split
  · rfl
  · rw [trimEnd_append, if_neg hend]

theorem trim_suffix_trimEnd (ht : trim t ≠ []) : trim t <:+ trimEnd t := by
  obtain ⟨u, hu⟩ := trimStart_suffix t
  calc trim t <:+ u ++ trim t := List.suffix_append u _
    _ = trimEnd (u ++ trimStart t) := by rw [trimEnd_append, if_neg (by exact ht)]; rfl
    _ = trimEnd t := by rw [hu]

end Prepared.Text
