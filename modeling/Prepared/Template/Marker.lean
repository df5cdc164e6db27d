import Prepared.Number.Integer

/-!
# Markers of a template

A numbered marker is a dollar sign and the digits that follow it, as many as
there are. A text is searched for its leftmost marker from a position on.
-/

namespace Prepared.Template

open Text Number

/-- A marker in a text: the position of its dollar sign, and its digits. -/
structure Marker where
  start : Nat
  digits : List Char
deriving DecidableEq, Repr

namespace Marker

/-- The position after the last digit. -/
def stop (m : Marker) : Nat := m.start + 1 + m.digits.length

def shift (m : Marker) (n : Nat) : Marker := { m with start := n + m.start }

end Marker

def leadingMarker? : List Char → Option (List Char)
  | '$' :: s => if s.takeWhile isDigit = [] then none else some (s.takeWhile isDigit)
  | _ => none

def firstMarker? : List Char → Option Marker
  | [] => none
  | c :: s =>
    match leadingMarker? (c :: s) with
    | some ds => some ⟨0, ds⟩
    | none => (firstMarker? s).map (·.shift 1)

/-- The leftmost marker that starts at a position or after it. -/
def markerFrom? (s : List Char) (position : Nat) : Option Marker :=
  (firstMarker? (s.drop position)).map (·.shift position)

theorem leadingMarker?_length {s ds : List Char} (h : leadingMarker? s = some ds) :
    ds.length + 1 ≤ s.length := by
  unfold leadingMarker? at h
  split at h
  · rename_i r
    split at h
    · cases h
    · cases h
      have := (List.takeWhile_sublist (p := isDigit) (l := r)).length_le
      simpa using this
  · cases h

theorem firstMarker?_stop {s : List Char} {m : Marker} (h : firstMarker? s = some m) :
    m.stop ≤ s.length := by
  induction s generalizing m with
  | nil => cases h
  | cons c s ih =>
    rw [firstMarker?] at h
    cases hl : leadingMarker? (c :: s) with
    | some ds =>
      rw [hl] at h; cases h
      have := leadingMarker?_length hl
      simp only [Marker.stop]; omega
    | none =>
      rw [hl] at h
      obtain ⟨k, hk, rfl⟩ := Option.map_eq_some_iff.mp h
      have := ih hk
      simp only [Marker.stop, Marker.shift, List.length_cons] at this ⊢; omega

/-- A marker found from a position on lies between it and the end of the text. -/
theorem markerFrom?_bounds {s : List Char} {position : Nat} {m : Marker}
    (h : markerFrom? s position = some m) : position < m.stop ∧ m.stop ≤ s.length := by
  obtain ⟨k, hk, rfl⟩ := Option.map_eq_some_iff.mp h
  have := firstMarker?_stop hk
  simp only [Marker.stop, Marker.shift, List.length_drop] at this ⊢
  omega

end Prepared.Template
