import Prepared.Proofs.Template.Cut
import Prepared.Template.Count

/-!
# Outlines

A template as a style of placeholders sees it: text that stays, and slots, each
a marker that asks for an argument. Texts fill the slots from the left, and
where they end the template goes on as it is. Main statement: spelling the
outline of a template gives the template back, whatever the style.
-/

namespace Prepared

open Text Number Template

/-- A marker, the number of the argument that it asks for, and the text up to
the next marker. Arguments are numbered from one. -/
structure Slot where
  marker : List Char
  number : Except Overlong Nat
  text : List Char

namespace Slot

def spell (x : Slot) : List Char := x.marker ++ x.text

def digits (x : Slot) : List Char := x.marker.tail

end Slot

def fillSlots : List (List Char) → List Slot → List Char
  | _, [] => []
  | [], x :: xs => x.spell ++ fillSlots [] xs
  | v :: vs, x :: xs => v ++ x.text ++ fillSlots vs xs

structure Outline where
  head : List Char
  slots : List Slot

namespace Outline

def fill (l : Outline) (vs : List (List Char)) : List Char := l.head ++ fillSlots vs l.slots

def spell (l : Outline) : List Char := l.fill []

end Outline

def Template.Site.slot (x : Site) : Slot := ⟨'$' :: x.digits, readDigits x.digits, x.text⟩

/-- The texts after question marks, the marks asking for one argument after the
other, beginning with the one after the first `n`. -/
def questionSlots (n : Nat) (ts : List (List Char)) : List Slot :=
  (ts.zipIdx n).map fun p => ⟨[qmark], .ok (p.2 + 1), p.1⟩

def Outline.of : Style → List Char → Outline
  | .none, s => ⟨s, []⟩
  | .qmark, s => ⟨(segments s).headD [], questionSlots 0 (segments s).tail⟩
  | .numeric, s => ⟨(cut s).head, (cut s).sites.map Site.slot⟩

/-! ## Spelling -/

theorem fillSlots_nil (xs : List Slot) : fillSlots [] xs = xs.flatMap Slot.spell := by
  induction xs with
  | nil => rfl
  | cons x xs ih => rw [fillSlots, ih, List.flatMap_cons]

theorem spell_slots (xs : List Site) : fillSlots [] (xs.map Site.slot) = spellSites xs := by
  rw [fillSlots_nil, List.flatMap_map]
  rfl

theorem questionSlots_cons (n : Nat) (t : List Char) (ts : List (List Char)) :
    questionSlots n (t :: ts) = ⟨[qmark], .ok (n + 1), t⟩ :: questionSlots (n + 1) ts := by
  simp [questionSlots]

theorem segments_eq_cons (s : List Char) : ∃ t ts, segments s = t :: ts :=
  List.exists_cons_of_length_pos (by rw [length_segments]; omega)

theorem spell_questionSlots (n : Nat) (s : List Char) :
    (segments s).headD [] ++ fillSlots [] (questionSlots n (segments s).tail) = s := by
  induction s generalizing n with
  | nil => rfl
  | cons c s ih =>
    obtain ⟨t, ts, hs⟩ := segments_eq_cons s
    by_cases hc : c = qmark
    · have ih := ih (n + 1)
      rw [hs] at ih
      simp only [segments, if_pos hc, hs, List.headD_cons, List.tail_cons, questionSlots_cons, fillSlots] at ih ⊢
      simp [Slot.spell, hc, ih]
    · have ih := ih n
      rw [hs] at ih
      simp only [segments, if_neg hc, hs, List.headD_cons, List.tail_cons] at ih ⊢
      rw [List.cons_append, ih]

/-- The outline of a template spells the template. -/
theorem Outline.spell_of (style : Style) (s : List Char) : (Outline.of style s).spell = s := by
  cases style with
  | none => exact List.append_nil s
  | qmark => exact spell_questionSlots 0 s
  | numeric =>
    have hspells := (cut_of s).spells
    rw [Cut.spell] at hspells
    rw [Outline.spell, Outline.fill, Outline.of, spell_slots, hspells]

end Prepared
