import Mathlib.Tactic.FinCases
import Prepared.Proofs.Number.Notation
import Prepared.Proofs.Text.Trim

/-!
# How numbers are spelled

The text of a number of any type has one shape: a sign, if it is negative, then
letters, digits, points and plus signs, and at most one minus sign between two
of these. So has the word for what is no finite number. Main statement: such a
text has no blanks, and no characters but ASCII ones.
-/

namespace Prepared.Number

open Text

def isWordChar (c : Char) : Bool :=
  isDigit c || 'A' ≤ c && c ≤ 'Z' || 'a' ≤ c && c ≤ 'z' || c == '.' || c == '+'

def IsWord (s : List Char) : Prop := s ≠ [] ∧ ∀ c ∈ s, isWordChar c = true

def IsMagnitude (s : List Char) : Prop := IsWord s ∨ ∃ v w, s = v ++ '-' :: w ∧ IsWord v ∧ IsWord w

def IsSpelling (s : List Char) : Prop := ∃ negative m, s = signed negative m ∧ IsMagnitude m

/-! ## Words -/

instance (s : List Char) : Decidable (IsWord s) :=
  decidable_of_iff (s ≠ [] ∧ s.all isWordChar = true) (by rw [IsWord, List.all_eq_true])

theorem isWordChar_of_isDigit {c : Char} (h : isDigit c = true) : isWordChar c = true := by
  simp [isWordChar, h]

theorem IsWord.append {s t : List Char} (hs : IsWord s) (ht : ∀ c ∈ t, isWordChar c = true) : IsWord (s ++ t) := by
  refine ⟨by simp [hs.1], fun c hc => ?_⟩
  rcases List.mem_append.mp hc with hc | hc
  · exact hs.2 c hc
  · exact ht c hc

theorem IsDigits.isWord {s : List Char} (hs : IsDigits s) : IsWord s :=
  ⟨hs.1, fun c hc => isWordChar_of_isDigit (hs.2 c hc)⟩

theorem isMagnitude_exponent {m ds : List Char} (hm : IsWord m) (hds : IsWord ds) {e : Char}
    (he : isWordChar e = true) (sign : List Char) (hsign : sign = [] ∨ sign = ['+'] ∨ sign = ['-']) :
    IsMagnitude (m ++ e :: (sign ++ ds)) := by
  rcases hsign with rfl | rfl | rfl
  · left
    refine hm.append fun c hc => ?_
    rcases List.mem_cons.mp hc with rfl | hc
    · exact he
    · exact hds.2 c hc
  · left
    refine hm.append fun c hc => ?_
    simp only [List.cons_append, List.nil_append, List.mem_cons] at hc
    rcases hc with rfl | rfl | hc
    · exact he
    · rfl
    · exact hds.2 c hc
  · right
    refine ⟨m ++ [e], ds, by simp, hm.append fun c hc => ?_, hds⟩
    obtain rfl := List.mem_singleton.mp hc
    exact he

theorem IsNumeral.isMagnitude {s : List Char} (h : IsNumeral s) : IsMagnitude s := by
  obtain ⟨whole, fraction, exponent, rfl, hwhole, hfraction, hexponent⟩ := h
  have hword : IsWord (whole ++ fraction) := by
    refine hwhole.isWord.append fun c hc => ?_
    cases hfraction with
    | absent => cases hc
    | point hds =>
      rcases List.mem_cons.mp hc with rfl | hc
      · rfl
      · exact hds.isWord.2 c hc
  cases hexponent with
  | absent => exact Or.inl (by rwa [List.append_nil])
  | power letter signs hds =>
    refine isMagnitude_exponent hword hds.isWord ?_ _ signs
    rcases letter with rfl | rfl <;> rfl

theorem IsNumber.isSpelling {s : List Char} (h : IsNumber s) : IsSpelling s := by
  obtain ⟨negative, m, rfl, hm⟩ := h
  exact ⟨negative, m, rfl, hm.isMagnitude⟩

theorem IsNonFiniteWord.isSpelling {s : List Char} (h : IsNonFiniteWord s) : IsSpelling s := by
  obtain ⟨negative, w, ds, rfl, hw, hds⟩ := h
  have hword : IsWord w := by
    fin_cases hw <;> decide
  exact ⟨negative, w ++ ds, rfl, Or.inl (hword.append fun c hc => isWordChar_of_isDigit (hds c hc))⟩

theorem IsNotation.isSpelling {finite : Bool} {s : List Char} (h : IsNotation finite s) : IsSpelling s := by
  cases finite with
  | true => exact IsNumber.isSpelling h
  | false => exact IsNonFiniteWord.isSpelling h

/-! ## Characters -/

theorem toNat_of_isWordChar {c : Char} (h : isWordChar c = true) : 0x2B ≤ c.toNat ∧ c.toNat ≤ 0x7A := by
  simp only [isWordChar, isDigit, Bool.or_eq_true, Bool.and_eq_true, decide_eq_true_eq, beq_iff_eq, Char.le_def,
    UInt32.le_iff_toNat_le] at h
  rcases h with (((h | h) | h) | rfl) | rfl
  · exact ⟨Nat.le_trans (by decide) h.1, Nat.le_trans h.2 (by decide)⟩
  · exact ⟨Nat.le_trans (by decide) h.1, Nat.le_trans h.2 (by decide)⟩
  · exact ⟨Nat.le_trans (by decide) h.1, Nat.le_trans h.2 (by decide)⟩
  · decide
  · decide

theorem isBlank_of_isWordChar {c : Char} (h : isWordChar c = true) : isBlank c = false := by
  have := toNat_of_isWordChar h
  grind [isBlank]

theorem IsSpelling.mem {s : List Char} (h : IsSpelling s) {c : Char} (hc : c ∈ s) : c = '-' ∨ isWordChar c = true := by
  obtain ⟨negative, m, rfl, hm⟩ := h
  have hmem : c = '-' ∨ c ∈ m := by
    cases negative with
    | false => exact Or.inr hc
    | true => exact List.mem_cons.mp hc
  rcases hmem with rfl | hc
  · exact Or.inl rfl
  · rcases hm with hm | ⟨v, w, rfl, hv, hw⟩
    · exact Or.inr (hm.2 c hc)
    · rcases List.mem_append.mp hc with hc | hc
      · exact Or.inr (hv.2 c hc)
      · rcases List.mem_cons.mp hc with rfl | hc
        · exact Or.inl rfl
        · exact Or.inr (hw.2 c hc)

theorem IsSpelling.trim_eq {s : List Char} (h : IsSpelling s) : trim s = s := by
  refine trim_eq_self fun c hc => ?_
  rcases h.mem hc with rfl | hc
  · rfl
  · exact isBlank_of_isWordChar hc

end Prepared.Number
