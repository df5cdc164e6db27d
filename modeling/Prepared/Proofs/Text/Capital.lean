import Mathlib
import Prepared.Text.Upper

/-!
# Plain capitals

The texts whose upper case consists of ASCII capitals. Besides the ASCII letters
two more have such a capital, the long s and the dotless i, and some ligatures
have several. Main statement: where none of those several stand side by side, the
upper case is that of the letters one by one.
-/

namespace Prepared.Text

/-- The letter of ASCII that has the same capital. -/
def plainLetter (c : Char) : Char := if c = 'ſ' then 's' else if c = 'ı' then 'i' else c

def plainCapital (c : Char) : Char := (plainLetter c).toUpper

def ligatures : List (List Char) := [['F', 'F'], ['F', 'I'], ['F', 'L'], ['S', 'S'], ['S', 'T']]

/-- Capitals without such a pair among them. -/
def IsSpelledOut (s : List Char) : Prop := (∀ c ∈ s, c.isUpper = true) ∧ ∀ p ∈ ligatures, ¬ p <:+: s

theorem isUpper_iff {c : Char} : c.isUpper = true ↔ 0x41 ≤ c.toNat ∧ c.toNat ≤ 0x5A := by
  simp only [Char.isUpper, decide_eq_true_eq, ge_iff_le, UInt32.le_iff_toNat_le]
  rfl

theorem isLower_iff {c : Char} : c.isLower = true ↔ 0x61 ≤ c.toNat ∧ c.toNat ≤ 0x7A := by
  simp only [Char.isLower, Bool.and_eq_true, decide_eq_true_eq, ge_iff_le, UInt32.le_iff_toNat_le]
  rfl

theorem lt_of_isAlpha {c : Char} (h : c.isAlpha = true) : c.toNat < 0x80 := by
  rw [Char.isAlpha, Bool.or_eq_true, isUpper_iff, isLower_iff] at h
  omega

/-! ## One character -/

theorem covers_iff {r : CaseRun} {n : Nat} :
    r.covers n = true ↔ r.first ≤ n ∧ n ≤ r.last ∧ (n - r.first) % r.stride = 0 := by
  simp [CaseRun.covers, and_assoc]

theorem low_runs : ∀ r ∈ caseRuns, (r.first = 0x61 ∧ r.last = 0x7A ∧ r.offset = -32) ∨
    (r.first = 0x131 ∧ r.last = 0x131 ∧ r.offset = -232) ∨ (r.first = 0x17F ∧ r.last = 0x17F ∧ r.offset = -300) ∨
    0x5A < r.first + r.offset := by
  decide +kernel

theorem two_le_length : ∀ e ∈ longUpper, 2 ≤ e.2.length := by decide +kernel

theorem upperChar_of_lt {c : Char} (h : c.toNat < 0x61) : upperChar c = [c] := by
  have hruns : caseRuns.find? (·.covers c.toNat) = none := by
    rw [List.find?_eq_none]
    intro r hr hcovers
    have hfirst : ∀ r ∈ caseRuns, 0x61 ≤ r.first := by decide +kernel
    have := (covers_iff.mp hcovers).1
    have := hfirst r hr
    omega
  have hlong : longUpper.lookup c.toNat = none := by
    rw [List.lookup_eq_none_iff]
    intro e he
    have hkey : ∀ e ∈ longUpper, 0x61 ≤ e.1 := by decide +kernel
    have := hkey e he
    simp only [bne_iff_ne, ne_eq]
    omega
  simp [upperChar, hruns, hlong]

theorem upperChar_of_isLower {c : Char} (h : c.isLower = true) : upperChar c = [c.toUpper] := by
  have hbounds := isLower_iff.mp h
  have hcovers : CaseRun.covers ⟨0x61, 0x7A, 1, -32⟩ c.toNat = true := by
    simp only [covers_iff, Nat.mod_one]
    exact ⟨hbounds.1, hbounds.2, trivial⟩
  have hfound : caseRuns.find? (·.covers c.toNat) = some ⟨0x61, 0x7A, 1, -32⟩ := by
    have hcons : caseRuns = ⟨0x61, 0x7A, 1, -32⟩ :: caseRuns.tail := rfl
    rw [hcons, List.find?_cons, hcovers]
  have hoffset : ((c.toNat : Int) + (-32)).toNat = c.toNat - 32 := by omega
  simp [upperChar, hfound, hoffset, Char.toUpper_eq_of_isLower h]

theorem upperChar_of_plainCapital {c : Char} (h : (plainCapital c).isUpper = true) :
    upperChar c = [plainCapital c] := by
  unfold plainCapital plainLetter at *
  by_cases hlong : c = 'ſ'
  · subst hlong
    decide +kernel
  · by_cases hdotless : c = 'ı'
    · subst hdotless
      decide +kernel
    · simp only [hlong, hdotless, if_false] at h ⊢
      by_cases hlower : c.isLower = true
      · exact upperChar_of_isLower hlower
      · rw [Char.toUpper_eq_of_not_isLower hlower] at h ⊢
        have := isUpper_iff.mp h
        exact upperChar_of_lt (by omega)

theorem upperChar_cases (c : Char) :
    (∃ r ∈ caseRuns, r.covers c.toNat = true ∧ upperChar c = [Char.ofNat (c.toNat + r.offset).toNat]) ∨
      (∃ us, (c.toNat, us) ∈ longUpper ∧ upperChar c = us.map Char.ofNat) ∨ upperChar c = [c] := by
  cases hfound : caseRuns.find? (·.covers c.toNat) with
  | some r =>
    have hcovers := List.find?_some hfound
    exact .inl ⟨r, List.mem_of_find?_eq_some hfound, hcovers, by simp [upperChar, hfound]⟩
  | none =>
    cases hlong : longUpper.lookup c.toNat with
    | some us =>
      obtain ⟨before, after, hsplit, -⟩ := List.lookup_eq_some_iff.mp hlong
      exact .inr (.inl ⟨us, by simp [hsplit], by simp [upperChar, hfound, hlong]⟩)
    | none => exact .inr (.inr (by simp [upperChar, hfound, hlong]))

theorem plainLetter_of_lt {c : Char} (h : c.toNat < 0x80) : plainLetter c = c := by
  have hlong : c ≠ 'ſ' := by rintro rfl; exact absurd h (by decide)
  have hdotless : c ≠ 'ı' := by rintro rfl; exact absurd h (by decide)
  simp [plainLetter, hlong, hdotless]

/-- A character whose upper case is one capital is an ASCII letter or one of the two that look like one. -/
theorem plainCapital_of_upperChar {c d : Char} (hd : d.isUpper = true) (h : upperChar c = [d]) :
    plainCapital c = d := by
  have hbounds := isUpper_iff.mp hd
  rcases upperChar_cases c with ⟨r, hr, hcovers, hc⟩ | ⟨us, hus, hc⟩ | hc
  · rw [covers_iff] at hcovers
    -- A run moves a letter by its offset, and `d` is an ASCII capital: few runs go that low.
    have hof : Char.ofNat (c.toNat + r.offset).toNat = d := List.singleton_inj.mp (hc.symm.trans h)
    have hnat : ((c.toNat : Int) + r.offset).toNat = d.toNat := by
      have htoNat := congrArg Char.toNat hof
      rw [Char.toNat_ofNat] at htoNat
      split at htoNat <;> omega
    rcases low_runs r hr with hr | hr | hr | hr
    · have hlower : c.isLower = true := isLower_iff.mpr (by omega)
      rw [plainCapital, plainLetter_of_lt (by omega), Char.toUpper_eq_of_isLower hlower, ← hof]
      congr 1
      omega
    · obtain rfl : c = 'ı' := Char.toNat_inj.mp (by change c.toNat = 0x131; omega)
      rw [← hof, hr.2.2]
      decide
    · obtain rfl : c = 'ſ' := Char.toNat_inj.mp (by change c.toNat = 0x17F; omega)
      rw [← hof, hr.2.2]
      decide
    · omega
  · have htwo := two_le_length _ hus
    have hone := congrArg List.length (hc.symm.trans h)
    simp only [List.length_map, List.length_singleton] at hone htwo
    omega
  · obtain rfl : c = d := List.singleton_inj.mp (hc.symm.trans h)
    have hlower : ¬ c.isLower = true := fun h => by have := isLower_iff.mp h; omega
    rw [plainCapital, plainLetter_of_lt (by omega), Char.toUpper_eq_of_not_isLower hlower]

theorem letter_of_isUpper {c : Char} (h : (plainCapital c).isUpper = true) :
    c = 'ſ' ∨ c = 'ı' ∨ c.isAlpha = true := by
  by_cases hlong : c = 'ſ'
  · exact .inl hlong
  · by_cases hdotless : c = 'ı'
    · exact .inr (.inl hdotless)
    · simp only [plainCapital, plainLetter, hlong, hdotless, if_false, Char.isUpper_toUpper_eq_isAlpha] at h
      exact .inr (.inr h)

/-! ## Texts -/

theorem upper_cons (c : Char) (s : List Char) : upper (c :: s) = upperChar c ++ upper s := rfl

theorem IsSpelledOut.tail {c : Char} {s : List Char} (h : IsSpelledOut (c :: s)) : IsSpelledOut s :=
  ⟨fun d hd => h.1 d (List.mem_cons_of_mem _ hd), fun e he hinfix => h.2 e he (List.infix_cons hinfix)⟩

theorem isUpper_ofNat {n : Nat} (h : (Char.ofNat n).isUpper = true) : n ≤ 0x5A := by
  have hbounds := isUpper_iff.mp h
  rw [Char.toNat_ofNat] at hbounds
  split at hbounds <;> omega

theorem low_ligatures : ∀ e ∈ longUpper, (∀ n ∈ e.2, n ≤ 0x5A) → (e.2.map Char.ofNat).take 2 ∈ ligatures := by
  decide +kernel

theorem IsSpelledOut.upperChar_eq {c : Char} {s t : List Char} (h : IsSpelledOut s) (hs : upperChar c ++ t = s) :
    ∃ d, upperChar c = [d] := by
  rcases upperChar_cases c with ⟨r, -, -, hc⟩ | ⟨us, hus, hc⟩ | hc
  · exact ⟨_, hc⟩
  -- Several capitals of one character would be a pair that is not in `s`.
  · rw [hc] at hs
    have hlow : ∀ n ∈ us, n ≤ 0x5A := fun n hn =>
      isUpper_ofNat (h.1 _ (hs ▸ List.mem_append_left t (List.mem_map_of_mem hn)))
    have hinfix : (us.map Char.ofNat).take 2 <:+: s :=
      ((List.take_prefix ..).trans (hs ▸ List.prefix_append _ t)).isInfix
    exact absurd hinfix (h.2 _ (low_ligatures _ hus hlow))
  · exact ⟨c, hc⟩

theorem upper_eq_iff {s t : List Char} (h : IsSpelledOut t) : upper s = t ↔ s.map plainCapital = t := by
  induction s generalizing t with
  | nil => rfl
  | cons c s ih =>
    rw [upper_cons, List.map_cons]
    constructor
    · intro hupper
      obtain ⟨d, hd⟩ := h.upperChar_eq hupper
      rw [hd] at hupper
      subst hupper
      have hcapital : plainCapital c = d := plainCapital_of_upperChar (h.1 d (by simp)) hd
      have hrest : s.map plainCapital = upper s := (ih h.tail).mp rfl
      rw [hcapital, hrest]
      rfl
    · intro hmap
      subst hmap
      have hrest : upper s = s.map plainCapital := (ih h.tail).mpr rfl
      rw [upperChar_of_plainCapital (h.1 _ (by simp)), hrest]
      rfl

end Prepared.Text
