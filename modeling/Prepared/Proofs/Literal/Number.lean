import Prepared.Literal.Write
import Prepared.Proofs.Number.Spelling

/-!
# Number literals

A number is written as it reads, unless it is negative: then its sign is split
off and its magnitude is written anew. Main statement: the literal of a number is
a number again, and that of a word for what is no finite number such a word.
-/

namespace Prepared.Number

open Text

/-! ## Reading what is spelled as a number -/

theorem forall_ascii {p : Char → Prop} (h : ∀ n < 0x80, p (Char.ofNat n)) {c : Char} (hc : c.toNat < 0x80) :
    p c := by
  have hp := h c.toNat hc
  rwa [Char.ofNat_toNat] at hp

theorem isAlpha_of_isDigit {c : Char} (hc : isDigit c = true) : c.isAlpha = false ∧ c.toLower = c := by
  have hlt : c.toNat < 0x80 := by
    simp only [isDigit, Bool.and_eq_true, decide_eq_true_eq] at hc
    exact Nat.lt_of_le_of_lt hc.2 (by decide)
  exact forall_ascii (p := fun c => isDigit c = true → c.isAlpha = false ∧ c.toLower = c) (by decide) hlt hc

section
variable (negative : Bool) {c : Char} (r : List Char)

theorem splitSign_signed (hc : c.isAlpha = true ∨ isDigit c = true) :
    splitSign (signed negative (c :: r)) = (negative, c :: r) := by
  have hminus : c ≠ '-' := by rintro rfl; simp [isDigit] at hc
  have hplus : c ≠ '+' := by rintro rfl; simp [isDigit] at hc
  cases negative with
  | true => rfl
  | false => simp [signed, splitSign, hminus, hplus]

theorem Numeral.ofText?_digit (hc : isDigit c = true) :
    Numeral.ofText? (signed negative (c :: r)) = decimalPart? negative (c :: r) := by
  have hi : c ≠ 'i' := by rintro rfl; cases hc
  obtain ⟨halpha, hlower⟩ := isAlpha_of_isDigit hc
  simp [ofText?, splitSign_signed negative r (Or.inr hc), hlower, halpha, ← String.toList_inj, hi]

variable {negative r}

theorem Numeral.finite_of_decimalPart? {s : List Char} {n : Numeral} (h : decimalPart? negative s = some n) :
    ∃ whole fraction exponent, n = .finite negative whole fraction exponent := by
  simp only [decimalPart?, Option.ite_none_left_eq_some] at h
  obtain ⟨exponent, -, rfl⟩ := Option.map_eq_some_iff.mp h.2
  exact ⟨_, _, _, rfl⟩

theorem Numeral.ofText?_letter (hc : c.isAlpha = true) {n : Numeral}
    (h : Numeral.ofText? (signed negative (c :: r)) = some n) :
    n = .infinity negative ∨ ∃ signaling payload, n = .nan negative signaling payload := by
  have hpoint : c ≠ '.' := by rintro rfl; cases hc
  have hdigit : ¬ isDigit c = true := fun hd => by
    rw [(isAlpha_of_isDigit hd).1] at hc
    cases hc
  have hnone : decimalPart? negative (c :: r) = none := by simp [decimalPart?, hdigit, fractionPart, hpoint]
  simp only [ofText?, splitSign_signed negative r (Or.inl hc), hnone] at h
  split at h
  · exact Or.inl (Option.some.inj h).symm
  · split at h
    · exact Or.inr ⟨_, _, (Option.some.inj h).symm⟩
    · split at h
      · exact Or.inr ⟨_, _, (Option.some.inj h).symm⟩
      · cases h

theorem integer?_letter (hc : c.isAlpha = true) (hnone : anyDigit? c = none)
    (h : IsSpelling (signed negative (c :: r))) : integer? (signed negative (c :: r)) = none := by
  have hgroups : groupedDigits? (c :: r) = none := by
    unfold groupedDigits?
    split <;> simp_all
  rw [integer?, h.trim_eq, splitSign_signed negative r (Or.inl hc)]
  simp [hgroups]

end

theorem IsSpelling.plainDigits_eq {s : List Char} (h : IsSpelling s) : (plainDigits s).filter (· != '_') = s := by
  have hself : plainDigits s = s := by
    rw [plainDigits, h.trim_eq]
    refine (List.map_congr_left fun c hc => ?_).trans (List.map_id s)
    have hlt : c.toNat < 0x80 := by
      rcases h.mem hc with rfl | hc
      · decide
      · exact Nat.lt_of_le_of_lt (toNat_of_isWordChar hc).2 (by decide)
    have hdigit : ∀ d ∈ anyDigit? c, Char.ofNat (0x30 + d) = c :=
      forall_ascii (p := fun c => ∀ d ∈ anyDigit? c, Char.ofNat (0x30 + d) = c) (by decide +kernel) hlt
    split
    · next d hd => exact hdigit d hd
    · rfl
  rw [hself, List.filter_eq_self]
  intro c hc
  rcases h.mem hc with rfl | hc
  · rfl
  · rw [bne_iff_ne]
    rintro rfl
    cases hc

theorem IsSpelling.ofText?_eq {s : List Char} (h : IsSpelling s) {d : Decimal} (hd : Decimal.ofText? s = some d) :
    ∃ n, Numeral.ofText? s = some n ∧ d = .ofNumeral n := by
  rw [Decimal.ofText?, h.plainDigits_eq] at hd
  obtain ⟨n, hn, heq⟩ := Option.map_eq_some_iff.mp (Option.filter_eq_some_iff.mp hd).1
  exact ⟨n, hn, heq.symm⟩

/-! ## Numbers -/

theorem IsNumeral.cons {s : List Char} (h : IsNumeral s) : ∃ c r, s = c :: r ∧ isDigit c = true := by
  obtain ⟨whole, fraction, exponent, rfl, hwhole, -, -⟩ := h
  obtain ⟨c, r, rfl⟩ := List.exists_cons_of_ne_nil hwhole.1
  exact ⟨c, r ++ fraction ++ exponent, by simp, hwhole.2 c (by simp)⟩

theorem IsNumber.finite_of_ofText? {s : List Char} (h : IsNumber s) {d : Decimal} (hd : Decimal.ofText? s = some d) :
    ∃ negative coefficient exponent, d = .finite negative coefficient exponent := by
  obtain ⟨n, hn, rfl⟩ := h.isSpelling.ofText?_eq hd
  obtain ⟨negative, m, rfl, hm⟩ := h
  obtain ⟨c, r, rfl, hc⟩ := hm.cons
  rw [Numeral.ofText?_digit negative r hc] at hn
  obtain ⟨whole, fraction, exponent, rfl⟩ := Numeral.finite_of_decimalPart? hn
  exact ⟨_, _, _, rfl⟩

theorem Decimal.isNumeral_magnitude {negative : Bool} {coefficient : Nat} {exponent : Int} {m : Decimal}
    (h : (Decimal.finite negative coefficient exponent).magnitude? = some m) : IsNumeral m.text := by
  simp only [magnitude?, rounded?, Option.ite_none_left_eq_some] at h
  obtain rfl := Option.some.inj h.2
  obtain ⟨m, htext, hm⟩ := text_finite false _ _
  rw [htext]
  exact hm

theorem IsNumber.number {s : List Char} (h : IsNumber s) : IsNumber (Literal.number s) := by
  unfold Literal.number
  cases hm : Literal.negativeMagnitude? s with
  | none =>
    rw [h.isSpelling.trim_eq]
    exact h
  | some m =>
    refine ⟨true, m, rfl, ?_⟩
    unfold Literal.negativeMagnitude? at hm
    split at hm
    · obtain rfl := Option.some.inj (Option.ite_none_right_eq_some.mp hm).2
      exact (isDigits_toDigits _).isNumeral
    · split at hm
      · next d hd =>
        obtain ⟨-, hm⟩ := Option.ite_none_right_eq_some.mp hm
        obtain ⟨negative, coefficient, exponent, rfl⟩ := h.finite_of_ofText? hd
        obtain ⟨r, hr, rfl⟩ := Option.map_eq_some_iff.mp hm
        exact Decimal.isNumeral_magnitude hr
      · cases hm

/-! ## Words -/

theorem cons_of_nonFiniteWord {w : List Char} (h : w ∈ nonFiniteWords) :
    ∃ c r, w = c :: r ∧ c.isAlpha = true ∧ anyDigit? c = none := by
  fin_cases h <;> exact ⟨_, _, rfl, by decide, by decide⟩

theorem IsNonFiniteWord.number_eq {s : List Char} (h : IsNonFiniteWord s) :
    Literal.number s = s ∨ Literal.number s = "-Infinity".toList := by
  have hspelling := h.isSpelling
  obtain ⟨negative, w, ds, rfl, hw, -⟩ := h
  obtain ⟨c, r, rfl, hc, hnone⟩ := cons_of_nonFiniteWord hw
  rw [List.cons_append] at hspelling ⊢
  have hmagnitude : Literal.negativeMagnitude? (signed negative (c :: (r ++ ds))) = none ∨
      Literal.negativeMagnitude? (signed negative (c :: (r ++ ds))) = some "Infinity".toList := by
    rw [Literal.negativeMagnitude?, integer?_letter hc hnone hspelling]
    cases hd : Decimal.ofText? (signed negative (c :: (r ++ ds))) with
    | none => exact Or.inl rfl
    | some d =>
      obtain ⟨n, hn, rfl⟩ := hspelling.ofText?_eq hd
      obtain rfl | ⟨signaling, payload, rfl⟩ := Numeral.ofText?_letter hc hn
      · cases negative with
        | false => exact Or.inl rfl
        | true => exact Or.inr rfl
      · exact Or.inl rfl
  rw [Literal.number]
  rcases hmagnitude with hm | hm <;> rw [hm]
  · exact Or.inl hspelling.trim_eq
  · exact Or.inr rfl

theorem IsNonFiniteWord.number {s : List Char} (h : IsNonFiniteWord s) : IsNonFiniteWord (Literal.number s) := by
  rcases h.number_eq with heq | heq <;> rw [heq]
  · exact h
  · exact ⟨true, "Infinity".toList, [], rfl, by decide, nofun⟩

theorem IsNotation.number {finite : Bool} {s : List Char} (h : IsNotation finite s) :
    IsNotation finite (Literal.number s) := by
  cases finite with
  | true => exact IsNumber.number h
  | false => exact IsNonFiniteWord.number h

end Prepared.Number
