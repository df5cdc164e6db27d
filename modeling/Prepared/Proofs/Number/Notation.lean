import Mathlib.Data.List.TakeWhile
import Mathlib.Tactic.Ring
import Prepared.Number.Shortest
import Prepared.Proofs.Number.Digits

/-!
# The notation of numbers

Digits, a point with more digits behind it, and an exponent, where the last two
may be missing. What is no finite number has a word instead. Main statement: the
texts of decimals and of binary numbers are numbers or words, depending on which
they are, behind a minus sign where they are negative.
-/

namespace Prepared.Number

open Text

def IsDigits (s : List Char) : Prop := s ≠ [] ∧ ∀ c ∈ s, isDigit c = true

instance (s : List Char) : Decidable (IsDigits s) :=
  decidable_of_iff (s ≠ [] ∧ s.all isDigit = true) (by rw [IsDigits, List.all_eq_true])

inductive IsFraction : List Char → Prop
  | absent : IsFraction []
  | point {ds : List Char} (h : IsDigits ds) : IsFraction ('.' :: ds)

inductive IsExponent : List Char → Prop
  | absent : IsExponent []
  | power {e : Char} {sign ds : List Char} (letter : e = 'e' ∨ e = 'E')
      (signs : sign = [] ∨ sign = ['+'] ∨ sign = ['-']) (h : IsDigits ds) : IsExponent (e :: (sign ++ ds))

def IsNumeral (s : List Char) : Prop :=
  ∃ whole fraction exponent, s = whole ++ fraction ++ exponent ∧ IsDigits whole ∧ IsFraction fraction ∧
    IsExponent exponent

def IsNumber (s : List Char) : Prop := ∃ negative m, s = signed negative m ∧ IsNumeral m

def nonFiniteWords : List (List Char) := ["inf", "Infinity", "nan", "NaN", "sNaN"].map String.toList

def IsNonFiniteWord (s : List Char) : Prop :=
  ∃ negative w ds, s = signed negative (w ++ ds) ∧ w ∈ nonFiniteWords ∧ ∀ c ∈ ds, isDigit c = true

def IsNotation (finite : Bool) (s : List Char) : Prop := if finite then IsNumber s else IsNonFiniteWord s

/-! ## Digits -/

theorem isDigits_toDigits (n : Nat) : IsDigits (Nat.toDigits 10 n) :=
  ⟨Nat.toDigits_ne_nil, fun _ => isDigit_of_mem_toDigits⟩

section
variable {s t : List Char} {n : Nat}

theorem IsDigits.append (hs : IsDigits s) (ht : ∀ c ∈ t, isDigit c = true) : IsDigits (s ++ t) :=
  ⟨by simp [hs.1], fun c hc => (List.mem_append.mp hc).elim (hs.2 c) (ht c)⟩

theorem IsDigits.zeros_append (n : Nat) (hs : IsDigits s) : IsDigits (List.replicate n '0' ++ s) := by
  refine ⟨by simp [hs.1], fun c hc => ?_⟩
  rcases List.mem_append.mp hc with hc | hc
  · obtain rfl := List.eq_of_mem_replicate hc
    rfl
  · exact hs.2 c hc

theorem IsDigits.append_zeros (hs : IsDigits s) (n : Nat) : IsDigits (s ++ List.replicate n '0') := by
  refine hs.append fun c hc => ?_
  obtain rfl := List.eq_of_mem_replicate hc
  rfl

theorem IsDigits.take (hs : IsDigits s) (h : 0 < n) : IsDigits (s.take n) :=
  ⟨by simp [hs.1, Nat.ne_of_gt h], fun c hc => hs.2 c (List.mem_of_mem_take hc)⟩

theorem IsDigits.drop (hs : IsDigits s) (h : n < s.length) : IsDigits (s.drop n) :=
  ⟨by simpa using h, fun c hc => hs.2 c (List.mem_of_mem_drop hc)⟩

theorem isDigits_padded (width n : Nat) : IsDigits (padded width n) :=
  (isDigits_toDigits n).zeros_append _

end

/-! ## Numerals -/

section
variable {ds e : List Char} (hds : IsDigits ds)
include hds

theorem IsDigits.isNumeral : IsNumeral ds := ⟨ds, [], [], by simp, hds, .absent, .absent⟩

theorem IsDigits.pointed (place : Int) :
    ∃ whole fraction, Decimal.pointed ds place = whole ++ fraction ∧ IsDigits whole ∧ IsFraction fraction := by
  unfold Decimal.pointed
  split
  · exact ⟨['0'], _, rfl, by decide, .point (hds.zeros_append _)⟩
  · next hplace =>
    split
    · exact ⟨_, [], (List.append_nil _).symm, hds.append_zeros _, .absent⟩
    · next hlength => exact ⟨_, _, rfl, hds.take (by omega), .point (hds.drop (by omega))⟩

theorem IsDigits.pointed_append (place : Int) (he : IsExponent e) : IsNumeral (Decimal.pointed ds place ++ e) := by
  obtain ⟨whole, fraction, hsplit, hwhole, hfraction⟩ := hds.pointed place
  exact ⟨whole, fraction, e, by rw [hsplit], hwhole, hfraction, he⟩

theorem IsDigits.isNumeral_pointed (place : Int) : IsNumeral (Decimal.pointed ds place) := by
  have h := hds.pointed_append place .absent
  rwa [List.append_nil] at h

end

theorem isNumber_integerText {n : Int} {s : List Char} (h : integerText n = .ok s) : IsNumber s := by
  unfold integerText at h
  split at h
  · obtain rfl := Except.ok.inj h
    exact ⟨_, _, rfl, (isDigits_toDigits _).isNumeral⟩
  · cases h

/-! ## Decimals -/

namespace Decimal

theorem isExponent_exponentText (e : Int) : IsExponent (exponentText e) := by
  unfold exponentText
  split
  · exact .power (Or.inr rfl) (Or.inr (Or.inr rfl)) (isDigits_toDigits e.natAbs)
  · exact .power (Or.inr rfl) (Or.inr (Or.inl rfl)) (isDigits_toDigits e.natAbs)

theorem text_finite (negative : Bool) (coefficient : Nat) (exponent : Int) :
    ∃ m, (Decimal.finite negative coefficient exponent).text = signed negative m ∧ IsNumeral m := by
  have hds := isDigits_toDigits coefficient
  refine ⟨_, rfl, ?_⟩
  split
  · exact hds.isNumeral_pointed _
  · split
    · exact hds.isNumeral_pointed 1
    · exact hds.pointed_append 1 (isExponent_exponentText _)

def isFinite : Decimal → Bool
  | .finite .. => true
  | _ => false

theorem isNotation_text (d : Decimal) : IsNotation d.isFinite d.text := by
  cases d with
  | finite negative coefficient exponent => exact ⟨negative, text_finite negative coefficient exponent⟩
  | infinity negative => exact ⟨negative, "Infinity".toList, [], rfl, by decide, nofun⟩
  | nan negative signaling payload =>
    refine ⟨negative, (if signaling then "sNaN" else "NaN").toList, _, rfl, ?_, ?_⟩
    · cases signaling <;> decide
    · split
      · exact nofun
      · exact (isDigits_toDigits payload).2

end Decimal

/-! ## Binary numbers -/

theorem isExponent_exponentText (l : Layout) (e : Int) : IsExponent (l.exponentText e) := by
  unfold Layout.exponentText
  refine .power (Or.inl rfl) ?_ (isDigits_padded l.exponentWidth e.natAbs)
  split
  · exact Or.inr (Or.inr rfl)
  · split
    · exact Or.inr (Or.inl rfl)
    · exact Or.inl rfl

theorem pointed_of_length_le {ds : List Char} {place : Int} (hds : ds ≠ []) (h : (ds.length : Int) ≤ place) :
    Decimal.pointed ds place = ds ++ List.replicate (place.toNat - ds.length) '0' := by
  have hpos : 0 < ds.length := List.length_pos_iff.mpr hds
  rw [Decimal.pointed, if_neg (by omega), if_pos h]

theorem isNumeral_write (l : Layout) {d : Digits} (hd : IsDigits d.digits) : IsNumeral (l.write d) := by
  unfold Layout.write
  split
  · unfold Layout.positional
    split
    · next hwhole =>
      rw [pointed_of_length_le hd.1 hwhole]
      exact ⟨_, ['.', '0'], [], (List.append_nil _).symm, hd.append_zeros _, .point (by decide), .absent⟩
    · exact hd.isNumeral_pointed _
  · exact hd.pointed_append 1 (isExponent_exponentText l _)

theorem isDigits_ofScaled {n : Nat} (h : n ≠ 0) (e : Int) : IsDigits (Digits.ofScaled n e).digits := by
  refine ⟨fun hnil => ?_, fun c hc => ?_⟩
  · have hzeros : ∀ c ∈ (Nat.toDigits 10 n).reverse, (c == '0') = true :=
      List.dropWhile_eq_nil_iff.mp (List.reverse_eq_nil_iff.mp hnil)
    obtain ⟨c, r, hcons⟩ := List.exists_cons_of_ne_nil (Nat.toDigits_ne_nil (b := 10) (n := n))
    have hc : c = '0' := beq_iff_eq.mp (hzeros c (by simp [hcons]))
    exact head?_toDigits h (by rw [hcons, hc]; rfl)
  · have hsub := (List.dropWhile_suffix (l := (Nat.toDigits 10 n).reverse) (· == '0')).subset
    exact isDigit_of_mem_toDigits (List.mem_reverse.mp (hsub (List.mem_reverse.mp hc)))

theorem pow_le_of_digitCount {c n : Nat} (hc : c ≠ 0) (h : n < digitCount c) : 10 ^ n ≤ c := by
  rcases Nat.eq_zero_or_pos n with rfl | hn
  · exact Nat.one_le_iff_ne_zero.mpr hc
  · have hlength : ¬ (Nat.toDigits 10 c).length ≤ n := Nat.not_le.mpr h
    rw [Nat.length_toDigits_le_iff (by decide) hn] at hlength
    exact Nat.not_lt.mp hlength

namespace Interval

theorem holds_zero {i : Interval} (hlow : 0 < i.low) (hscale : 0 < i.scale.1) (e : Int) : i.holds 0 e = false := by
  by_cases he : 0 ≤ e <;> simp [holds, he, Nat.ne_of_gt hlow, Nat.ne_of_gt hscale]

theorem onGrid?_ne_zero {i : Interval} (hlow : 0 < i.low) (hscale : 0 < i.scale.1) {e : Int} {n : Nat}
    (h : i.onGrid? e = some n) : n ≠ 0 := by
  have hne {k : Nat} (hk : i.holds k e = true) : k ≠ 0 := by
    rintro rfl
    rw [holds_zero hlow hscale] at hk
    cases hk
  unfold onGrid? at h
  grind

section
variable (mantissa : Nat) (exponent : Int)

theorem scale_pos : 0 < (ofBinary mantissa exponent).scale.1 ∧ 0 < (ofBinary mantissa exponent).scale.2 := by
  unfold ofBinary
  dsimp only
  split
  · exact ⟨Nat.pow_pos (by decide), Nat.one_pos⟩
  · exact ⟨Nat.one_pos, Nat.pow_pos (by decide)⟩

theorem low_pos (h : mantissa ≠ 0) : 0 < (ofBinary mantissa exponent).low := by
  unfold ofBinary
  dsimp only
  split <;> omega

theorem toDecimal_eq :
    ∃ c k : Nat, Binary64.toDecimal (.finite false mantissa exponent) = .finite false c (-k) ∧
      (ofBinary mantissa exponent).value * (ofBinary mantissa exponent).scale.1 * 10 ^ k =
        c * (ofBinary mantissa exponent).scale.2 := by
  unfold Binary64.toDecimal ofBinary
  dsimp only
  by_cases hsign : 0 ≤ exponent
  · rw [if_pos hsign]
    refine ⟨_, 0, rfl, ?_⟩
    split
    · obtain ⟨j, rfl⟩ : ∃ j : Nat, exponent = j + 2 := ⟨(exponent - 2).toNat, by omega⟩
      have hunit : ((j : Int) + 2 - 2).toNat = j := by omega
      have hwhole : ((j : Int) + 2).toNat = j + 2 := by omega
      simp only [hunit, hwhole, Nat.pow_eq]
      ring
    · obtain rfl | rfl : exponent = 0 ∨ exponent = 1 := by omega
      · change 4 * mantissa * 1 * 1 = mantissa * 1 * 4
        omega
      · change 4 * mantissa * 1 * 1 = mantissa * 2 * 2
        omega
  · rw [if_neg hsign, if_neg (by omega)]
    obtain ⟨j, rfl⟩ : ∃ j : Nat, exponent = -j := ⟨(-exponent).toNat, by omega⟩
    refine ⟨_, j, rfl, ?_⟩
    have hunit : (2 - -(j : Int)).toNat = j + 2 := by omega
    have hfives : (- -(j : Int)).toNat = j := by omega
    have htens : 10 ^ j = 5 ^ j * 2 ^ j := Nat.mul_pow 5 2 j
    simp only [hunit, hfives, htens, Nat.pow_eq]
    ring

end

theorem floor_ne_zero {mantissa : Nat} (hm : mantissa ≠ 0) {exponent e : Int}
    (he : e < wholeDigits mantissa exponent) : ((ofBinary mantissa exponent).floor e).1 ≠ 0 := by
  obtain ⟨c, k, hdecimal, hvalue⟩ := toDecimal_eq mantissa exponent
  obtain ⟨ha, hb⟩ := scale_pos mantissa exponent
  have hten : 0 < 10 ^ k := Nat.pow_pos (by decide)
  have hwhole : wholeDigits mantissa exponent = -k + digitCount c := by simp only [wholeDigits, hdecimal]
  have hc : c ≠ 0 := by
    rintro rfl
    have hleft : 0 < 4 * mantissa := by omega
    have hpos := Nat.mul_pos (Nat.mul_pos hleft ha) hten
    rw [Nat.zero_mul] at hvalue
    exact Nat.ne_of_gt hpos hvalue
  have hcount : 0 < digitCount c := List.length_pos_iff.mpr Nat.toDigits_ne_nil
  generalize ofBinary mantissa exponent = i at hvalue ha hb ⊢
  -- Both sides are compared after multiplying by `10 ^ k`, which makes the value whole.
  unfold floor
  apply Nat.ne_of_gt
  by_cases hsign : 0 ≤ e
  · simp only [if_pos hsign, Nat.pow_eq]
    refine Nat.div_pos (Nat.le_of_mul_le_mul_right ?_ hten) (Nat.mul_pos hb (Nat.pow_pos (by decide)))
    have hle : 10 ^ (e.toNat + k) ≤ c := pow_le_of_digitCount hc (by omega)
    calc i.scale.2 * 10 ^ e.toNat * 10 ^ k = 10 ^ (e.toNat + k) * i.scale.2 := by ring
      _ ≤ c * i.scale.2 := Nat.mul_le_mul_right _ hle
      _ = i.value * i.scale.1 * 10 ^ k := hvalue.symm
  · simp only [if_neg hsign, Nat.pow_eq]
    refine Nat.div_pos (Nat.le_of_mul_le_mul_right ?_ hten) hb
    have hle : 10 ^ (k - (-e).toNat) ≤ c := pow_le_of_digitCount hc (by omega)
    calc i.scale.2 * 10 ^ k ≤ i.scale.2 * (10 ^ (k - (-e).toNat) * 10 ^ (-e).toNat) := by
          rw [← Nat.pow_add]
          exact Nat.mul_le_mul_left _ (Nat.pow_le_pow_right (by decide) (by omega))
      _ ≤ i.scale.2 * (c * 10 ^ (-e).toNat) := Nat.mul_le_mul_left _ (Nat.mul_le_mul_right _ hle)
      _ = c * i.scale.2 * 10 ^ (-e).toNat := by ring
      _ = i.value * i.scale.1 * 10 ^ (-e).toNat * 10 ^ k := by rw [← hvalue]; ring

end Interval

theorem isDigits_shortest {mantissa : Nat} (hm : mantissa ≠ 0) (exponent : Int) :
    IsDigits (shortest mantissa exponent).digits := by
  unfold shortest
  dsimp only
  split
  · next d hd =>
    obtain ⟨e, -, he⟩ := List.exists_of_findSome?_eq_some hd
    obtain ⟨n, hn, rfl⟩ := Option.map_eq_some_iff.mp he
    have hne := Interval.onGrid?_ne_zero (Interval.low_pos mantissa exponent hm)
      (Interval.scale_pos mantissa exponent).1 hn
    exact isDigits_ofScaled hne e
  · exact isDigits_ofScaled (Interval.floor_ne_zero hm (by omega)) _

theorem isNumber_finite (l : Layout) (negative : Bool) (mantissa : Nat) (exponent : Int) :
    IsNumber (l.finite negative mantissa exponent) := by
  refine ⟨negative, _, rfl, ?_⟩
  split
  · exact ⟨['0'], ['.', '0'], [], rfl, by decide, .point (by decide), .absent⟩
  · next hm => exact isNumeral_write l (isDigits_shortest hm exponent)

theorem Binary64.isNotation_text (x : Binary64) : IsNotation x.toDecimal.isFinite x.text := by
  cases x with
  | finite negative mantissa exponent =>
    have hfinite : (Binary64.finite negative mantissa exponent).toDecimal.isFinite = true := by
      by_cases h : 0 ≤ exponent <;> simp [toDecimal, h, Decimal.isFinite]
    rw [hfinite]
    exact isNumber_finite display negative mantissa exponent
  | infinity negative => exact ⟨negative, "inf".toList, [], rfl, by decide, nofun⟩
  | nan => exact ⟨false, "nan".toList, [], rfl, by decide, nofun⟩

end Prepared.Number
