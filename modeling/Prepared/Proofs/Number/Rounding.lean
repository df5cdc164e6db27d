import Prepared.Proofs.Number.Denotation

/-!
# What arithmetic keeps

Arithmetic has room for so many digits, and reaches down to a least exponent.
Main statement: the value of a decimal survives rounding exactly when it fits,
that is, when some coefficient with that many digits and some exponent within
reach give it.
-/

namespace Prepared.Number

def Fits (p : Decimal.Precision) (x : ℚ) : Prop :=
  ∃ (c : Nat) (e : Int), digitCount c ≤ p.digits ∧ p.lowest - p.digits + 1 ≤ e ∧ x = c * 10 ^ e

/-! ## Digits and powers of ten -/

theorem digitCount_pos (n : Nat) : 0 < digitCount n := List.length_pos_iff.mpr Nat.toDigits_ne_nil

theorem digitCount_le_iff {c n : Nat} (hn : 0 < n) : digitCount c ≤ n ↔ c < 10 ^ n :=
  Nat.length_toDigits_le_iff (by decide) hn

theorem lt_pow_digitCount (c : Nat) : c < 10 ^ digitCount c :=
  (digitCount_le_iff (digitCount_pos c)).mp (Nat.le_refl _)

theorem scaled_zpow (c k : Nat) (e : Int) : (c : ℚ) * 10 ^ (e + k) = (c * 10 ^ k : Nat) * 10 ^ e := by
  rw [zpow_add₀ (by norm_num), zpow_natCast]
  push_cast
  ring

theorem scaled_inj {c c' : Nat} {e : Int} : (c : ℚ) * 10 ^ e = c' * 10 ^ e ↔ c = c' := by
  have hne : (10 : ℚ) ^ e ≠ 0 := zpow_ne_zero e (by norm_num)
  rw [mul_left_inj' hne, Nat.cast_inj]

/-! ## Dropping digits -/

def keptDigits (c drop : Nat) : Nat :=
  if digitCount c < drop then 0 else roundQuotient c (Nat.pow 10 drop)

theorem roundQuotient_le (num den : Nat) : roundQuotient num den ≤ num / den + 1 := by
  unfold roundQuotient
  grind

section
variable (c drop : Nat)

theorem keptDigits_le : keptDigits c drop ≤ 10 ^ (digitCount c - drop) := by
  unfold keptDigits
  split
  · exact Nat.zero_le _
  · have hlt : c < 10 ^ (digitCount c - drop) * 10 ^ drop := by
      rw [← Nat.pow_add, Nat.sub_add_cancel (by omega)]
      exact lt_pow_digitCount c
    exact Nat.le_trans (roundQuotient_le _ _) (Nat.div_lt_of_lt_mul (by rwa [Nat.mul_comm]))

theorem keptDigits_mul_eq_iff : keptDigits c drop * 10 ^ drop = c ↔ 10 ^ drop ∣ c := by
  refine ⟨fun h => Dvd.intro_left _ h, ?_⟩
  rintro ⟨k, hk⟩
  unfold keptDigits
  split
  · next hlt =>
    have hsmall : c < 10 ^ drop :=
      Nat.lt_of_lt_of_le (lt_pow_digitCount c) (Nat.pow_le_pow_right (by decide) (Nat.le_of_lt hlt))
    have hzero := Nat.eq_zero_of_dvd_of_lt ⟨k, hk⟩ hsmall
    rw [hzero, Nat.zero_mul]
  · have hround := roundQuotient_mul k (Nat.pow_pos (n := drop) (show 0 < 10 by decide))
    rw [hk, Nat.pow_eq, Nat.mul_comm (10 ^ drop) k, hround]

end

/-! ## Rounding -/

namespace Decimal

variable {p : Precision} {negative : Bool} {coefficient : Nat} {exponent : Int}

/-- How many of the last digits go: those that there is no room for, or that are out of reach. -/
def dropped (p : Precision) (coefficient : Nat) (exponent : Int) : Nat :=
  max (digitCount coefficient - p.digits) (p.lowest - p.digits + 1 - exponent).toNat

theorem rounded?_eq {d : Decimal} (h : rounded? p (.finite negative coefficient exponent) = some d) :
    let drop := dropped p coefficient exponent
    let kept := keptDigits coefficient drop
    d = if p.digits < digitCount kept then .finite negative (kept / 10) (exponent + drop + 1)
      else .finite negative kept (exponent + drop) := by
  intro drop kept
  let r : Nat × Int :=
    if p.digits < digitCount kept then (kept / 10, exponent + drop + 1) else (kept, exponent + drop)
  change (if r.1 ≠ 0 ∧ p.highest < r.2 + digitCount r.1 - 1 then none else some (.finite negative r.1 r.2)) =
    some d at h
  obtain rfl := Option.some.inj (Option.ite_none_left_eq_some.mp h).2
  by_cases hcarry : p.digits < digitCount kept
  · rw [if_pos hcarry, show r = _ from if_pos hcarry]
  · rw [if_neg hcarry, show r = _ from if_neg hcarry]

theorem exists_rounded?_eq {d : Decimal} (hdigits : 0 < p.digits)
    (h : rounded? p (.finite negative coefficient exponent) = some d) :
    ∃ c e, d = .finite negative c e ∧ digitCount c ≤ p.digits ∧ p.lowest - p.digits + 1 ≤ e ∧
      (c : ℚ) * 10 ^ e = (keptDigits coefficient (dropped p coefficient exponent) *
        10 ^ dropped p coefficient exponent : Nat) * 10 ^ exponent := by
  have hd := rounded?_eq h
  have hle := keptDigits_le coefficient (dropped p coefficient exponent)
  have hreach : p.lowest - p.digits + 1 ≤ exponent + dropped p coefficient exponent := by
    unfold dropped
    omega
  have hroom : digitCount coefficient - dropped p coefficient exponent ≤ p.digits := by
    unfold dropped
    omega
  dsimp only at hd
  generalize keptDigits coefficient (dropped p coefficient exponent) = kept at hd hle ⊢
  generalize dropped p coefficient exponent = drop at hd hle hreach hroom ⊢
  split at hd
  · -- All nines were rounded up, so there is one digit too many, and it is a zero.
    next hcarry =>
    have hmost : kept ≤ 10 ^ p.digits := Nat.le_trans hle (Nat.pow_le_pow_right (by decide) hroom)
    have hleast : 10 ^ p.digits ≤ kept := Nat.not_lt.mp fun hlt =>
      Nat.not_le.mpr hcarry ((digitCount_le_iff hdigits).mpr hlt)
    obtain rfl := Nat.le_antisymm hmost hleast
    obtain ⟨n, hn⟩ : ∃ n, p.digits = n + 1 := ⟨p.digits - 1, by omega⟩
    have htenth : 10 ^ p.digits / 10 = 10 ^ n := by rw [hn, Nat.pow_succ, Nat.mul_div_cancel _ (by decide)]
    refine ⟨_, _, hd, ?_, by omega, ?_⟩
    · rw [digitCount_le_iff hdigits, htenth, hn]
      exact Nat.pow_lt_pow_right (by decide) (Nat.lt_succ_self n)
    · have hzero : 10 ^ n * 10 ^ (drop + 1) = 10 ^ p.digits * 10 ^ drop := by
        rw [hn]
        ring
      rw [htenth, ← hzero, ← scaled_zpow, Nat.cast_succ, Int.add_assoc]
  · next hfits => exact ⟨kept, _, hd, Nat.not_lt.mp hfits, hreach, scaled_zpow kept drop exponent⟩

theorem pow_dropped_dvd (hdigits : 0 < p.digits) (h : Fits p (coefficient * 10 ^ exponent)) :
    10 ^ dropped p coefficient exponent ∣ coefficient := by
  obtain ⟨c, e, hc, he, hvalue⟩ := h
  rcases Nat.eq_zero_or_pos coefficient with rfl | hpos
  · exact Nat.dvd_zero _
  rcases Int.le_total exponent e with hle | hle
  · obtain ⟨k, rfl⟩ : ∃ k : Nat, e = exponent + k := ⟨(e - exponent).toNat, by omega⟩
    rw [scaled_zpow, scaled_inj] at hvalue
    have hcount : digitCount coefficient ≤ p.digits + k := by
      rw [digitCount_le_iff (by omega), hvalue, Nat.pow_add]
      exact Nat.mul_lt_mul_of_pos_right ((digitCount_le_iff hdigits).mp hc) (Nat.pow_pos (by decide))
    have hdrop : dropped p coefficient exponent ≤ k := by
      unfold dropped
      omega
    exact (Dvd.dvd.mul_left (Nat.pow_dvd_pow 10 hdrop) c).trans (dvd_of_eq hvalue.symm)
  · obtain ⟨k, rfl⟩ : ∃ k : Nat, exponent = e + k := ⟨(exponent - e).toNat, by omega⟩
    rw [scaled_zpow, scaled_inj] at hvalue
    have hcount : digitCount coefficient ≤ p.digits := by
      rw [digitCount_le_iff hdigits] at hc ⊢
      refine Nat.lt_of_le_of_lt ?_ hc
      rw [← hvalue]
      exact Nat.le_mul_of_pos_right coefficient (Nat.pow_pos (by decide))
    have hdrop : dropped p coefficient (e + k) = 0 := by
      unfold dropped
      omega
    rw [hdrop, Nat.pow_zero]
    exact Nat.one_dvd _

/-- Rounding keeps a value exactly when the precision has room for it. -/
theorem rounded?_exact_iff {d : Decimal} (hdigits : 0 < p.digits)
    (h : rounded? p (.finite negative coefficient exponent) = some d) :
    ∃ c e, d = .finite negative c e ∧
      ((c : ℚ) * 10 ^ e = coefficient * 10 ^ exponent ↔ Fits p (coefficient * 10 ^ exponent)) := by
  obtain ⟨c, e, hd, hc, he, hvalue⟩ := exists_rounded?_eq hdigits h
  refine ⟨c, e, hd, fun hexact => ⟨c, e, hc, he, hexact.symm⟩, fun hfits => ?_⟩
  rw [hvalue, scaled_inj, keptDigits_mul_eq_iff]
  exact pow_dropped_dvd hdigits hfits

end Decimal
end Prepared.Number
