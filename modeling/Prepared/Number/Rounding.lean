/-!
# Rounding a quotient

The nearest whole number to a quotient, the even one when two are equally near.
-/

namespace Prepared.Number

def roundQuotient (num den : Nat) : Nat :=
  let q := num / den
  let r := num % den
  if 2 * r < den then q else if den < 2 * r then q + 1 else q + q % 2

theorem roundQuotient_mul (q : Nat) {den : Nat} (h : 0 < den) : roundQuotient (q * den) den = q := by
  simp [roundQuotient, Nat.mul_mod_left, Nat.mul_div_cancel _ h, h]

end Prepared.Number
