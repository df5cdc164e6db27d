import Mathlib.Algebra.Group.Nat.Defs
import Mathlib.Data.List.Basic
import Prepared.Number.Integer

/-!
# The digits of a number

A number reads back from its own digits, and the digits that another number's
begin with spell at most that number. So no numeral without leading zeros goes
on into the numeral of a smaller number.
-/

namespace Prepared.Number

open Text

theorem digitsValue_eq_ofDigitChars (ds : List Char) : digitsValue ds = Nat.ofDigitChars 10 ds 0 := rfl

theorem digitsValue_append (a b : List Char) :
    digitsValue (a ++ b) = 10 ^ b.length * digitsValue a + digitsValue b := by
  simp only [digitsValue_eq_ofDigitChars, Nat.ofDigitChars_append]
  exact Nat.ofDigitChars_eq_ofDigitChars_zero

theorem digitsValue_toDigits (n : Nat) : digitsValue (Nat.toDigits 10 n) = n :=
  Nat.ofDigitChars_ten_toDigits

theorem digitsValue_le_of_isPrefix {a b : List Char} (h : a <+: b) : digitsValue a ≤ digitsValue b := by
  obtain ⟨r, rfl⟩ := h
  rw [digitsValue_append]
  have hpos : 0 < 10 ^ r.length := Nat.pow_pos (by decide)
  have hle := Nat.le_mul_of_pos_left (digitsValue a) hpos
  omega

theorem toDigits_injective {m n : Nat} (h : Nat.toDigits 10 m = Nat.toDigits 10 n) : m = n := by
  rw [← digitsValue_toDigits m, h, digitsValue_toDigits]

theorem le_of_toDigits_isPrefix {m n : Nat} (h : Nat.toDigits 10 m <+: Nat.toDigits 10 n) : m ≤ n := by
  have hle := digitsValue_le_of_isPrefix h
  rwa [digitsValue_toDigits, digitsValue_toDigits] at hle

theorem isDigit_of_mem_toDigits {n : Nat} {c : Char} (hc : c ∈ Nat.toDigits 10 n) : isDigit c = true := by
  have hdigit := Nat.isDigit_of_mem_toDigits (by decide) (by decide) hc
  simp only [Char.isDigit, Bool.and_eq_true, decide_eq_true_eq] at hdigit
  simp only [isDigit, Bool.and_eq_true, decide_eq_true_eq]
  exact hdigit

theorem head?_toDigits {n : Nat} (h : n ≠ 0) : (Nat.toDigits 10 n).head? ≠ some '0' := by
  induction n using Nat.strongRecOn with
  | ind n ih =>
    by_cases hlt : n < 10
    · rw [Nat.toDigits_of_lt_base hlt]
      have hdigit : ∀ d < 10, d ≠ 0 → d.digitChar ≠ '0' := by decide
      simpa using hdigit n hlt h
    · rw [Nat.toDigits_of_base_le (by decide) (Nat.not_lt.mp hlt),
        List.head?_append_of_ne_nil (Nat.toDigits 10 (n / 10)) Nat.toDigits_ne_nil]
      exact ih (n / 10) (by omega) (by omega)

theorem readDigits_toDigits {n : Nat} (h : n < 10 ^ digitLimit) :
    readDigits (Nat.toDigits 10 n) = .ok n := by
  have hlength : (Nat.toDigits 10 n).length ≤ digitLimit :=
    (Nat.length_toDigits_le_iff (by decide) (by decide)).mpr h
  rw [readDigits, if_pos hlength, digitsValue_toDigits]

end Prepared.Number
