import Prepared.Number.Numeral
import Prepared.Number.Rounding

/-!
# Decimal numbers

A sign, a coefficient and a power of ten, kept exactly as spelled, together
with the infinities and the values that are no number.
-/

namespace Prepared.Number

open Prepared.Text

/-- What is no number may carry one as its payload; none is the same as zero. -/
inductive Decimal
  | finite (negative : Bool) (coefficient : Nat) (exponent : Int)
  | infinity (negative : Bool)
  | nan (negative signaling : Bool) (payload : Nat)
deriving DecidableEq, Repr

def digitCount (n : Nat) : Nat := (Nat.toDigits 10 n).length

namespace Decimal

def ofNumeral : Numeral → Decimal
  | .finite negative whole fraction exponent =>
    .finite negative (digitsValue (whole ++ fraction)) (exponent - fraction.length)
  | .infinity negative => .infinity negative
  | .nan negative signaling payload => .nan negative signaling (digitsValue payload)

/-- The exponents that a decimal can have, from that of its last digit to that of its first. -/
def leastExponent : Int := -1999999999999999997
def greatestExponent : Int := 999999999999999999

def isInReach : Decimal → Bool
  | .finite _ coefficient exponent =>
    leastExponent ≤ exponent && exponent + digitCount coefficient - 1 ≤ greatestExponent
  | _ => true

/-- Reads a decimal between blanks, underscores left out. -/
def ofText? (s : List Char) : Option Decimal :=
  ((Numeral.ofText? ((plainDigits s).filter (· != '_'))).map ofNumeral).filter isInReach

def isNegative : Decimal → Bool
  | .finite negative coefficient _ => negative && coefficient != 0
  | .infinity negative => negative
  | .nan .. => false

def isZero : Decimal → Bool
  | .finite _ coefficient _ => coefficient == 0
  | _ => false

def exponentText (e : Int) : List Char :=
  'E' :: (if e < 0 then '-' else '+') :: Nat.toDigits 10 e.natAbs

/-- The digits with a point after the first `place` of them. -/
def pointed (digits : List Char) (place : Int) : List Char :=
  if place ≤ 0 then '0' :: '.' :: List.replicate (-place).toNat '0' ++ digits
  else if digits.length ≤ place then digits ++ List.replicate (place.toNat - digits.length) '0'
  else digits.take place.toNat ++ '.' :: digits.drop place.toNat

/-- Positional when the exponent is not positive and at most five zeros follow
the point, scientific otherwise. -/
def text : Decimal → List Char
  | .finite negative coefficient exponent =>
    let digits := Nat.toDigits 10 coefficient
    let left := exponent + digits.length
    signed negative <|
      if exponent ≤ 0 ∧ -6 < left then pointed digits left
      else if left = 1 then pointed digits 1
      else pointed digits 1 ++ exponentText (left - 1)
  | .infinity negative => signed negative "Infinity".toList
  | .nan negative signaling payload =>
    signed negative <|
      (if signaling then "sNaN" else "NaN").toList ++ (if payload = 0 then [] else Nat.toDigits 10 payload)

/-- How many digits arithmetic keeps, and the exponents that it can reach. -/
structure Precision where
  digits : Nat
  lowest : Int
  highest : Int

def arithmetic : Precision := ⟨28, -999999, 999999⟩

/-- The nearest value with at most `p.digits` digits, ties to even. An exponent
that is out of reach gives nothing when it is too high, and fewer digits when it
is too low. -/
def rounded? (p : Precision) : Decimal → Option Decimal
  | .finite negative coefficient exponent =>
    let n := digitCount coefficient
    let least := p.lowest - (p.digits : Int) + 1
    let drop := max (n - p.digits) (least - exponent).toNat
    let kept := if n < drop then 0 else roundQuotient coefficient (Nat.pow 10 drop)
    let (c, e) :=
      if p.digits < digitCount kept then (kept / 10, exponent + drop + 1) else (kept, exponent + drop)
    if c ≠ 0 ∧ p.highest < e + digitCount c - 1 then none else some (.finite negative c e)
  | d => some d

/-- The value without its sign, as arithmetic gives it. -/
def magnitude? (d : Decimal) : Option Decimal :=
  rounded? arithmetic <| match d with
    | .finite _ coefficient exponent => .finite false coefficient exponent
    | .infinity _ => .infinity false
    | .nan _ signaling payload => .nan false signaling payload

end Decimal
end Prepared.Number
