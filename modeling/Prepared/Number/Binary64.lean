import Prepared.Number.Decimal

/-!
# Binary floating point

Numbers of 53 bits, as exact values: a whole mantissa and a power of two. A
decimal numeral stands for the nearest such number, ties to the even mantissa.
-/

namespace Prepared.Number

/-- In a finite value the mantissa is below `2 ^ 53` and the exponent at least
`-1074`; it is above `-1074` only for a mantissa of 53 bits. -/
inductive Binary64
  | nan
  | infinity (negative : Bool)
  | finite (negative : Bool) (mantissa : Nat) (exponent : Int)
deriving DecidableEq, Repr

namespace Binary64

def leastExponent : Int := -1074

def zero (negative : Bool) : Binary64 := .finite negative 0 leastExponent

/-- `num / den` in units of `2 ^ e`, as a quotient of whole numbers. -/
def inUnits (num den : Nat) (e : Int) : Nat × Nat :=
  if 0 ≤ e then (num, den * Nat.pow 2 e.toNat) else (num * Nat.pow 2 (-e).toNat, den)

def leadingBit (num den : Nat) : Int :=
  let e : Int := num.log2 - den.log2
  let (n, d) := inUnits num den e
  if d ≤ n then e else e - 1

def ofRatio (negative : Bool) (num den : Nat) : Binary64 :=
  if num = 0 then zero negative
  else
    let e := max (leadingBit num den - 52) leastExponent
    let (n, d) := inUnits num den e
    let m := roundQuotient n d
    let (m, e) := if m = Nat.pow 2 53 then (Nat.pow 2 52, e + 1) else (m, e)
    if 971 < e then .infinity negative else .finite negative m e

def ofDecimal : Decimal → Binary64
  | .finite negative coefficient exponent =>
    let reach : Int := exponent + digitCount coefficient
    if coefficient = 0 ∨ reach < -330 then zero negative
    else if 310 < reach then .infinity negative
    else if 0 ≤ exponent then ofRatio negative (coefficient * Nat.pow 10 exponent.toNat) 1
    else ofRatio negative coefficient (Nat.pow 10 (-exponent).toNat)
  | .infinity negative => .infinity negative
  | .nan .. => .nan

def ofNumeral (n : Numeral) : Binary64 := ofDecimal (.ofNumeral n)

def ofText? (s : List Char) : Option Binary64 := (Numeral.ofText? (plainDigits s)).map ofNumeral

def isZero : Binary64 → Bool
  | .finite _ mantissa _ => mantissa == 0
  | _ => false

def toDecimal : Binary64 → Decimal
  | .nan => .nan false false 0
  | .infinity negative => .infinity negative
  | .finite negative mantissa exponent =>
    if 0 ≤ exponent then .finite negative (mantissa * Nat.pow 2 exponent.toNat) 0
    else .finite negative (mantissa * Nat.pow 5 (-exponent).toNat) exponent

end Binary64
end Prepared.Number
