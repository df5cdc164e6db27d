import Prepared.Number.Integer

/-!
# Numerals

The spelling of a number: a sign, digits around a point and an exponent, or one
of the words for infinity and for no number.
-/

namespace Prepared.Number

open Prepared.Text

inductive Numeral
  | finite (negative : Bool) (whole fraction : List Char) (exponent : Int)
  | infinity (negative : Bool)
  | nan (negative signaling : Bool) (payload : List Char)
deriving DecidableEq, Repr

def exponentPart? : List Char → Option Int
  | [] => some 0
  | e :: r =>
    if e = 'e' ∨ e = 'E' then
      let (negative, ds) := splitSign r
      if ds ≠ [] ∧ ds.all isDigit then
        let n : Int := digitsValue ds
        some (if negative then -n else n)
      else none
    else none

def fractionPart : List Char → List Char × List Char
  | '.' :: r => (r.takeWhile isDigit, r.dropWhile isDigit)
  | r => ([], r)

/-- The numeral after its sign, when it begins with no word. -/
def decimalPart? (negative : Bool) (r : List Char) : Option Numeral :=
  let whole := r.takeWhile isDigit
  let (fraction, rest) := fractionPart (r.dropWhile isDigit)
  if whole = [] ∧ fraction = [] then none
  else (exponentPart? rest).map (.finite negative whole fraction)

def Numeral.ofText? (s : List Char) : Option Numeral :=
  let (negative, r) := splitSign s
  let word := String.ofList (r.map Char.toLower)
  let letters := String.ofList ((r.takeWhile Char.isAlpha).map Char.toLower)
  let payload := r.dropWhile Char.isAlpha
  if word = "inf" ∨ word = "infinity" then some (.infinity negative)
  else if letters = "nan" ∧ payload.all isDigit then some (.nan negative false payload)
  else if letters = "snan" ∧ payload.all isDigit then some (.nan negative true payload)
  else decimalPart? negative r

/-- The text with its outer blanks gone and the digits of every script made ASCII. -/
def plainDigits (s : List Char) : List Char :=
  (trim s).map fun c => match anyDigit? c with
    | some d => Char.ofNat (0x30 + d)
    | none => c

end Prepared.Number
