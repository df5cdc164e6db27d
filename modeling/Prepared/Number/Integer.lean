import Prepared.Text.Blank
import Prepared.Text.Digit

/-!
# Integers as text

Integers of any size exist, but only those of at most `digitLimit` digits are
written or read.
-/

namespace Prepared.Number

open Prepared.Text

def digitLimit : Nat := 4300

/-- Why a row of digits is not converted: it is too long. Reading knows how long. -/
inductive Overlong
  | written
  | read (digits : Nat)
deriving DecidableEq, Repr

def Overlong.message : Overlong → String
  | .written => "Exceeds the limit (4300 digits) for integer string conversion; " ++
      "use sys.set_int_max_str_digits() to increase the limit"
  | .read n => s!"Exceeds the limit (4300 digits) for integer string conversion: value has {n} digits; " ++
      "use sys.set_int_max_str_digits() to increase the limit"

def signed (negative : Bool) (s : List Char) : List Char := if negative then '-' :: s else s

/-- The decimal digits of an integer, if they are few enough. -/
def integerText (n : Int) : Except Overlong (List Char) :=
  if n.natAbs < Nat.pow 10 digitLimit then .ok (signed (n < 0) (Nat.toDigits 10 n.natAbs))
  else .error .written

/-- The number that a row of ASCII digits spells, leading zeros included in its length. -/
def readDigits (ds : List Char) : Except Overlong Nat :=
  if ds.length ≤ digitLimit then .ok (digitsValue ds) else .error (.read ds.length)

def splitSign : List Char → Bool × List Char
  | '-' :: r => (true, r)
  | '+' :: r => (false, r)
  | r => (false, r)

/-- Digits of any script, single underscores between them. -/
def groupedDigits? : List Char → Option (List Nat)
  | [] => none
  | [c] => (anyDigit? c).map ([·])
  | c :: '_' :: r => do
    let d ← anyDigit? c
    let ds ← groupedDigits? r
    return d :: ds
  | c :: r => do
    let d ← anyDigit? c
    let ds ← groupedDigits? r
    return d :: ds

/-- The integer that a text spells between its blanks. -/
def integer? (s : List Char) : Option Int := do
  let (negative, r) := splitSign (trim s)
  let ds ← groupedDigits? r
  guard (ds.length ≤ digitLimit)
  let n : Int := placesValue ds
  return if negative then -n else n

end Prepared.Number
