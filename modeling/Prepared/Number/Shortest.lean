import Prepared.Number.Binary64

/-!
# The shortest text of a binary number

Among the decimals that round to a given binary number, the ones with the
fewest digits, and of these the nearest. A grid of decimals that meets the
rounding interval meets it in a neighbour of the number itself, so two
candidates for each number of digits suffice. How the digits are laid out is a
matter of `Layout`.
-/

namespace Prepared.Number

/-- The reals that round to one number, as whole multiples of `unit = scale.1 / scale.2`:
the number itself, and the ends of the interval. -/
structure Interval where
  low : Nat
  value : Nat
  high : Nat
  closed : Bool
  scale : Nat × Nat

/-- The interval of `mantissa * 2 ^ exponent`, in quarters of its last place. -/
def Interval.ofBinary (mantissa : Nat) (exponent : Int) : Interval :=
  let narrow := mantissa = Nat.pow 2 52 ∧ Binary64.leastExponent < exponent
  { low := if narrow then 4 * mantissa - 1 else 4 * mantissa - 2
    value := 4 * mantissa
    high := 4 * mantissa + 2
    closed := mantissa % 2 = 0
    scale := if 2 ≤ exponent then (Nat.pow 2 (exponent - 2).toNat, 1) else (1, Nat.pow 2 (2 - exponent).toNat) }

def Interval.holds (i : Interval) (n : Nat) (e : Int) : Bool :=
  let (p, q) := if 0 ≤ e then (n * Nat.pow 10 e.toNat, 1) else (n, Nat.pow 10 (-e).toNat)
  let (a, b) := i.scale
  let x := p * b
  let low := i.low * a * q
  let high := i.high * a * q
  if i.closed then low ≤ x && x ≤ high else low < x && x < high

/-- The multiple of `10 ^ e` at or below the number, and whether the next one up is nearer. -/
def Interval.floor (i : Interval) (e : Int) : Nat × Bool :=
  let (a, b) := i.scale
  let (num, den) := if 0 ≤ e then (i.value * a, b * Nat.pow 10 e.toNat) else (i.value * a * Nat.pow 10 (-e).toNat, b)
  let n := num / den
  let r := num % den
  (n, den < 2 * r || (den == 2 * r && n % 2 == 1))

/-- A decimal of the grid `10 ^ e` that lies in the interval, the nearer one if there are two. -/
def Interval.onGrid? (i : Interval) (e : Int) : Option Nat :=
  let (n, up) := i.floor e
  let down := i.holds n e
  let next := i.holds (n + 1) e
  if down && next then some (if up then n + 1 else n)
  else if down then some n
  else if next then some (n + 1)
  else none

/-- Digits after a point, times a power of ten: `0.d₁d₂… * 10 ^ point`. -/
structure Digits where
  digits : List Char
  point : Int
deriving DecidableEq, Repr

/-- The coefficient without its trailing zeros. -/
def Digits.ofScaled (n : Nat) (e : Int) : Digits :=
  let ds := Nat.toDigits 10 n
  ⟨(ds.reverse.dropWhile (· == '0')).reverse, e + ds.length⟩

/-- How many digits stand before the point of `mantissa * 2 ^ exponent`; for a
number below one, minus the zeros that follow the point. -/
def wholeDigits (mantissa : Nat) (exponent : Int) : Int :=
  match Binary64.toDecimal (.finite false mantissa exponent) with
  | .finite _ c e => e + digitCount c
  | _ => 0

/-- The shortest digits of a number that is not zero. Seventeen are always enough. -/
def shortest (mantissa : Nat) (exponent : Int) : Digits :=
  let i := Interval.ofBinary mantissa exponent
  let whole := wholeDigits mantissa exponent
  let tries := (List.range 17).map fun (k : Nat) => whole - 1 - (k : Int)
  match tries.findSome? fun e => (i.onGrid? e).map (Digits.ofScaled · e) with
  | some d => d
  | none => Digits.ofScaled (i.floor (whole - 17)).1 (whole - 17)

/-- Where a point is written instead of an exponent, and how an exponent looks. -/
structure Layout where
  leastPoint : Int
  greatestPoint : Int
  exponentWidth : Nat
  plusSign : Bool

def Layout.exponentText (l : Layout) (e : Int) : List Char :=
  'e' :: ((if e < 0 then ['-'] else if l.plusSign then ['+'] else []) ++ Text.padded l.exponentWidth e.natAbs)

/-- A whole number keeps a zero after its point. -/
def Layout.positional (d : Digits) : List Char :=
  if d.digits.length ≤ d.point then Decimal.pointed d.digits d.point ++ ['.', '0']
  else Decimal.pointed d.digits d.point

def Layout.scientific (l : Layout) (d : Digits) : List Char :=
  Decimal.pointed d.digits 1 ++ l.exponentText (d.point - 1)

def Layout.write (l : Layout) (d : Digits) : List Char :=
  if l.leastPoint ≤ d.point ∧ d.point ≤ l.greatestPoint then Layout.positional d else l.scientific d

def Layout.finite (l : Layout) (negative : Bool) (mantissa : Nat) (exponent : Int) : List Char :=
  signed negative (if mantissa = 0 then "0.0".toList else l.write (shortest mantissa exponent))

/-- The layout of displayed values: an exponent below `1e-4` and from `1e+16` on. -/
def display : Layout := ⟨-3, 16, 2, true⟩

def Binary64.text : Binary64 → List Char
  | .nan => "nan".toList
  | .infinity negative => signed negative "inf".toList
  | .finite negative mantissa exponent => display.finite negative mantissa exponent

end Prepared.Number
