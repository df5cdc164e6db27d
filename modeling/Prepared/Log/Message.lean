import Prepared.Error

/-!
# Log messages

A message with places for arguments: `%s` takes any value as its plain text,
`%d` a number without its fraction, and `%%` is a percent sign. A message
without arguments is left as it is.
-/

namespace Prepared.Log

open Number Text

inductive MessageError
  | missing
  | unused
  | notNumber (typeName : String)
  | notFinite (name : String) (isNan : Bool)
  | unknownPlace (c : Char) (index : Nat)
  | incomplete
  | overlong (e : Overlong)
deriving DecidableEq, Repr

def MessageError.failure : MessageError → Failure
  | .missing => .foreign .type "not enough arguments for format string"
  | .unused => .foreign .type "not all arguments converted during string formatting"
  | .notNumber typeName => .foreign .type ("%d format: a real number is required, not " ++ typeName)
  | .notFinite name isNan =>
    .foreign (if isNan then .value else .overflow) s!"cannot convert {name} to integer"
  | .unknownPlace c index =>
    let code := String.ofList (Nat.toDigits 16 c.toNat)
    let shown := if 0x1F ≤ c.toNat ∧ c.toNat < 0x7F then c else '?'
    .foreign .value s!"unsupported format character '{shown}' (0x{code}) at index {index}"
  | .incomplete => .foreign .value "incomplete format"
  | .overlong e => .overlong e

/-- The whole part of a decimal, towards zero; there are names for what has none. -/
def wholeOfDecimal (nan infinity : String) : Decimal → Except MessageError Int
  | .finite negative coefficient exponent =>
    let n : Nat :=
      if 0 ≤ exponent then coefficient * Nat.pow 10 exponent.toNat
      else coefficient / Nat.pow 10 (-exponent).toNat
    .ok (if negative then -n else n)
  | .infinity _ => .error (.notFinite infinity false)
  | .nan .. => .error (.notFinite nan true)

def wholePart (v : Value) : Except MessageError Int :=
  match v with
  | .bool b => .ok (if b then 1 else 0)
  | .int n => .ok n
  | .float x => wholeOfDecimal "float NaN" "float infinity" x.toDecimal
  | .decimal d => wholeOfDecimal "NaN" "Infinity" d
  | v => .error (.notNumber v.typeName)

def placeText (kind : Char) (index : Nat) (v : Value) : Except MessageError (List Char) :=
  match kind with
  | 's' => v.plain.mapError .overlong
  | 'd' => do (integerText (← wholePart v)).mapError .overlong
  | c => .error (.unknownPlace c index)

/-- Fills the places of a message from `index` on; gives the arguments that are left. -/
def fill (index : Nat) : List Char → List Value → Except MessageError (List Char × List Value)
  | [], args => .ok ([], args)
  | ['%'], _ => .error .incomplete
  | '%' :: '%' :: s, args => do
    let (text, rest) ← fill (index + 2) s args
    return ('%' :: text, rest)
  | '%' :: _ :: _, [] => .error .missing
  | '%' :: kind :: s, v :: args => do
    let shown ← placeText kind (index + 1) v
    let (text, rest) ← fill (index + 2) s args
    return (shown ++ text, rest)
  | c :: s, args => do
    let (text, rest) ← fill (index + 1) s args
    return (c :: text, rest)

/-- A single dictionary with entries may stay unused. -/
def mayStay : List Value → Bool
  | [.dict entries] => !entries.isEmpty
  | _ => false

def message (template : List Char) (args : List Value) : Except MessageError (List Char) :=
  if args.isEmpty then .ok template
  else do
    let (text, rest) ← fill 0 template args
    if rest.isEmpty ∨ mayStay args then return text else .error .unused

end Prepared.Log
