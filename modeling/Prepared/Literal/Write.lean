import Prepared.Literal.Quoting

/-!
# Literals

Arguments as literals of a dialect: the null, the two truth values, numbers as
they read, and everything else as a string. A negative number is written as a
minus sign and its magnitude.
-/

namespace Prepared

open Number Text

/-- Why an argument has no text in a query. -/
inductive LiteralError
  | overlong (e : Overlong)
  | dialect (e : DialectError)
deriving DecidableEq, Repr

def LiteralError.failure : LiteralError → Failure
  | .overlong e => .overlong e
  | .dialect e => e.failure

namespace Literal

/-- The magnitude of a text that reads as a negative integer, or else as a negative decimal. -/
def negativeMagnitude? (s : List Char) : Option (List Char) :=
  match integer? s with
  | some n => if n < 0 then some (Nat.toDigits 10 n.natAbs) else none
  | none =>
    match Decimal.ofText? s with
    | some d => if d.isNegative then d.magnitude?.map (·.text) else none
    | none => none

/-- A number as it reads, without blanks around it. -/
def number (s : List Char) : List Char :=
  match negativeMagnitude? s with
  | some m => '-' :: m
  | none => trim s

end Literal

def Argument.plainText (a : Argument) : Except LiteralError (List Char) := a.text.mapError .overlong

/-- The literal of an argument, by the generator that is found for a setting. The
text of the argument is taken before there is a generator to be found. -/
def Argument.literalBy (find : Value → Except DialectError Generator) (a : Argument) (setting : Value) :
    Except LiteralError (List Char) :=
  let generator := (find setting).mapError .dialect
  match a.kind with
  | .null => generator.map fun _ => "NULL".toList
  | .boolean => generator.map (·.truth a.value.truthy)
  | .integer | .float => do
    let s ← a.plainText
    generator.map fun _ => Literal.number s
  | .text | .other => do
    let s ← a.plainText
    generator.map (·.quoting.writeString s)

def Dialect.generatorFor (setting : Value) : Except DialectError Generator := (ofSetting setting).map (·.generator)

/-- The literal of an argument in the dialect that a setting names. -/
def Argument.literal (a : Argument) (setting : Value) : Except LiteralError (List Char) :=
  a.literalBy Dialect.generatorFor setting

end Prepared
