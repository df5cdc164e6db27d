import Prepared.Literal.Dialect
import Prepared.Text.Hex

/-!
# Quoting

How a string is written between single quotes. A quote inside is doubled or
stands behind a backslash. Some characters are written as escapes, which are a
backslash and what a table has for the character; all others stand for
themselves. The tables of the dialects are those of sqlglot 30.30.0, which has
for each dialect what its servers read: a letter for some controls, the code for
others. That strings are read back is proved for any table.
-/

namespace Prepared

open Text

namespace Dialect

def quote : Char := '\''
def backslash : Char := '\\'

end Dialect

open Dialect (quote backslash)

structure Quoting where
  doubles : Bool := true
  escapes : List (Char × List Char) := []
deriving Repr

namespace Quoting

def escape? (q : Quoting) (c : Char) : Option (List Char) := q.escapes.lookup c

def writeChar (q : Quoting) (c : Char) : List Char :=
  if c = quote then [if q.doubles then quote else backslash, quote]
  else (q.escape? c).elim [c] (backslash :: ·)

def writeString (q : Quoting) (s : List Char) : List Char := quote :: s.flatMap q.writeChar ++ [quote]

end Quoting

/-- What a dialect has a way of its own to write. -/
structure Generator where
  truth : Bool → List Char
  quoting : Quoting

namespace Dialect

def controls : List Char := ((List.range 0x20).map Char.ofNat) ++ [Char.ofNat 0x7F]

def letter (code : Nat) (c : Char) : Char × List Char := (Char.ofNat code, [c])

def letters : List (Char × List Char) :=
  [(backslash, [backslash]), letter 0x08 'b', letter 0x09 't', letter 0x0A 'n', letter 0x0D 'r']

def codes (spell : Nat → List Char) : List (Char × List Char) := controls.map fun c => (c, spell c.toNat)

def octal (n : Nat) : List Char := [hexDigit (n / 64 % 8), hexDigit (n / 8 % 8), hexDigit (n % 8)]

/-- A letter goes before a code. -/
def escapes : Dialect → List (Char × List Char)
  | .mysql => letters ++ [letter 0x00 '0', letter 0x1A 'Z']
  | .clickhouse =>
    letters ++ [letter 0x00 '0', letter 0x07 'a', letter 0x0B 'v', letter 0x0C 'f', letter 0x1B 'e'] ++
      codes ('x' :: hex 2 ·)
  | .bigquery => letters ++ [letter 0x07 'a', letter 0x0B 'v', letter 0x0C 'f'] ++ codes ('x' :: hex 2 ·)
  | .snowflake => letters ++ [letter 0x0C 'f'] ++ codes ('x' :: hex 2 ·)
  | .spark => letters ++ [letter 0x1A 'Z'] ++ codes octal
  | _ => []

def quoting (d : Dialect) : Quoting where
  doubles := d.doublesQuote
  escapes := d.escapes

def writeString (d : Dialect) (s : List Char) : List Char := d.quoting.writeString s

def writeBool (d : Dialect) (b : Bool) : List Char :=
  match d, b with
  | .tsql, true => "(1 = 1)".toList
  | .tsql, false => "(1 = 0)".toList
  | _, true => "TRUE".toList
  | _, false => "FALSE".toList

def generator (d : Dialect) : Generator where
  truth := d.writeBool
  quoting := d.quoting

end Dialect
end Prepared
