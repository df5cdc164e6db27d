import Prepared.Number.Binary64
import Prepared.Text.Hex
import Prepared.Value.Basic

/-!
# Tokens of JSON

Text is read character by character; a gap stands for octets that encode no
character. Gaps are an error of their own inside strings. The tokens end with
the first error, so whoever reads them meets errors in the order of the text.
-/

namespace Prepared.Json

open Number Text

/-- A text that is no JSON, a string whose octets are no text, a number that is
too large, or collections in one another beyond measure. -/
inductive ReadError
  | malformed
  | badEncoding
  | outOfRange
  | tooDeep
deriving DecidableEq, Repr

inductive Token
  | arrayOpen
  | arrayClose
  | objectOpen
  | objectClose
  | colon
  | comma
  | literal (v : Value)
  | text (s : List Char)
  | fault (e : ReadError)

/-- Where the reader stands. Inside a string it has the characters so far,
newest first, and knows whether there was a gap among them. -/
inductive Mode
  | between
  | word (reversed : List Char)
  | number (reversed : List Char)
  | string (reversed : List Char) (gap : Bool)
  | escape (reversed : List Char) (gap : Bool)
  | unicode (reversed : List Char) (gap : Bool) (high : Option Nat) (digits value : Nat)
  | lowMark (reversed : List Char) (gap : Bool) (high : Nat) (slash : Bool)

def isSpace (c : Char) : Bool := c == ' ' || c == '\t' || c == '\n' || c == '\r'

def isNumberChar (c : Char) : Bool :=
  isDigit c || c == '-' || c == '+' || c == '.' || c == 'e' || c == 'E'

def wordToken (w : List Char) : Token :=
  match String.ofList w with
  | "null" => .literal .null
  | "true" => .literal (.bool true)
  | "false" => .literal (.bool false)
  | _ => .fault .malformed

/-- A part that needs a digit: the digits and the rest. -/
def digitsAfter (s : List Char) : Option (List Char × List Char) :=
  if (s.takeWhile isDigit).isEmpty then none else some (s.takeWhile isDigit, s.dropWhile isDigit)

def fraction? : List Char → Option (List Char × List Char)
  | '.' :: s => digitsAfter s
  | s => some ([], s)

def exponent? : List Char → Option (Int × List Char)
  | [] => some (0, [])
  | c :: s =>
    if c = 'e' ∨ c = 'E' then
      let (negative, s) := splitSign s
      (digitsAfter s).map fun (ds, rest) =>
        let n : Int := digitsValue ds
        (if negative then -n else n, rest)
    else some (0, c :: s)

def wholeNumber (negative : Bool) (digits : List Char) : Token :=
  match readDigits digits with
  | .ok n => .literal (.int (if negative then -(n : Int) else n))
  | .error _ => .fault .outOfRange

def floatNumber (n : Numeral) : Token :=
  match Binary64.ofNumeral n with
  | .finite negative mantissa exponent => .literal (.float (.finite negative mantissa exponent))
  | _ => .fault .outOfRange

/-- The number at the front of a text, and the rest. A whole number has no
leading zero, and a number with a fraction or an exponent is a float. -/
def number? (s : List Char) : Option (Token × List Char) := do
  let (negative, r) := match s with
    | '-' :: r => (true, r)
    | r => (false, r)
  let (whole, r) ← digitsAfter r
  guard (whole.head? ≠ some '0' ∨ whole.length = 1)
  let (fraction, afterFraction) ← fraction? r
  let (exponent, rest) ← exponent? afterFraction
  if rest.length = r.length then return (wholeNumber negative whole, rest)
  else return (floatNumber (.finite negative whole fraction exponent), rest)

/-- The tokens of a row of characters that occur in numbers. -/
def numberTokens (s : List Char) : List Token :=
  match number? s with
  | none => [.fault .malformed]
  | some (t, []) => [t]
  | some (t, _ :: _) => [t, .fault .malformed]

def opening (c : Char) : List Token × Mode :=
  if isSpace c then ([], .between)
  else if c = '"' then ([], .string [] false)
  else if c = '[' then ([.arrayOpen], .between)
  else if c = ']' then ([.arrayClose], .between)
  else if c = Char.ofNat 0x7B then ([.objectOpen], .between)
  else if c = Char.ofNat 0x7D then ([.objectClose], .between)
  else if c = ':' then ([.colon], .between)
  else if c = ',' then ([.comma], .between)
  else if isNumberChar c then ([], .number [c])
  else if c.isLower then ([], .word [c])
  else ([.fault .malformed], .between)

def escapeValue? (c : Char) : Option Char :=
  match c with
  | '"' => some '"'
  | '\\' => some '\\'
  | '/' => some '/'
  | 'b' => some (Char.ofNat 0x08)
  | 'f' => some (Char.ofNat 0x0C)
  | 'n' => some '\n'
  | 'r' => some '\r'
  | 't' => some '\t'
  | _ => none

/-- A code unit has been spelled, after the first half of a pair or on its own. -/
def unit (reversed : List Char) (gap : Bool) (high : Option Nat) (n : Nat) : List Token × Mode :=
  match high with
  | some h =>
    if 0xDC00 ≤ n ∧ n < 0xE000 then
      ([], .string (Char.ofNat (0x10000 + (h - 0xD800) * 0x400 + (n - 0xDC00)) :: reversed) gap)
    else ([.fault .malformed], .between)
  | none =>
    if 0xD800 ≤ n ∧ n < 0xDC00 then ([], .lowMark reversed gap n false)
    else if 0xDC00 ≤ n ∧ n < 0xE000 then ([.fault .malformed], .between)
    else ([], .string (Char.ofNat n :: reversed) gap)

def stringToken (reversed : List Char) (gap : Bool) : Token :=
  if gap then .fault .badEncoding else .text reversed.reverse

def advance (m : Mode) (c : Char) : List Token × Mode :=
  match m with
  | .between => opening c
  | .word w =>
    if c.isLower then ([], .word (c :: w)) else (wordToken w.reverse :: (opening c).1, (opening c).2)
  | .number w =>
    if isNumberChar c then ([], .number (c :: w)) else (numberTokens w.reverse ++ (opening c).1, (opening c).2)
  | .string s gap =>
    if c = '"' then ([stringToken s gap], .between)
    else if c = '\\' then ([], .escape s gap)
    else if c.toNat < 0x20 then ([.fault .malformed], .between)
    else ([], .string (c :: s) gap)
  | .escape s gap =>
    if c = 'u' then ([], .unicode s gap none 0 0)
    else match escapeValue? c with
      | some e => ([], .string (e :: s) gap)
      | none => ([.fault .malformed], .between)
  | .unicode s gap high digits value =>
    match hexValue? c with
    | none => ([.fault .malformed], .between)
    | some d =>
      if digits = 3 then unit s gap high (16 * value + d)
      else ([], .unicode s gap high (digits + 1) (16 * value + d))
  | .lowMark s gap high false =>
    if c = '\\' then ([], .lowMark s gap high true) else ([.fault .malformed], .between)
  | .lowMark s gap high true =>
    if c = 'u' then ([], .unicode s gap (some high) 0 0) else ([.fault .malformed], .between)

/-- A gap spoils a string, and nothing else may hold one. -/
def skipGap : Mode → List Token × Mode
  | .string s _ => ([], .string s true)
  | .word w => ([wordToken w.reverse, .fault .malformed], .between)
  | .number w => (numberTokens w.reverse ++ [.fault .malformed], .between)
  | _ => ([.fault .malformed], .between)

def ending : Mode → List Token
  | .between => []
  | .word w => [wordToken w.reverse]
  | .number w => numberTokens w.reverse
  | _ => [.fault .malformed]

def tokensFrom : Mode → List (Option Char) → List Token
  | m, [] => ending m
  | m, some c :: s => (advance m c).1 ++ tokensFrom (advance m c).2 s
  | m, none :: s => (skipGap m).1 ++ tokensFrom (skipGap m).2 s

def tokens (s : List (Option Char)) : List Token := tokensFrom .between s

end Prepared.Json
