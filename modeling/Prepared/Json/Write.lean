import Prepared.Text.Base64
import Prepared.Value.Display

/-!
# Writing JSON

Values as compact JSON. Only the quote, the backslash and the controls are
escaped in a string. Octets are written in base 64, dates and decimals as
strings, and what has no form of its own as its plain text.
-/

namespace Prepared.Json

open Number Text

def escapeChar (c : Char) : List Char :=
  if c = '"' ∨ c = '\\' then ['\\', c]
  else if c = '\n' then ['\\', 'n']
  else if c = '\r' then ['\\', 'r']
  else if c = '\t' then ['\\', 't']
  else if c.toNat = 0x08 then ['\\', 'b']
  else if c.toNat = 0x0C then ['\\', 'f']
  else if c.toNat < 0x20 then '\\' :: 'u' :: hex 4 c.toNat
  else [c]

def string (s : List Char) : List Char := '"' :: s.flatMap escapeChar ++ ['"']

/-- Exponents are bare: no plus sign, and as few digits as they have. -/
def layout : Layout := ⟨-4, 16, 1, false⟩

/-- JSON has no infinities and nothing that is no number. -/
def float : Binary64 → List Char
  | .finite negative mantissa exponent => layout.finite negative mantissa exponent
  | _ => "null".toList

/-- A number in a key; there what is not finite has a name. -/
def floatKey : Binary64 → List Char
  | .nan => "nan".toList
  | .infinity negative => signed negative "inf".toList
  | x => float x

/-- Keys are strings, whatever they are made of. -/
def keyText : Value → Except Overlong (List Char)
  | .text s => .ok s.toList
  | .float x => .ok (floatKey x)
  | .octets _ bytes => .ok (Base64.encode bytes)
  | .dateTime t => .ok t.wireText
  | .clock t => .ok t.wireText
  | v => v.plain

def array (items : List (List Char)) : List Char := '[' :: [','].intercalate items ++ [']']

def objectOpen : Char := Char.ofNat 0x7B
def objectClose : Char := Char.ofNat 0x7D

def object (members : List (List Char)) : List Char := objectOpen :: [','].intercalate members ++ [objectClose]

mutual

def write : Value → Except Overlong (List Char)
  | .null => .ok "null".toList
  | .bool b => .ok (if b then "true" else "false").toList
  | .int n => integerText n
  | .float x => .ok (float x)
  | .decimal d => .ok (string d.text)
  | .text s => .ok (string s.toList)
  | .octets _ bytes => .ok (string (Base64.encode bytes))
  | .date d => .ok (string d.text)
  | .dateTime t => .ok (string t.wireText)
  | .clock t => .ok (string t.wireText)
  | .list items => (writeItems items).map array
  | .tuple items => (writeItems items).map array
  | .dict entries => (writeMembers entries).map object
  | .typed kind value => (Value.typed kind value).plain.map string

def writeItems : List Value → Except Overlong (List (List Char))
  | [] => .ok []
  | v :: vs => do
    let s ← write v
    let ss ← writeItems vs
    return s :: ss

def writeMembers : List (Value × Value) → Except Overlong (List (List Char))
  | [] => .ok []
  | (k, v) :: es => do
    let key ← keyText k
    let value ← write v
    let rest ← writeMembers es
    return (string key ++ ':' :: value) :: rest

end

end Prepared.Json
