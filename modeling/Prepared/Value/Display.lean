import Prepared.Value.Basic

/-!
# The text of a value

A value has a plain text, which is what goes into a query, and a description,
in which text is quoted. Containers describe their items. Both fail only on an
integer with too many digits.
-/

namespace Prepared

open Number Text

/-- Joins with a comma and a space. -/
def commaSeparated (items : List (List Char)) : List Char := [',', ' '].intercalate items

def boolName (b : Bool) : List Char := (if b then "True" else "False").toList

/-- Numbers in a call, comma separated between parentheses after a name. -/
def callText (name : String) (fields : List (List Char)) : List Char :=
  name.toList ++ '(' :: commaSeparated fields ++ [')']

def Date.fields (d : Date) : List (List Char) :=
  [d.year, d.month, d.day].map (Nat.toDigits 10)

/-- Seconds are left out when they and the fraction are zero, the fraction when it is. -/
def Clock.fields (t : Clock) : List (List Char) :=
  ([t.hour, t.minute] ++
    (if t.microsecond ≠ 0 then [t.second, t.microsecond]
     else if t.second ≠ 0 then [t.second] else [])).map (Nat.toDigits 10)

/-- An offset as whole days and the seconds that remain, both only where not zero. -/
def offsetFields (offset : Int) : List (List Char) :=
  let days := Int.fdiv offset 86400
  let seconds := offset - days * 86400
  (if days = 0 then [] else ["days=".toList ++ signed (days < 0) (Nat.toDigits 10 days.natAbs)]) ++
    (if seconds = 0 then [] else ["seconds=".toList ++ Nat.toDigits 10 seconds.natAbs])

def zoneFields : Option Int → List (List Char)
  | none => []
  | some 0 => ["tzinfo=datetime.timezone.utc".toList]
  | some offset =>
    ["tzinfo=".toList ++ callText "datetime.timezone" [callText "datetime.timedelta" (offsetFields offset)]]

def Date.description (d : Date) : List Char := callText "datetime.date" d.fields

def Clock.description (t : Clock) : List Char :=
  callText "datetime.time" (t.fields ++ zoneFields t.offset)

def DateTime.description (t : DateTime) : List Char :=
  callText "datetime.datetime" (t.date.fields ++ t.clock.fields ++ zoneFields t.clock.offset)

/-- Octets that can be changed in place say so, and escape their single quotes eagerly. -/
def octetsDescription (growable : Bool) (bytes : List UInt8) : List Char :=
  if growable then callText "bytearray" [quotedOctets true bytes] else quotedOctets false bytes

def bracketed (left right : Char) (items : List (List Char)) : List Char :=
  left :: commaSeparated items ++ [right]

/-- A tuple of one item keeps a comma. -/
def tupleText : List (List Char) → List Char
  | [item] => '(' :: item ++ [',', ')']
  | items => bracketed '(' ')' items

def typedText (kind : Kind) (value : List Char) : List Char :=
  "TypedParameter(".toList ++ value ++ ", kind=".toList ++ kind.name.toList ++ [')']

mutual

/-- The description of a value, as it stands inside a container. -/
def Value.description : Value → Except Overlong (List Char)
  | .null => .ok "None".toList
  | .bool b => .ok (boolName b)
  | .int n => integerText n
  | .float x => .ok x.text
  | .decimal d => .ok (callText "Decimal" [quoted d.text])
  | .text s => .ok (quoted s.toList)
  | .octets growable bytes => .ok (octetsDescription growable bytes)
  | .date d => .ok d.description
  | .dateTime t => .ok t.description
  | .clock t => .ok t.description
  | .list items => (descriptions items).map (bracketed '[' ']')
  | .tuple items => (descriptions items).map tupleText
  | .dict entries => (entryDescriptions entries).map (bracketed (Char.ofNat 0x7B) (Char.ofNat 0x7D))
  | .typed kind value => value.description.map (typedText kind)

def descriptions : List Value → Except Overlong (List (List Char))
  | [] => .ok []
  | v :: vs => do
    let s ← v.description
    let ss ← descriptions vs
    return s :: ss

def entryDescriptions : List (Value × Value) → Except Overlong (List (List Char))
  | [] => .ok []
  | (k, v) :: es => do
    let key ← k.description
    let value ← v.description
    let rest ← entryDescriptions es
    return (key ++ ':' :: ' ' :: value) :: rest

end

/-- The plain text of a value: text as it is, and anything without a plain text by description. -/
def Value.plain : Value → Except Overlong (List Char)
  | .text s => .ok s.toList
  | .decimal d => .ok d.text
  | .date d => .ok d.text
  | .dateTime t => .ok (t.text ' ')
  | .clock t => .ok t.text
  | v => v.description

/-- The text that an argument contributes to a query, before any quoting. -/
def Argument.text (a : Argument) : Except Overlong (List Char) :=
  match a.kind, a.value with
  | .null, _ => .ok "NULL".toList
  | .boolean, v => .ok (if v.truthy then "true" else "false").toList
  | .text, .octets _ bytes => .ok (Utf8.decode bytes)
  | _, v => v.plain

end Prepared
