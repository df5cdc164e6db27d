import Prepared.Text.Hex
import Prepared.Text.Printable

/-!
# Quoted text

Text and octets as they are shown inside a description: between quotes, with
backslash escapes for the quote, the backslash and whatever has no visible form.
-/

namespace Prepared.Text

/-- Single quotes, unless the text holds one and no double quote. -/
def quoteMark (hasSingle hasDouble : Bool) : Char :=
  if hasSingle && !hasDouble then '"' else '\''

def quotedChar (mark c : Char) : List Char :=
  let n := c.toNat
  if c = mark ∨ c = '\\' then ['\\', c]
  else if c = '\n' then ['\\', 'n']
  else if c = '\r' then ['\\', 'r']
  else if c = '\t' then ['\\', 't']
  else if 0x20 ≤ n ∧ n < 0x7F then [c]
  else if isPrintable c then [c]
  else if n ≤ 0xFF then '\\' :: 'x' :: hex 2 n
  else if n ≤ 0xFFFF then '\\' :: 'u' :: hex 4 n
  else '\\' :: 'U' :: hex 8 n

def quoted (s : List Char) : List Char :=
  let mark := quoteMark (s.contains '\'') (s.contains '"')
  mark :: s.flatMap (quotedChar mark) ++ [mark]

/-- One octet between quotes. With `eager` a single quote is escaped whatever the mark is. -/
def quotedOctet (eager : Bool) (mark : Char) (b : UInt8) : List Char :=
  let c := Char.ofNat b.toNat
  if c = mark ∨ c = '\\' ∨ (eager ∧ c = '\'') then ['\\', c]
  else if c = '\n' then ['\\', 'n']
  else if c = '\r' then ['\\', 'r']
  else if c = '\t' then ['\\', 't']
  else if 0x20 ≤ b.toNat ∧ b.toNat < 0x7F then [c]
  else '\\' :: 'x' :: hex 2 b.toNat

def quotedOctets (eager : Bool) (bytes : List UInt8) : List Char :=
  let mark := quoteMark (bytes.contains 0x27) (bytes.contains 0x22)
  'b' :: mark :: bytes.flatMap (quotedOctet eager mark) ++ [mark]

end Prepared.Text
