/-!
# UTF-8

Octets to characters and back. Reading never stops: a run of octets that begins
a character and cannot be continued reads as one gap, and so does an octet that
begins none. `Unfinished` knows the legal range of the next octet, so a run is
given up at the first octet that rules it out. A text has the replacement
character in the place of each gap.
-/

namespace Prepared.Text.Utf8

def encode (s : List Char) : List UInt8 := s.flatMap String.utf8EncodeChar

/-- A character whose octets have begun: the bits so far, the octets still
owed after the next one, and the range of the next one. -/
structure Unfinished where
  bits : Nat
  owed : Nat
  low : Nat
  high : Nat
deriving DecidableEq, Repr

/-- What an octet between characters does. -/
def start (b : UInt8) : List (Option Char) × Option Unfinished :=
  let n := b.toNat
  if n < 0x80 then ([some (Char.ofNat n)], none)
  else if n < 0xC2 then ([none], none)
  else if n < 0xE0 then ([], some ⟨n - 0xC0, 0, 0x80, 0xBF⟩)
  else if n < 0xF0 then
    ([], some ⟨n - 0xE0, 1, if n = 0xE0 then 0xA0 else 0x80, if n = 0xED then 0x9F else 0xBF⟩)
  else if n < 0xF5 then
    ([], some ⟨n - 0xF0, 2, if n = 0xF0 then 0x90 else 0x80, if n = 0xF4 then 0x8F else 0xBF⟩)
  else ([none], none)

def step : Option Unfinished → UInt8 → List (Option Char) × Option Unfinished
  | none, b => start b
  | some p, b =>
    if p.low ≤ b.toNat ∧ b.toNat ≤ p.high then
      let bits := 64 * p.bits + (b.toNat - 0x80)
      match p.owed with
      | 0 => ([some (Char.ofNat bits)], none)
      | k + 1 => ([], some ⟨bits, k, 0x80, 0xBF⟩)
    else (none :: (start b).1, (start b).2)

/-- The characters and gaps that octets read as, in the middle of a character or between two. -/
def unitsFrom : Option Unfinished → List UInt8 → List (Option Char)
  | none, [] => []
  | some _, [] => [none]
  | p, b :: r => (step p b).1 ++ unitsFrom (step p b).2 r

def units (bytes : List UInt8) : List (Option Char) := unitsFrom none bytes

def replacement : Char := Char.ofNat 0xFFFD

def decode (bytes : List UInt8) : List Char := (units bytes).map (·.getD replacement)

theorem encode_append (s t : List Char) : encode (s ++ t) = encode s ++ encode t := by
  simp [encode]

end Prepared.Text.Utf8
