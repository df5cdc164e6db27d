/-!
# Base 64

Three octets as four letters; the last group is filled up with equals signs.
-/

namespace Prepared.Text.Base64

def letters : String := "ABCDEFGHIJKLMNOPQRSTUVWXYZabcdefghijklmnopqrstuvwxyz0123456789+/"

def letter (n : Nat) : Char := (letters.toList[n % 64]?).getD '='

/-- The first `count` of the four letters of a group of 24 bits. -/
def group (count bits : Nat) : List Char :=
  ([letter (bits / 0x40000), letter (bits / 0x1000), letter (bits / 0x40), letter bits].take count) ++
    List.replicate (4 - count) '='

def encode : List UInt8 → List Char
  | [] => []
  | [a] => group 2 (a.toNat * 0x10000)
  | [a, b] => group 3 (a.toNat * 0x10000 + b.toNat * 0x100)
  | a :: b :: c :: r => group 4 (a.toNat * 0x10000 + b.toNat * 0x100 + c.toNat) ++ encode r

end Prepared.Text.Base64
