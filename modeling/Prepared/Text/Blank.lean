/-!
# Blank characters

The characters that separate words and that are trimmed from the ends of a
text: the Unicode separators, the ASCII controls that move the cursor, and the
four ASCII information separators.
-/

namespace Prepared.Text

def isBlank (c : Char) : Bool :=
  let n := c.toNat
  (0x09 ≤ n && n ≤ 0x0D) || (0x1C ≤ n && n ≤ 0x20) || n == 0x85 || n == 0xA0 || n == 0x1680 ||
    (0x2000 ≤ n && n ≤ 0x200A) || n == 0x2028 || n == 0x2029 || n == 0x202F || n == 0x205F || n == 0x3000

def trimStart (s : List Char) : List Char := s.dropWhile isBlank

def trimEnd (s : List Char) : List Char := (trimStart s.reverse).reverse

def trim (s : List Char) : List Char := trimEnd (trimStart s)

/-- The first word: what stands between the leading blanks and the next blank. -/
def firstWord (s : List Char) : List Char := (trimStart s).takeWhile (!isBlank ·)

theorem trimStart_cons (c : Char) (s : List Char) :
    trimStart (c :: s) = if isBlank c then trimStart s else c :: s := by
  simp [trimStart, List.dropWhile_cons]

end Prepared.Text
