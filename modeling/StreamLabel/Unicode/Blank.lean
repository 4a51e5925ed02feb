/-!
# Blank characters

The whitespace of every script, and the cutting of blanks from the ends of a text.
-/

namespace StreamLabel.Unicode

/-- White space, or one of the four separator controls. -/
def isBlank (c : Char) : Bool :=
  let n := c.toNat
  (9 ≤ n && n ≤ 13) || (28 ≤ n && n ≤ 32) || n == 0x85 || n == 0xa0 || n == 0x1680 ||
    (0x2000 ≤ n && n ≤ 0x200a) || n == 0x2028 || n == 0x2029 || n == 0x202f || n == 0x205f ||
    n == 0x3000

/-- White space in the sense of the standard's property, which leaves the separator controls out. -/
def isWhiteSpace (c : Char) : Bool := isBlank c && !(28 ≤ c.toNat && c.toNat ≤ 31)

/-- White space of the ASCII range. -/
def isAsciiBlank (c : Char) : Bool := (9 ≤ c.toNat && c.toNat ≤ 13) || c == ' '

/-- Cuts the characters that `p` picks from the end. -/
def stripRight (p : Char → Bool) (s : List Char) : List Char := (s.reverse.dropWhile p).reverse

/-- Cuts the characters that `p` picks from both ends. -/
def stripBy (p : Char → Bool) (s : List Char) : List Char := stripRight p (s.dropWhile p)

def strip (s : List Char) : List Char := stripBy isBlank s

end StreamLabel.Unicode
