import StreamLabel.Unicode.RangeTable

/-!
# Blocks of names

The names of consecutive characters are written one after the other with semicolons between them.
A small letter in front tells how many words a name takes over from the one before it: `a` one,
`b` two and so on. No name holds a small letter itself.
-/

namespace StreamLabel.Unicode

structure NameBlock where
  /-- The code point of the first name. -/
  first : Nat
  text : String

/-- The words of a name. -/
abbrev NameWords := List (List Char)

namespace NameBlock

def wordsOf (piece : List Char) : NameWords :=
  (splitAll (fun c => c == ' ' || c == '\n') piece).filter (! ·.isEmpty)

/-- A name from how it is written behind another one. -/
def expandOne (before : NameWords) (piece : List Char) : NameWords :=
  match piece.dropWhile fun c => c == ' ' || c == '\n' with
  | c :: cs => if c.isLower then before.take (c.toNat - 96) ++ wordsOf cs else wordsOf (c :: cs)
  | [] => []

def expand (before : NameWords) : List (List Char) → List NameWords
  | [] => []
  | piece :: pieces =>
    let name := expandOne before piece
    name :: expand name pieces

/-- The names in order. -/
def names (b : NameBlock) : List NameWords := expand [] (splitAll (· == ';') b.text.toList)

/-- The code point that has the name in the block. -/
def find? (b : NameBlock) (name : NameWords) : Option Nat :=
  (b.names.idxOf? name).map (b.first + ·)

end NameBlock

end StreamLabel.Unicode
