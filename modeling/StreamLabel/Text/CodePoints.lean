import StreamLabel.Text.Quoted

/-!
# Code points

Text as the numbers of its characters. Unlike a string, which holds Unicode scalar values only, it can
hold halves of surrogate pairs. There are no bytes for such a half.
-/

namespace StreamLabel

abbrev CodePoints := List Nat

/-- The first halves of surrogate pairs in a text, which stand one after the other, and how many code
points precede them. -/
structure Unencodable where
  position : Nat
  halves : List Nat
deriving DecidableEq, Repr

namespace Unencodable

def message (u : Unencodable) : String :=
  let place :=
    match u.halves with
    | [half] => " '\\u" ++ String.ofList (Quoted.hexDigits 4 half) ++ "' in position " ++
        toString u.position
    | halves => "s in position " ++ toString u.position ++ "-" ++
        toString (u.position + halves.length - 1)
  "'utf-8' codec can't encode character" ++ place ++ ": surrogates not allowed"

end Unencodable

namespace CodePoints

def ofChars (cs : List Char) : CodePoints := cs.map Char.toNat

def ofString (s : String) : CodePoints := ofChars s.toList

/-- The numbers that stand for half a character. -/
def isHalf (n : Nat) : Bool := 0xd800 ≤ n && n < 0xe000

/-- The character of a code point, the replacement character for a half. -/
def charOf (n : Nat) : Char := if isHalf n then '\ufffd' else Char.ofNat n

/-- The text as characters. -/
def chars (ps : CodePoints) : List Char := ps.map charOf

/-- The text as a string. -/
def text (ps : CodePoints) : String := String.ofList ps.chars

/-- The first halves in the text, if it has any. -/
def unencodable? (ps : CodePoints) : Option Unencodable :=
  match ps.dropWhile (!isHalf ·) with
  | [] => none
  | half :: rest =>
    some ⟨ps.length - (half :: rest).length, half :: rest.takeWhile isHalf⟩

/-- The text as a string, which there is if every code point has bytes. -/
def encode (ps : CodePoints) : Except Unencodable String :=
  match ps.unencodable? with
  | none => .ok ps.text
  | some u => .error u

end CodePoints

end StreamLabel
