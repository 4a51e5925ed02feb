import StreamLabel.Unicode.Name.From0000
import StreamLabel.Unicode.Name.From0590
import StreamLabel.Unicode.Name.From1000
import StreamLabel.Unicode.Name.From2000
import StreamLabel.Unicode.Name.From2800
import StreamLabel.Unicode.Name.From3000
import StreamLabel.Unicode.Name.FromA000
import StreamLabel.Unicode.Name.From10000
import StreamLabel.Unicode.Name.From11000
import StreamLabel.Unicode.Name.From12000
import StreamLabel.Unicode.Name.From13000
import StreamLabel.Unicode.Name.From1D000
import StreamLabel.Unicode.Name.From1E000
import StreamLabel.Unicode.Name.Further
import StreamLabel.Unicode.Name.Hangul

/-!
# Character names

Which character a name stands for. Most names are listed; those of ideographs and of syllables
follow rules, and only there case matters. A name has single blanks between its words and nowhere
else.
-/

namespace StreamLabel.Unicode

/-- The blocks of listed names. -/
def namedBlocks : List NameBlock := List.flatten [
  namesFrom0000, namesFrom0590, namesFrom1000, namesFrom2000, namesFrom2800, namesFrom3000,
  namesFromA000, namesFrom10000, namesFrom11000, namesFrom12000, namesFrom13000,
  namesFrom1D000, namesFrom1E000,
  furtherNames]

/-- Names that end in the number of the character, and the ranges of the numbers. -/
def numberedNames : List (String × List (Nat × Nat)) := [
  ("CJK COMPATIBILITY IDEOGRAPH-", [(0xf900, 0xfa6d), (0xfa70, 0xfad9), (0x2f800, 0x2fa1d)]),
  ("KHITAN SMALL SCRIPT CHARACTER-", [(0x18b00, 0x18cd5)]),
  ("NUSHU CHARACTER-", [(0x1b170, 0x1b2fb)])]

/-- The ideographs that are named by four or five digits. -/
def ideographs : List (Nat × Nat) := [
  (0x3400, 0x4dbf), (0x4e00, 0x9fff), (0x20000, 0x2a6df), (0x2a700, 0x2b738), (0x2b740, 0x2b81d),
  (0x2b820, 0x2cea1), (0x2ceb0, 0x2ebe0), (0x30000, 0x3134a)]

def isInside (n : Nat) (ranges : List (Nat × Nat)) : Bool :=
  ranges.any fun r => r.1 ≤ n && n ≤ r.2

/-- What follows `head` at the beginning of a text. -/
def behind? (head : String) (cs : List Char) : Option (List Char) :=
  if head.toList.isPrefixOf cs then some (cs.drop head.length) else none

def isUpperHexDigit (c : Char) : Bool := c.isDigit || 'A' ≤ c && c ≤ 'F'

/-- The ideograph with a number of four or five digits. -/
def ideographNumbered? (digits : List Char) : Option Nat :=
  let n := hexValue digits
  if (digits.length = 4 ∨ digits.length = 5) ∧ digits.all isUpperHexDigit ∧ isInside n ideographs
  then some n else none

/-- The character whose name ends in its number. -/
def characterNumbered? (name : List Char) : Option Nat :=
  numberedNames.findSome? fun (head, ranges) => do
    let digits ← behind? head name
    let n := hexValue digits
    if digits = (Nat.toDigits 16 n).map Char.toUpper ∧ isInside n ranges then some n else none

/-- The code point that a name stands for. -/
def codeNamed? (name : List Char) : Option Nat :=
  match behind? "HANGUL SYLLABLE " name, behind? "CJK UNIFIED IDEOGRAPH-" name with
  | some letters, _ => Hangul.syllable? letters
  | _, some digits => ideographNumbered? digits
  | none, none =>
    let name := name.map Char.toUpper
    let words := splitAll (· == ' ') name
    (characterNumbered? name).or (namedBlocks.findSome? (·.find? words))

end StreamLabel.Unicode
