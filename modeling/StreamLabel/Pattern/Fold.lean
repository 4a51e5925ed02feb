import StreamLabel.Pattern.Expr
import StreamLabel.Unicode.Blank
import StreamLabel.Unicode.Casing
import StreamLabel.Unicode.Digit
import StreamLabel.Unicode.Word

/-!
# Tests of single characters

Whether an expression for one character takes a given character. When case is ignored, characters
are compared by their lower case, and lower case letters with a common upper case count as one.
-/

namespace StreamLabel.Pattern

open Unicode

/-- The lower case letters that share their upper case with others. -/
def kindred : List (List Nat) :=
  [[0x69, 0x131], [0x73, 0x17f], [0xb5, 0x3bc], [0x345, 0x3b9, 0x1fbe], [0x390, 0x1fd3],
   [0x3b0, 0x1fe3], [0x3b2, 0x3d0], [0x3b5, 0x3f5], [0x3b8, 0x3d1], [0x3ba, 0x3f0],
   [0x3c0, 0x3d6], [0x3c1, 0x3f1], [0x3c2, 0x3c3], [0x3c6, 0x3d5], [0x432, 0x1c80],
   [0x434, 0x1c81], [0x43e, 0x1c82], [0x441, 0x1c83], [0x442, 0x1c84, 0x1c85],
   [0x44a, 0x1c86], [0x463, 0x1c87], [0x1c88, 0xa64b], [0x1e61, 0x1e9b], [0xfb05, 0xfb06]]

/-- The code points that count as `n` when case is ignored, for a lower case `n`. -/
def kin (ascii : Bool) (n : Nat) : List Nat :=
  if ascii then [n] else (kindred.find? (·.contains n)).getD [n]

namespace Flags

def ignoreCase (flags : Flags) : Bool := flags.contains .ignoreCase

def ascii (flags : Flags) : Bool := flags.contains .ascii

/-- The form in which characters are compared when case is ignored. -/
def fold (flags : Flags) (c : Char) : Char := if flags.ascii then c.toLower else foldDown c

def hasCase (flags : Flags) (c : Char) : Bool :=
  if flags.ascii then c.isAlpha else foldDown c != c || foldUp c != c

/-- The same for a code point, which may be no character. -/
def foldCode (flags : Flags) (n : Nat) : Nat :=
  if n.isValidChar then (flags.fold (Char.ofNat n)).toNat else n

end Flags

def Category.holds (ascii : Bool) : Category → Char → Bool
  | .digit, c => if ascii then isAsciiDigit c else isDigit c
  | .space, c => if ascii then isAsciiBlank c else isBlank c
  | .word, c => if ascii then isAsciiWord c else isWord c

/-- The first code point beyond the basic plane. -/
def planeEnd : Nat := 0x10000

namespace Flags

/-- The characters of a range include one with case; all beyond the basic plane count as such. -/
def rangeHasCase (flags : Flags) (low high : Nat) : Bool :=
  planeEnd ≤ high ||
    if flags.ascii then
      low ≤ 'z'.toNat && 'A'.toNat ≤ high && !('Z'.toNat < low && high < 'a'.toNat)
    else lowerTable.meets low high || upperTable.meets low high

/-- The code points whose lower case is `c`. -/
def sources (flags : Flags) (c : Char) : List Nat :=
  if flags.ascii then [c.toNat, c.toUpper.toNat] else c.toNat :: lowerTable.sources c

end Flags

namespace Member

def hasCase (flags : Flags) : Member → Bool
  | .code n => planeEnd ≤ n || flags.hasCase (Char.ofNat n)
  | .range low high => flags.rangeHasCase low high
  | .category _ _ => false

/-- The member takes `c` when case matters. -/
def takes (flags : Flags) (c : Char) : Member → Bool
  | .code n => c.toNat == n
  | .range low high => low ≤ c.toNat && c.toNat ≤ high
  | .category k negated => k.holds flags.ascii c != negated

/-- The member takes what has the lower case `c`. Beyond the basic plane a single code point is
taken as it stands, and a range takes what it holds in either case. -/
def takesFolded (flags : Flags) (c : Char) : Member → Bool
  | .code n =>
    if planeEnd ≤ n then c.toNat == n
    else (kin flags.ascii (flags.foldCode n)).contains c.toNat
  | .range low high =>
    low ≤ c.toNat && c.toNat ≤ high ||
    planeEnd ≤ high && low ≤ (foldUp c).toNat && (foldUp c).toNat ≤ high ||
    (kin flags.ascii c.toNat).any fun n =>
      (flags.sources (Char.ofNat n)).any fun m => low ≤ m && m ≤ high && m < planeEnd
  | .category k negated => k.holds flags.ascii c != negated

end Member

namespace Flags

/-- Case is ignored, and the code point has another case. A code point that is no character has
none. -/
def ignores (flags : Flags) (n : Nat) : Bool :=
  flags.ignoreCase && n.isValidChar && flags.hasCase (Char.ofNat n)

/-- Case is ignored, and one of the members has another case. -/
def ignoresAny (flags : Flags) (members : List Member) : Bool :=
  flags.ignoreCase && members.any (·.hasCase flags)

end Flags

/-- How an expression for one character looks at the text. A way that begins with a single code
point or a plain set is not even begun where that does not fit, and what takes several cases of a
character is tried character by character. -/
inductive Sight where
  | code (n : Nat)
  | set
  | cases
  | other
deriving DecidableEq, Repr

/-- The test of an expression that always takes one character. -/
structure Single where
  sight : Sight
  takes : Char → Bool

namespace Single

/-- A single code point or a plain set. -/
def isPlain (s : Single) : Bool :=
  match s.sight with
  | .code _ | .set => true
  | .cases | .other => false

/-- The code point `n`, or all but it. -/
def ofCode (flags : Flags) (negated : Bool) (n : Nat) : Single :=
  if flags.ignores n then
    let kin := kin flags.ascii (flags.foldCode n)
    ⟨if kin.length = 1 then .other else .cases,
      fun c => kin.contains (flags.fold c).toNat != negated⟩
  else ⟨if negated then .other else .code n, fun c => (c.toNat == n) != negated⟩

def ofSet (flags : Flags) (negated : Bool) (members : List Member) : Single :=
  if flags.ignoresAny members then
    ⟨.cases, fun c => members.any (·.takesFolded flags (flags.fold c)) != negated⟩
  else ⟨.set, fun c => members.any (·.takes flags c) != negated⟩

end Single

/-- The test of an expression, if it always takes one character. -/
def Expr.single? : Expr → Flags → Option Single
  | .code n, flags => some (.ofCode flags false n)
  | .notCode n, flags => some (.ofCode flags true n)
  | .any, flags => some ⟨.other, fun c => flags.contains .dotAll || c != '\n'⟩
  | .set negated members, flags => some (.ofSet flags negated members)
  | .group none on off body, flags => body.single? (flags.within on off)
  | _, _ => none

end StreamLabel.Pattern
