/-!
# Names of syllables

The syllables of Hangul have no names of their own: a name is put together from the names of the
letters, a lead, a vowel and a tail. Lead and tail may be missing.
-/

namespace StreamLabel.Unicode.Hangul

def leads : List String := [
  "G", "GG", "N", "D", "DD", "R", "M", "B", "BB", "S", "SS", "", "J", "JJ", "C", "K", "T", "P", "H"]

def vowels : List String := [
  "A", "AE", "YA", "YAE", "EO", "E", "YEO", "YE", "O", "WA", "WAE", "OE", "YO", "U", "WEO", "WE",
  "WI", "YU", "EU", "YI", "I"]

def tails : List String := [
  "", "G", "GG", "GS", "N", "NJ", "NH", "D", "L", "LG", "LM", "LB", "LS", "LT", "LP", "LH", "M",
  "B", "BS", "S", "SS", "NG", "J", "C", "K", "T", "P", "H"]

/-- Takes the longest of the letters that the text begins with: its number, and what is left. -/
def takeLetter (letters : List String) (cs : List Char) : Option (Nat × List Char) :=
  let fitting := letters.zipIdx.filter fun l => l.1.toList.isPrefixOf cs
  (fitting.foldl (fun best l =>
    match best with
    | some (b : String × Nat) => if b.1.length < l.1.length then some l else best
    | none => some l) none).map fun l => (l.2, cs.drop l.1.length)

/-- The first of the syllables, which are in the order of their letters. -/
def first : Nat := 0xac00

/-- The code point of the syllable that is spelled by its letters. -/
def syllable? (cs : List Char) : Option Nat := do
  let (lead, cs) ← takeLetter leads cs
  let (vowel, cs) ← takeLetter vowels cs
  let (tail, cs) ← takeLetter tails cs
  if cs.isEmpty then some (first + (lead * vowels.length + vowel) * tails.length + tail) else none

end StreamLabel.Unicode.Hangul
