import StreamLabel.Number.Basic
import StreamLabel.Unicode.Blank
import StreamLabel.Unicode.Digit

/-!
# Numeric literals

An optional sign, digits with at most one point among or beside them, and an optional power of ten.
Digits may be of any script.
-/

namespace StreamLabel

open Unicode

/-- The number that digit values stand for, the first one leading. -/
def ofDigitValues (ds : List Nat) : Nat := ds.foldl (fun n d => n * 10 + d) 0

/-- The longest run of digits at the front, as values, and what follows it. -/
def takeDigits : List Char → List Nat × List Char
  | [] => ([], [])
  | c :: cs =>
    match digitValue? c with
    | none => ([], c :: cs)
    | some d =>
      let (ds, rest) := takeDigits cs
      (d :: ds, rest)

/-- Takes a sign from the front; the flag tells whether it was a minus. -/
def takeSign : List Char → Bool × List Char
  | '+' :: cs => (false, cs)
  | '-' :: cs => (true, cs)
  | cs => (false, cs)

structure Literal where
  negative : Bool
  whole : List Nat
  /-- The digits after the point, if there is a point. -/
  fraction : Option (List Nat)
  /-- The power of ten, if one is written. -/
  power : Option Int
deriving DecidableEq, Repr

namespace Literal

def signed (negative : Bool) (n : Nat) : Int := if negative then -n else n

/-- Reads `e` or `E`, an optional sign and digits. -/
def readPower? : List Char → Option Int
  | c :: cs =>
    if c = 'e' ∨ c = 'E' then
      let (negative, cs) := takeSign cs
      match takeDigits cs with
      | (d :: ds, []) => some (signed negative (ofDigitValues (d :: ds)))
      | _ => none
    else none
  | [] => none

/-- Reads the end of a literal: nothing, or a power of ten. -/
def finish? (negative : Bool) (whole : List Nat) (fraction : Option (List Nat)) :
    List Char → Option Literal
  | [] => some ⟨negative, whole, fraction, none⟩
  | cs => (readPower? cs).map fun p => ⟨negative, whole, fraction, some p⟩

def read? (cs : List Char) : Option Literal :=
  let (negative, cs) := takeSign cs
  match takeDigits cs with
  | ([], '.' :: cs) =>
    match takeDigits cs with
    | ([], _) => none
    | (ds, cs) => finish? negative [] (some ds) cs
  | ([], _) => none
  | (whole, '.' :: cs) =>
    let (ds, cs) := takeDigits cs
    finish? negative whole (some ds) cs
  | (whole, cs) => finish? negative whole none cs

/-- Neither a point nor a power of ten is written. -/
def isWhole (l : Literal) : Bool := l.fraction.isNone && l.power.isNone

def toInt (l : Literal) : Int := signed l.negative (ofDigitValues l.whole)

def toFloat64 (l : Literal) : Float64 :=
  let places := l.fraction.getD []
  .ofDecimal l.negative (ofDigitValues (l.whole ++ places)) (l.power.getD 0 - places.length)

end Literal

namespace Number

/-- Reads a literal between blanks. A whole number with more digits than `digitLimit` counts as a
fraction, and a fraction beyond the finite range is no number. -/
def read? (text : String) : Option Number :=
  match Literal.read? (strip text.toList) with
  | none => none
  | some l =>
    if l.isWhole ∧ l.whole.length ≤ digitLimit then some (.int l.toInt)
    else
      match l.toFloat64 with
      | .finite x => some (.float x)
      | _ => none

end Number

namespace Float64

/-- Reads a literal, or the word for an infinity or for what is no number, in any case. -/
def read? (text : String) : Option Float64 :=
  let s := strip text.toList
  let (negative, word) := takeSign s
  let word := String.ofList (word.map Char.toLower)
  if word = "inf" ∨ word = "infinity" then some (.infinity negative)
  else if word = "nan" then some (.nan negative)
  else (Literal.read? s).map (·.toFloat64)

end Float64

end StreamLabel
