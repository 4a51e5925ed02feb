import StreamLabel.Number.Literal

/-!
# Numerals

A numeral in plain form is an optional minus and ASCII digits, the first of them no zero unless it
stands alone. A numeral that is not in plain form is read after it has been tidied: blanks around
it, a plus, a fraction of zeros, leading zeros and single low lines between the digits are left out.
-/

namespace StreamLabel.Numeral

open Unicode

/-- Why a text is no numeral. -/
inductive Fault where
  | malformed
  | tooLong
deriving DecidableEq, Repr

def isLeadingDigit (c : Char) : Bool := '1' ≤ c && c ≤ '9'

/-- Reads a numeral in plain form. The sign counts for the length, and a run of digits that is too
long is refused before anything behind it is looked at. -/
def readPlain (cs : List Char) : Except Fault Int :=
  let sign := cs.take 1 |>.filter (· == '-')
  match cs.drop sign.length with
  | ['0'] => .ok 0
  | [] => .error .malformed
  | c :: ds =>
    let run := c :: ds.takeWhile Char.isDigit
    if !isLeadingDigit c then .error .malformed
    else if digitLimit < sign.length + run.length then .error .tooLong
    else if run.length ≤ ds.length then .error .malformed
    else .ok (Literal.signed (!sign.isEmpty) (ofDigitValues (run.map fun d => d.toNat - 48)))

/-- Leaves out a single plus. A minus may not follow it. -/
def dropPlus? : List Char → Option (List Char)
  | '+' :: '-' :: _ => none
  | '+' :: cs => some cs
  | cs => some cs

/-- Leaves out the point, if one zero or more and nothing else follow it. -/
def dropZeroPlaces (cs : List Char) : List Char :=
  let whole := cs.takeWhile (· != '.')
  match cs.drop whole.length with
  | '.' :: d :: ds => if (d :: ds).all (· == '0') then whole else cs
  | _ => cs

/-- Leaves out leading zeros and the low lines among them; a minus may follow them. Of a text that
holds nothing else the last character stays. -/
def dropZeros? : List Char → Option (List Char)
  | [] => none
  | '0' :: cs =>
    match cs.dropWhile fun c => c == '0' || c == '_' with
    | [] => some [cs.getLastD '0']
    | c :: rest => if isLeadingDigit c || c == '-' then some (c :: rest) else none
  | c :: cs => if isLeadingDigit c || c == '-' then some (c :: cs) else none

def hasDoubleLine : List Char → Bool
  | '_' :: '_' :: _ => true
  | _ :: cs => hasDoubleLine cs
  | [] => false

/-- Leaves out the low lines, if none is at an end and no two are neighbours. -/
def dropLowLines (cs : List Char) : List Char :=
  if cs.head? = some '_' ∨ cs.getLast? = some '_' ∨ hasDoubleLine cs then cs
  else cs.filter (· != '_')

/-- What is left of a text in plain form, if it can be brought into it. -/
def tidy? (text : List Char) : Option (List Char) := do
  let cs := dropZeroPlaces (← dropPlus? (stripBy isWhiteSpace text))
  match cs with
  | '-' :: ds => return dropLowLines ('-' :: (← dropZeros? ds))
  | ds => return dropLowLines (← dropZeros? ds)

/-- Reads a numeral as it is, or else tidied. Only a numeral that is too long as it stands counts as
such. -/
def read (text : List Char) : Except Fault Int :=
  match readPlain text with
  | .error .malformed =>
    match (tidy? text).map readPlain with
    | some (.ok n) => .ok n
    | _ => .error .malformed
  | outcome => outcome

end StreamLabel.Numeral
