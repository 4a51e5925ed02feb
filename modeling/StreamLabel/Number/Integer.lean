import StreamLabel.Number.Literal

/-!
# Whole numbers in text

An optional sign and digits of any script between blanks, with single low lines allowed between the
digits.
-/

namespace StreamLabel.Integer

open Unicode

/-- Reads digits with single low lines between them, up to the end. -/
def digits? : List Char → Option (List Nat)
  | [] => none
  | [c] => (digitValue? c).map ([·])
  | c :: '_' :: cs =>
    match digitValue? c with
    | some d => (digits? cs).map (d :: ·)
    | none => none
  | c :: cs =>
    match digitValue? c with
    | some d => (digits? cs).map (d :: ·)
    | none => none

/-- The separator controls are blanks only in a text that leaves the ASCII range. -/
def isBlankIn (s : List Char) (c : Char) : Bool :=
  if s.all (·.toNat < 128) then isWhiteSpace c else isBlank c

/-- Reads a whole number of at most `digitLimit` digits. -/
def read? (text : List Char) : Option Int :=
  let (negative, cs) := takeSign (stripBy (isBlankIn text) text)
  match digits? cs with
  | some ds =>
    if ds.length ≤ digitLimit then some (Literal.signed negative (ofDigitValues ds)) else none
  | none => none

end StreamLabel.Integer
