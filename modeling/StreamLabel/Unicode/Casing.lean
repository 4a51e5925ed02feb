import StreamLabel.Unicode.Cased
import StreamLabel.Unicode.Lower
import StreamLabel.Unicode.Title
import StreamLabel.Unicode.Upper

/-!
# Casing of texts

Upper, lower and title case of a whole text. A capital sigma becomes the final form when a cased
character stands before it and none after it, with case-ignorable characters passed over.
-/

namespace StreamLabel.Unicode

def capitalSigma : Char := '\u03a3'

/-- The first character that is not case-ignorable is cased. -/
def meetsCased (s : List Char) : Bool :=
  match s.dropWhile isCaseIgnorable with
  | [] => false
  | c :: _ => isCased c

/-- Lower case of `c` between the reversed text `before` and the text `after`. -/
def lowerAt (before : List Char) (c : Char) (after : List Char) : List Char :=
  if c = capitalSigma then
    if meetsCased before && !meetsCased after then ['\u03c2'] else ['\u03c3']
  else lowerChars c

def upper (s : List Char) : List Char := s.flatMap upperChars

def lower (s : List Char) : List Char := go [] s
where
  go (before : List Char) : List Char → List Char
    | [] => []
    | c :: cs => lowerAt before c cs ++ go (c :: before) cs

/-- A character after a cased one goes to lower case, any other to title case. -/
def title (s : List Char) : List Char := go [] s
where
  go (before : List Char) : List Char → List Char
    | [] => []
    | c :: cs =>
      (match before with
        | b :: _ => if isCased b then lowerAt before c cs else titleChars c
        | [] => titleChars c) ++ go (c :: before) cs

/-- The lower case of a character taken alone, cut to one character. -/
def foldDown (c : Char) : Char := (lowerChars c).headD c

/-- The upper case of a character taken alone, cut to one character. -/
def foldUp (c : Char) : Char := (upperChars c).headD c

end StreamLabel.Unicode
