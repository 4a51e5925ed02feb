import StreamLabel.Text.CodePoints
import StreamLabel.Text.Quoted

/-!
# JSON

Values of the interchange format, and the writing of texts in it.
-/

namespace StreamLabel

inductive Json where
  | null
  | bool (b : Bool)
  | number (literal : String)
  | text (s : String)
  | list (items : List Json)
  | object (fields : List (String × Json))
deriving Inhabited

namespace Json

/-- A UTF-16 unit as an escape. -/
def unitEscape (n : Nat) : List Char := '\\' :: 'u' :: Quoted.hexDigits 4 n

/-- A character as one escape, or as two beyond the basic plane. -/
def codeEscape (c : Char) : List Char :=
  let n := c.toNat
  if n < 0x10000 then unitEscape n
  else unitEscape (0xd800 + (n - 0x10000) / 0x400) ++ unitEscape (0xdc00 + (n - 0x10000) % 0x400)

/-- How a character is written inside quotes. With `ascii` only printable ASCII is written plainly,
otherwise all but the controls. -/
def escape (ascii : Bool) (c : Char) : List Char :=
  if c = '"' ∨ c = '\\' then ['\\', c]
  else if c = '\n' then ['\\', 'n']
  else if c = '\r' then ['\\', 'r']
  else if c = '\t' then ['\\', 't']
  else if c = '\x08' then ['\\', 'b']
  else if c = '\x0c' then ['\\', 'f']
  else if c.toNat < 32 ∨ (ascii ∧ 126 < c.toNat) then codeEscape c
  else [c]

/-- The characters between the quotes of a written text. -/
def escapeAll (ascii : Bool) (s : List Char) : List Char := s.flatMap (escape ascii)

def quote (ascii : Bool) (s : String) : String :=
  String.ofList ('"' :: escapeAll ascii s.toList ++ ['"'])

/-- Quoted code points; half a character is written as an escape. -/
def quotePoints (ascii : Bool) (ps : CodePoints) : String :=
  let escapePoint (n : Nat) : List Char :=
    if CodePoints.isHalf n then unitEscape n else escape ascii (Char.ofNat n)
  String.ofList ('"' :: ps.flatMap escapePoint ++ ['"'])

/-- How values are written. -/
structure Style where
  ascii : Bool
  comma : String
  colon : String

/-- No blanks, and every character that may stand plainly does. -/
def Style.compact : Style := ⟨false, ",", ":"⟩

/-- A blank behind each mark, and ASCII alone. -/
def Style.spaced : Style := ⟨true, ", ", ": "⟩

mutual

def print (style : Style) : Json → String
  | .null => "null"
  | .bool b => if b then "true" else "false"
  | .number literal => literal
  | .text s => quote style.ascii s
  | .list items => "[" ++ style.comma.intercalate (printItems style items) ++ "]"
  | .object fields => "\x7b" ++ style.comma.intercalate (printFields style fields) ++ "\x7d"

def printItems (style : Style) : List Json → List String
  | [] => []
  | v :: vs => print style v :: printItems style vs

def printFields (style : Style) : List (String × Json) → List String
  | [] => []
  | (name, v) :: rest =>
    (quote style.ascii name ++ style.colon ++ print style v) :: printFields style rest

end

end Json

end StreamLabel
