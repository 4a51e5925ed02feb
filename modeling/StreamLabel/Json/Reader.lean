import StreamLabel.Json.Basic
import StreamLabel.Number.Literal
import StreamLabel.Unicode.RangeTable

/-!
# Reading JSON

The strict grammar, with three more literals for what is no finite number. Every reader takes the
text that is left and returns what it read with what is left then. Control characters in texts and
escapes of half a character are refused, and so are numbers with too many digits before the point.
-/

namespace StreamLabel.Json

open Unicode

def isBlank (c : Char) : Bool := c == ' ' || c == '\t' || c == '\n' || c == '\r'

def skipBlanks (cs : List Char) : List Char := cs.dropWhile isBlank

/-- What follows `token`, if the text begins with it. -/
def afterToken? (token : String) (cs : List Char) : Option (List Char) :=
  if token.toList.isPrefixOf cs then some (cs.drop token.length) else none

/-! ### Texts -/

/-- The number of four hexadecimal digits. -/
def unit? (digits : List Char) : Option Nat :=
  if digits.length = 4 ∧ digits.all fun c => (hexDigitValue? c).isSome then some (hexValue digits)
  else none

def isHighUnit (n : Nat) : Bool := 0xd800 ≤ n && n < 0xdc00

def isLowUnit (n : Nat) : Bool := 0xdc00 ≤ n && n < 0xe000

def simpleEscape? : Char → Option Char
  | '"' => some '"'
  | '\\' => some '\\'
  | '/' => some '/'
  | 'b' => some '\x08'
  | 'f' => some '\x0c'
  | 'n' => some '\n'
  | 'r' => some '\r'
  | 't' => some '\t'
  | _ => none

/-- Reads the escape behind a backslash: the character it stands for, and its length. -/
def escape? (cs : List Char) : Option (Char × Nat) :=
  match cs with
  | 'u' :: rest => do
    let n ← unit? (rest.take 4)
    if isHighUnit n then
      if (rest.drop 4).take 2 = ['\\', 'u'] then
        let m ← unit? ((rest.drop 6).take 4)
        if isLowUnit m then
          some (Char.ofNat (0x10000 + (n - 0xd800) * 0x400 + (m - 0xdc00)), 11)
        else none
      else none
    else if isLowUnit n then none
    else some (Char.ofNat n, 5)
  | c :: _ => (simpleEscape? c).map (·, 1)
  | [] => none

/-- Reads a text from behind its opening quote. The next `skip` characters belong to an escape. -/
def textBody : List Char → (skip : Nat) → Option (List Char × List Char)
  | [], _ => none
  | _ :: cs, skip + 1 => textBody cs skip
  | c :: cs, 0 =>
    if c = '"' then some ([], cs)
    else if c = '\\' then
      match escape? cs with
      | some (d, n) => (textBody cs n).map fun (s, rest) => (d :: s, rest)
      | none => none
    else if c.toNat < 32 then none
    else (textBody cs 0).map fun (s, rest) => (c :: s, rest)

def textFrom (cs : List Char) : Option (String × List Char) :=
  match cs with
  | '"' :: cs => (textBody cs 0).map fun (s, rest) => (String.ofList s, rest)
  | _ => none

/-! ### Numbers -/

def isDecimalDigit (c : Char) : Bool := '0' ≤ c ∧ c ≤ '9'

/-- Takes digits, of which there must be one. -/
def digits (cs : List Char) : Option (List Char × List Char) :=
  match cs.takeWhile isDecimalDigit with
  | [] => none
  | ds => some (ds, cs.drop ds.length)

/-- Takes the digits in front of the point: a single zero, or digits that do not begin with one. -/
def wholeDigits (cs : List Char) : Option (List Char × List Char) :=
  match cs with
  | '0' :: rest => some (['0'], rest)
  | cs => digits cs

def takeFraction (cs : List Char) : Option (List Char × List Char) :=
  match cs with
  | '.' :: rest => (digits rest).map fun (ds, rest) => ('.' :: ds, rest)
  | cs => some ([], cs)

def takePower (cs : List Char) : Option (List Char × List Char) :=
  match cs with
  | c :: rest =>
    if c = 'e' ∨ c = 'E' then
      let sign := rest.take 1 |>.filter fun d => d == '+' || d == '-'
      (digits (rest.drop sign.length)).map fun (ds, rest) => (c :: sign ++ ds, rest)
    else some ([], cs)
  | [] => some ([], [])

/-- Reads a number. The part in front of the point is limited in length, its sign included. -/
def numberFrom (cs : List Char) : Option (Json × List Char) := do
  let sign := cs.take 1 |>.filter (· == '-')
  let (whole, cs) ← wholeDigits (cs.drop sign.length)
  let (fraction, cs) ← takeFraction cs
  let (power, cs) ← takePower cs
  if digitLimit < sign.length + whole.length then none
  else some (.number (String.ofList (sign ++ whole ++ fraction ++ power)), cs)

/-! ### Values -/

def literals : List (String × Json) :=
  [("null", .null), ("true", .bool true), ("false", .bool false), ("NaN", .number "NaN"),
   ("Infinity", .number "Infinity"), ("-Infinity", .number "-Infinity")]

def literal (cs : List Char) : Option (Json × List Char) :=
  literals.findSome? fun (token, v) => (afterToken? token cs).map (v, ·)

/-- Reads parts with commas between them up to `closer`; one part at least. -/
def parts {α : Type} (part : List Char → Option (α × List Char)) (closer : Char) :
    (fuel : Nat) → List Char → Option (List α × List Char)
  | 0, _ => none
  | fuel + 1, cs =>
    match part (skipBlanks cs) with
    | none => none
    | some (x, cs) =>
      match skipBlanks cs with
      | c :: cs =>
        if c = ',' then (parts part closer fuel cs).map fun (xs, rest) => (x :: xs, rest)
        else if c = closer then some ([x], cs)
        else none
      | [] => none

/-- Reads parts from behind an opening bracket; there may be none. -/
def enclosed {α : Type} (part : List Char → Option (α × List Char)) (closer : Char)
    (cs : List Char) : Option (List α × List Char) :=
  match skipBlanks cs with
  | c :: rest => if c = closer then some ([], rest) else parts part closer cs.length cs
  | [] => none

/-- Reads a field: a name, a colon and a value. -/
def fieldFrom (value : List Char → Option (Json × List Char)) (cs : List Char) :
    Option ((String × Json) × List Char) := do
  let (name, cs) ← textFrom cs
  match skipBlanks cs with
  | ':' :: cs =>
    let (v, cs) ← value (skipBlanks cs)
    some ((name, v), cs)
  | _ => none

/-- Reads a value in which brackets with something between them nest down to `depth` levels. -/
def valueFrom : (depth : Nat) → List Char → Option (Json × List Char)
  | _, '"' :: cs => (textFrom ('"' :: cs)).map fun (s, rest) => (.text s, rest)
  | 0, '[' :: cs => (afterToken? "]" (skipBlanks cs)).map (.list [], ·)
  | 0, '\x7b' :: cs => (afterToken? "\x7d" (skipBlanks cs)).map (.object [], ·)
  | depth + 1, '[' :: cs =>
    (enclosed (valueFrom depth) ']' cs).map fun (xs, rest) => (.list xs, rest)
  | depth + 1, '\x7b' :: cs =>
    (enclosed (fieldFrom (valueFrom depth)) '\x7d' cs).map fun (fs, rest) => (.object fs, rest)
  | _, cs => (literal cs).or (numberFrom cs)

/-- How deep brackets with something between them may nest. -/
def depthLimit : Nat := 200

/-- Reads a whole text as one value. -/
def read (cs : List Char) : Option Json := do
  let (v, rest) ← valueFrom depthLimit (skipBlanks cs)
  if (skipBlanks rest).isEmpty then some v else none

/-- The last value of a field. -/
def lastField? (name : String) (fields : List (String × Json)) : Option Json :=
  fields.reverse.lookup name

end StreamLabel.Json
