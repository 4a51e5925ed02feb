import StreamLabel.Number.Decimal
import StreamLabel.Text.CodePoints
import StreamLabel.Text.Quoted

/-!
# Percent formats

A format is text with conversions: a percent sign, flags, a width, a precision and a letter. The
arguments are used up in order, and all of them have to be. A star takes a width or a precision from
the arguments. Two percent signs side by side stand for one. The result is given in code points,
since a number may name half a character.
-/

namespace StreamLabel.Percent

inductive Argument where
  | text (s : String)
  | whole (n : Int)
deriving DecidableEq, Repr

inductive Failure where
  | tooFewArguments
  | tooManyArguments
  | incomplete
  | noMapping
  | starWantsNumber
  | unsupported (c : Char) (index : Nat)
  | needsReal (letter : Char)
  | needsWhole (letter : Char)
  | needsFloat
  | needsCharacter
  | characterRange
  | tooLarge
  | widthTooBig
  | precisionTooBig
  | starWidthTooLarge
  | starPrecisionTooLarge
  | precisionTooLarge
  | noRoom
deriving DecidableEq, Repr

namespace Failure

/-- The families of failures that callers tell apart. -/
inductive Family where
  | type
  | value
  | overflow
  | memory
deriving DecidableEq, Repr

def family : Failure → Family
  | .incomplete | .unsupported _ _ | .widthTooBig | .precisionTooBig => .value
  | .characterRange | .tooLarge | .starWidthTooLarge | .starPrecisionTooLarge
  | .precisionTooLarge => .overflow
  | .noRoom => .memory
  | _ => .type

def message : Failure → String
  | .tooFewArguments => "not enough arguments for format string"
  | .tooManyArguments => "not all arguments converted during string formatting"
  | .incomplete => "incomplete format"
  | .noMapping => "format requires a mapping"
  | .starWantsNumber => "* wants int"
  | .unsupported c index =>
    let shown := if 31 ≤ c.toNat ∧ c.toNat ≤ 126 then c else '?'
    "unsupported format character '" ++ shown.toString ++ "' (0x" ++
      String.ofList (Nat.toDigits 16 c.toNat) ++ ") at index " ++ toString index
  | .needsReal letter => "%" ++ letter.toString ++ " format: a real number is required, not str"
  | .needsWhole letter => "%" ++ letter.toString ++ " format: an integer is required, not str"
  | .needsFloat => "must be real number, not str"
  | .needsCharacter => "%c requires int or char"
  | .characterRange => "%c arg not in range(0x110000)"
  | .tooLarge => "int too large to convert to float"
  | .widthTooBig => "width too big"
  | .precisionTooBig => "precision too big"
  | .starWidthTooLarge => "Python int too large to convert to C ssize_t"
  | .starPrecisionTooLarge => "Python int too large to convert to C int"
  | .precisionTooLarge => "precision too large"
  | .noRoom => ""

end Failure

/-- What stands between a percent sign and its letter. -/
structure Options where
  left : Bool := false
  plus : Bool := false
  blank : Bool := false
  alternate : Bool := false
  zero : Bool := false
  width : Nat := 0
  precision : Option Nat := none
deriving Repr

namespace Options

def addFlag (o : Options) : Char → Option Options
  | '-' => some { o with left := true }
  | '+' => some { o with plus := true }
  | ' ' => some { o with blank := true }
  | '#' => some { o with alternate := true }
  | '0' => some { o with zero := true }
  | _ => none

end Options

/-! ### Conversions -/

/-- Puts blanks on the side that the options leave free. -/
def padTextWith {α : Type} (blank : α) (o : Options) (s : List α) : List α :=
  let fill := List.replicate (o.width - s.length) blank
  if o.left then s ++ fill else fill ++ s

def padText (o : Options) (s : List Char) : List Char := padTextWith ' ' o s

/-- Puts a sign, a mark of the base and digits together. Zeros go between mark and digits. -/
def padNumber (o : Options) (negative : Bool) (mark digits : List Char) : List Char :=
  let sign := if negative then ['-'] else if o.plus then ['+'] else if o.blank then [' '] else []
  let missing := o.width - (sign ++ mark ++ digits).length
  if o.zero && !o.left then sign ++ mark ++ List.replicate missing '0' ++ digits
  else padText o (sign ++ mark ++ digits)

/-- The text of a whole number in a base. -/
def wholeText (o : Options) (letter : Char) (n : Int) : List Char :=
  let (base, mark) : Nat × List Char :=
    if letter = 'x' ∨ letter = 'X' then (16, ['0', letter])
    else if letter = 'o' then (8, ['0', 'o'])
    else (10, [])
  let digits := Nat.toDigits base n.natAbs
  let digits := if letter = 'X' then digits.map Char.toUpper else digits
  padNumber o (n < 0) (if o.alternate then mark else []) (padZeros (o.precision.getD 0) digits)

/-- A point at the end of digits that have none. -/
def forcePoint (alternate : Bool) (s : List Char) : List Char :=
  if alternate && !s.contains '.' then
    let whole := s.takeWhile fun c => c != 'e'
    whole ++ '.' :: s.drop whole.length
  else s

/-- All digits of a double are zeros from this one on, counted from its first digit or from the
point. -/
def exactDigits : Nat := 1100

/-- Zeros behind digits, up to a length. -/
def padZerosRight (length : Nat) (digits : List Char) : List Char :=
  digits ++ List.replicate (length - digits.length) '0'

/-- The first `n` significant digits of a double, with fewer where only zeros follow. -/
def significant (n num den : Nat) : Decimal.Digits :=
  if num = 0 then ⟨['0'], 1⟩ else Decimal.significant (min n exactDigits) num den

/-- A double with `places` digits behind the point and an exponent. -/
def scientificText (places num den : Nat) : List Char :=
  let d := significant (places + 1) num den
  { d with digits := padZerosRight (places + 1) d.digits }.scientific

/-- A double with `places` digits behind the point. -/
def fixedText (places num den : Nat) : List Char :=
  Decimal.fixed (min places exactDigits) num den ++ List.replicate (places - exactDigits) '0'

/-- A double with `n` significant digits; zeros at the end are kept with `alternate` only. -/
def generalText (alternate : Bool) (n num den : Nat) : List Char :=
  let d := significant n num den
  let shown : Decimal.Digits :=
    if alternate then { d with digits := padZerosRight n d.digits }
    else if num = 0 then d else d.trim
  if -4 < d.point ∧ d.point ≤ n then shown.positional else shown.scientific

def floatText (o : Options) (letter : Char) (x : Finite64) : List Char :=
  let (num, den) := x.fraction
  let places := o.precision.getD 6
  let digits :=
    match letter.toLower with
    | 'e' => scientificText places num den
    | 'f' => fixedText places num den
    | _ => generalText o.alternate (max 1 places) num den
  let digits := forcePoint o.alternate digits
  padNumber o x.negative [] (if letter.isUpper then digits.map Char.toUpper else digits)

/-- Quoted text in ASCII alone. -/
def asciiQuoted (s : String) : List Char :=
  (quoted s).toList.flatMap fun c =>
    if c.toNat < 128 then [c] else
      if c.toNat < 0x100 then '\\' :: 'x' :: Quoted.hexDigits 2 c.toNat
      else if c.toNat < 0x10000 then '\\' :: 'u' :: Quoted.hexDigits 4 c.toNat
      else '\\' :: 'U' :: Quoted.hexDigits 8 c.toNat

def cut (o : Options) (s : List Char) : List Char := (o.precision.map s.take).getD s

def convertText (o : Options) (letter : Char) : Argument → List Char
  | .whole n => padText o (cut o (toString n).toList)
  | .text s =>
    padText o (cut o (if letter = 'r' then (quoted s).toList
      else if letter = 'a' then asciiQuoted s else s.toList))

/-- A single character, or the code point that a number names. -/
def convertCharacter (o : Options) : Argument → Except Failure CodePoints
  | .text s => if s.length = 1 then .ok (.ofChars (padText o s.toList)) else .error .needsCharacter
  | .whole n =>
    if 0 ≤ n ∧ n < 0x110000 then .ok (padTextWith ' '.toNat o [n.toNat]) else .error .characterRange

def wholeLetters : List Char := ['d', 'i', 'u', 'o', 'x', 'X']

def floatLetters : List Char := ['e', 'E', 'f', 'F', 'g', 'G']

/-- The letters of conversions. -/
def letters : List Char := ['s', 'r', 'a', 'c'] ++ wholeLetters ++ floatLetters

/-- The largest precision that can be written, and the largest one that whole numbers take. -/
def precisionLimit : Nat := Nat.pow 2 31 - 1

def wholePrecisionLimit : Nat := precisionLimit - 3

/-- A whole number under one of its letters. -/
def convertWhole (o : Options) (letter : Char) : Argument → Except Failure (List Char)
  | .whole n =>
    if o.precision.any (wholePrecisionLimit < ·) then .error .precisionTooLarge
    else .ok (wholeText o letter n)
  | .text _ =>
    .error (if letter ∈ ['o', 'x', 'X'] then .needsWhole letter else .needsReal letter)

/-- A number under one of the letters of fractions. -/
def convertFloat (o : Options) (letter : Char) : Argument → Except Failure (List Char)
  | .whole n =>
    match Float64.ofInt n with
    | .finite x => .ok (floatText o letter x)
    | _ => .error .tooLarge
  | .text _ => .error .needsFloat

/-- The text of an argument under one of the letters. -/
def convert (o : Options) (letter : Char) (a : Argument) : Except Failure CodePoints :=
  if letter ∈ ['s', 'r', 'a'] then .ok (.ofChars (convertText o letter a))
  else if letter = 'c' then convertCharacter o a
  else if letter ∈ wholeLetters then (convertWhole o letter a).map .ofChars
  else (convertFloat o letter a).map .ofChars

/-- The most places that there is room for. -/
def roomLimit : Nat := Nat.pow 2 32

/-- The same with the failure to find room, which comes after all others. -/
def convertInRoom (o : Options) (letter : Char) (a : Argument) : Except Failure CodePoints :=
  if o.width ≤ roomLimit then convert o letter a
  else match convert { o with width := 0 } letter a with
    | .ok _ => .error .noRoom
    | .error f => .error f

/-! ### Formats -/

/-- Reads flags. -/
def readFlags (o : Options) : List Char → Options × List Char
  | [] => (o, [])
  | c :: cs =>
    match o.addFlag c with
    | some o => readFlags o cs
    | none => (o, c :: cs)

/-- How large a width or a precision may be, and what is wrong with one beyond. -/
structure CountLimit where
  most : Nat
  tooBig : Failure
  starTooLarge : Failure

def widthLimit : CountLimit := ⟨Nat.pow 2 63 - 1, .widthTooBig, .starWidthTooLarge⟩

def placesLimit : CountLimit := ⟨precisionLimit, .precisionTooBig, .starPrecisionTooLarge⟩

/-- Reads a number, or takes one from the arguments at a star, which may be negative. -/
def readCount (limit : CountLimit) (cs : List Char) (args : List Argument) :
    Except Failure (Option Int × List Char × List Argument) :=
  match cs with
  | '*' :: cs =>
    match args with
    | .whole n :: args =>
      if -(limit.most : Int) - 1 ≤ n ∧ n ≤ limit.most then .ok (some n, cs, args)
      else .error limit.starTooLarge
    | .text _ :: _ => .error .starWantsNumber
    | [] => .error .tooFewArguments
  | cs =>
    let ds := cs.takeWhile Char.isDigit
    let n := ds.foldl (fun n d => n * 10 + (d.toNat - '0'.toNat)) 0
    if limit.most < n then .error limit.tooBig
    else .ok (if ds.isEmpty then none else some n, cs.drop ds.length, args)

namespace Options

/-- A negative width puts the blanks to the right. The least one has no magnitude and asks for no
blanks. -/
def withWidth (o : Options) (width : Int) : Options :=
  let places := if width.natAbs ≤ widthLimit.most then width.natAbs else 0
  { o with left := o.left || width < 0, width := places }

end Options

/-- Reads what stands between a percent sign and its letter. -/
def readOptions (cs : List Char) (args : List Argument) :
    Except Failure (Options × List Char × List Argument) := do
  if cs.head? = some '(' then throw .noMapping
  let (o, cs) := readFlags {} cs
  let (width, cs, args) ← readCount widthLimit cs args
  let o := o.withWidth (width.getD 0)
  let (o, cs, args) ←
    match cs with
    | '.' :: cs => do
      let (precision, cs, args) ← readCount placesLimit cs args
      pure ({ o with precision := some (precision.getD 0).toNat }, cs, args)
    | cs => pure (o, cs, args)
  let cs := if cs.head?.any fun c => c == 'h' || c == 'l' || c == 'L' then cs.drop 1 else cs
  return (o, cs, args)

/-- Reads a conversion from behind its percent sign and fills it in. The format has `size`
characters. -/
def conversion (size : Nat) (cs : List Char) (args : List Argument) :
    Except Failure (CodePoints × List Char × List Argument) := do
  let (o, cs, args) ← readOptions cs args
  match cs, args with
  | [], _ => throw .incomplete
  | _, [] => throw .tooFewArguments
  | letter :: rest, a :: args =>
    if letter ∈ letters then return (← convertInRoom o letter a, rest, args)
    else throw (.unsupported letter (size - rest.length - 1))

/-- Fills in a format of `size` characters, of which `cs` are left. -/
def fill (size : Nat) : (fuel : Nat) → List Char → List Argument → Except Failure CodePoints
  | _, [], args => if args.isEmpty then .ok [] else .error .tooManyArguments
  | 0, _, _ => .error .incomplete
  | fuel + 1, '%' :: '%' :: cs, args => (fill size fuel cs args).map ('%'.toNat :: ·)
  | fuel + 1, '%' :: cs, args => do
    let (text, cs, args) ← conversion size cs args
    return text ++ (← fill size fuel cs args)
  | fuel + 1, c :: cs, args => (fill size fuel cs args).map (c.toNat :: ·)

/-- Fills the arguments into a format. Without arguments the format is plain text. -/
def format (s : String) (args : List Argument) : Except Failure CodePoints :=
  let cs := s.toList
  if args.isEmpty then .ok (.ofChars cs) else fill cs.length cs.length cs args

end StreamLabel.Percent
