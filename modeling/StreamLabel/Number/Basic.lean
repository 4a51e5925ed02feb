import StreamLabel.Number.Decimal

/-!
# Numbers

Whole numbers of any size and finite binary fractions, compared by their exact value. A whole number
has a text in decimal, whatever its size, but one with more than `digitLimit` digits is not written.
-/

namespace StreamLabel

/-- The most digits that a whole number is read or written with. -/
def digitLimit : Nat := 4300

/-- Why a number is not written. -/
inductive Unwritable where
  | tooManyDigits
deriving DecidableEq, Repr

def Unwritable.message : Unwritable → String
  | .tooManyDigits => "Exceeds the limit (4300 digits) for integer string conversion; use " ++
      "sys.set_int_max_str_digits() to increase the limit"

inductive Number where
  | int (n : Int)
  | float (x : Finite64)
deriving DecidableEq, Repr, Inhabited

namespace Number

/-- The exact value. -/
def toRat : Number → Rat
  | int n => n
  | float x => x.toRat

/-- The text of any number: a whole one in full, and so a fraction that is whole and below `10 ^ 16` in
magnitude; other fractions to 15 significant digits without zeros at the end. -/
def text : Number → String
  | int n => toString n
  | float x =>
    match x.toInt? with
    | some n => if n.natAbs < Nat.pow 10 16 then toString n else String.ofList (x.generalText 15)
    | none => String.ofList (x.generalText 15)

/-- A whole number has at most `digitLimit` digits. -/
def isWritable : Number → Bool
  | int n => (decimalDigits n.natAbs).length ≤ digitLimit
  | float _ => true

/-- The text of a number that can be written. -/
def written (n : Number) : Except Unwritable String :=
  if n.isWritable then .ok n.text else .error .tooManyDigits

end Number

/-- The same for a binary fraction of any kind. -/
def Float64.text : Float64 → String
  | .finite x => (Number.float x).text
  | .infinity negative => if negative then "-inf" else "inf"
  | .nan _ => "nan"

end StreamLabel
