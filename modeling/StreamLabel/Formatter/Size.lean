import StreamLabel.Formatter.Basic

/-!
# Sizes

A count of bytes as a number with a unit: whole bytes below 1024, and from there on two decimals of
the largest unit that the count reaches. The unit is chosen before rounding.
-/

namespace StreamLabel.Size

/-- The units above the byte, each 1024 of the one before. -/
def units : List String := ["KB", "MB", "GB", "TB", "PB"]

/-- How many units `1024 ^ i`, up to the last of `left`, the fraction `num / den` reaches. -/
def unitIndex (num den : Nat) : (left : Nat) → Nat
  | 0 => 0
  | left + 1 => if Nat.pow 1024 (left + 1) * den ≤ num then left + 1 else unitIndex num den left

/-- The text of a finite count, which may be negative. -/
def ofFinite (x : Finite64) : String :=
  let (num, den) := x.fraction
  let i := if x.negative then 0 else unitIndex num den units.length
  match (if i = 0 then none else units[i - 1]?) with
  | none => String.ofList (x.fixedText 0) ++ " B"
  | some unit => String.ofList (Decimal.fixed 2 num (den * Nat.pow 1024 i)) ++ " " ++ unit

/-- The text of any count; an infinite one has the last unit. -/
def ofFloat : Float64 → String
  | .finite x => ofFinite x
  | .infinity negative => if negative then "-inf B" else "inf PB"
  | .nan _ => "nan B"

/-- The text of a whole count, which is first rounded to a binary fraction. -/
def ofInt (n : Int) : Except Formatter.Failure String :=
  match Float64.ofInt n with
  | .finite x => .ok (ofFinite x)
  | _ => .error .tooLarge

def ofNumber : Number → Except Formatter.Failure String
  | .int n => ofInt n
  | .float x => .ok (ofFinite x)

/-- What is absent has size zero; truth values, negative numbers and texts that are no numbers have
none. -/
def format : Resolved → Except Formatter.Failure String
  | .absent => .ok "0 B"
  | .bool _ => .ok ""
  | v =>
    match v.asNumber? with
    | none => .ok ""
    | some n => if n.toRat < 0 then .ok "" else ofNumber n

end StreamLabel.Size
