import StreamLabel.Number.Float64

/-!
# Decimal text of fractions

Fixed places, a count of significant digits, and the shortest digits that read back. Each rounds the
exact value once.
-/

namespace StreamLabel.Decimal

/-- The `k` with `10 ^ k ≤ num / den < 10 ^ (k + 1)`, for a positive fraction. -/
def exponentOf (num den : Nat) : Int :=
  if den ≤ num then digitCount (num / den) - 1 else -(digitCount ((den - 1) / num) : Int)

/-- `0.digits · 10 ^ point`: the digits of a positive number, the first one not zero, and how many
of them stand before the point. -/
structure Digits where
  digits : List Char
  point : Int
deriving DecidableEq, Repr, Inhabited

namespace Digits

/-- The same number without zeros at the end. -/
def trim (d : Digits) : Digits :=
  { d with digits := (d.digits.reverse.dropWhile (· == '0')).reverse }

/-- The digits of `m · 10 ^ scale`. -/
def ofScaled (m : Nat) (scale : Int) : Digits :=
  let ds := decimalDigits m
  ⟨ds, ds.length + scale⟩

/-- Digits, a point where one is due, and zeros up to it. -/
def positional (d : Digits) : List Char :=
  if d.point ≤ 0 then
    '0' :: '.' :: List.replicate (-d.point).toNat '0' ++ d.digits
  else
    let n := d.point.toNat
    let whole := d.digits.take n
    let whole := whole ++ List.replicate (n - whole.length) '0'
    let rest := d.digits.drop n
    if rest.isEmpty then whole else whole ++ '.' :: rest

/-- One digit before the point and an exponent of at least two digits. -/
def scientific (d : Digits) : List Char :=
  let e := d.point - 1
  let power := padZeros 2 (decimalDigits e.natAbs)
  let sign := if e < 0 then '-' else '+'
  match d.digits with
  | [] => []
  | [c] => c :: 'e' :: sign :: power
  | c :: cs => c :: '.' :: cs ++ 'e' :: sign :: power

end Digits

/-- `n` significant digits of a positive fraction. Rounding up to a power of ten leaves one digit
more, a zero, which is dropped. -/
def significant (n num den : Nat) : Digits :=
  let scale := exponentOf num den - (n - 1 : Nat)
  let (a, b) := powerOfTen scale
  let d := Digits.ofScaled (roundHalfEven (num * b) (den * a)) scale
  { d with digits := d.digits.take n }

/-- The digits nearest to a finite positive number among the shortest that read back as it. -/
def shortest (x : Finite64) : Digits :=
  let (num, den) := x.fraction
  go num den 17
where
  readsBack (m : Nat) (scale : Int) : Bool :=
    Float64.ofDecimal x.negative m scale == .finite x
  /-- The two neighbours on the grid of `n` digits, the nearer first. -/
  neighbours (num den : Nat) (scale : Int) : Nat × Nat :=
    let (a, b) := powerOfTen scale
    let low := num * b / (den * a)
    if roundHalfEven (num * b) (den * a) = low then (low, low + 1) else (low + 1, low)
  go (num den : Nat) : Nat → Digits
    | 0 => (significant 17 num den).trim
    | left + 1 =>
      let scale := exponentOf num den - ((17 - (left + 1) : Nat) : Int)
      let (near, far) := neighbours num den scale
      if readsBack near scale then (Digits.ofScaled near scale).trim
      else if readsBack far scale then (Digits.ofScaled far scale).trim
      else go num den left

/-- The text of a fraction with a fixed number of places. -/
def fixed (places num den : Nat) : List Char :=
  let digits := padZeros (places + 1) (decimalDigits (roundHalfEven (num * Nat.pow 10 places) den))
  let whole := digits.take (digits.length - places)
  if places = 0 then whole else whole ++ '.' :: digits.drop (digits.length - places)

end Decimal

namespace Finite64

def withSign (negative : Bool) (text : List Char) : List Char :=
  if negative then '-' :: text else text

/-- Fixed places, with the sign of a negative zero kept. -/
def fixedText (places : Nat) (x : Finite64) : List Char :=
  let (a, b) := x.fraction
  withSign x.negative (Decimal.fixed places a b)

/-- At most `n` significant digits, positional from `10 ^ -4` up to `10 ^ n`. -/
def generalText (n : Nat) (x : Finite64) : List Char :=
  if x.isZero then withSign x.negative ['0']
  else
    let (a, b) := x.fraction
    let d := (Decimal.significant n a b).trim
    withSign x.negative (if -4 < d.point ∧ d.point ≤ n then d.positional else d.scientific)

/-- The shortest digits that read back, positional from `10 ^ -4` up to `10 ^ 16`, with a point
always shown in the positional form. -/
def shortestText (x : Finite64) : List Char :=
  if x.isZero then withSign x.negative ['0', '.', '0']
  else
    let d := Decimal.shortest { x with negative := false }
    withSign x.negative
      (if -4 < d.point ∧ d.point ≤ 16 then
        let text := d.positional
        if text.contains '.' then text else text ++ ['.', '0']
      else d.scientific)

end Finite64

end StreamLabel
