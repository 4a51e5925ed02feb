import StreamLabel.Number.Rounding

/-!
# Binary floating point numbers of 64 bits

A finite number is a sign, a whole mantissa below `2 ^ 53` and a power of two. Rounding is to the
nearest such number, with a tie going to the even mantissa, and is done in exact arithmetic.
-/

namespace StreamLabel

/-- `± mantissa · 2 ^ exponent`. -/
structure Finite64 where
  negative : Bool
  mantissa : Nat
  exponent : Int
deriving DecidableEq, Repr, Inhabited

inductive Float64 where
  | finite (x : Finite64)
  | infinity (negative : Bool)
  | nan (negative : Bool)
deriving DecidableEq, Repr, Inhabited

/-- The place of the sign in the interchange format. -/
def signBit : Nat := Nat.pow 2 63

/-- The leading place of a mantissa, which the interchange format leaves out. -/
def hiddenBit : Nat := Nat.pow 2 52

/-- `2 ^ e` as a fraction. -/
def powerOfTwo (e : Int) : Nat × Nat :=
  if 0 ≤ e then (Nat.pow 2 e.toNat, 1) else (1, Nat.pow 2 (-e).toNat)

/-- `10 ^ e` as a fraction. -/
def powerOfTen (e : Int) : Nat × Nat :=
  if 0 ≤ e then (Nat.pow 10 e.toNat, 1) else (1, Nat.pow 10 (-e).toNat)

namespace Finite64

def zero (negative : Bool) : Finite64 := ⟨negative, 0, -1074⟩

def isZero (x : Finite64) : Bool := x.mantissa == 0

/-- The absolute value as a fraction. -/
def fraction (x : Finite64) : Nat × Nat :=
  let (a, b) := powerOfTwo x.exponent
  (x.mantissa * a, b)

/-- The number on the rational line. -/
def toRat (x : Finite64) : Rat :=
  let (a, b) := x.fraction
  if x.negative then -(mkRat a b) else mkRat a b

/-- The whole number that `x` is, if it is one. -/
def toInt? (x : Finite64) : Option Int :=
  let (a, b) := x.fraction
  if a % b = 0 then some (if x.negative then -((a / b : Nat) : Int) else (a / b : Nat)) else none

/-- The interchange format: one bit of sign, eleven of exponent, 52 of mantissa. -/
def bits (x : Finite64) : Nat :=
  (if x.negative then signBit else 0) +
    if x.mantissa < hiddenBit then x.mantissa
    else (x.exponent + 1075).toNat * hiddenBit + (x.mantissa - hiddenBit)

end Finite64

namespace Float64

/-- The `k` with `2 ^ k ≤ num / den < 2 ^ (k + 1)`. -/
def binaryExponent (num den : Nat) : Int :=
  let k : Int := num.log2 - den.log2
  let (a, b) := powerOfTwo k
  if num * b < den * a then k - 1 else k

/-- The exponent of the last place kept of `num / den`: 53 places, or down to the smallest. -/
def lastPlace (num den : Nat) : Int := max (binaryExponent num den - 52) (-1074)

/-- The number nearest to `num / den`. -/
def ofFraction (negative : Bool) (num den : Nat) : Float64 :=
  if num = 0 then .finite (.zero negative)
  else
    let e := lastPlace num den
    let (a, b) := powerOfTwo e
    let m := roundHalfEven (num * b) (den * a)
    let (m, e) := if m = 2 * hiddenBit then (hiddenBit, e + 1) else (m, e)
    if 971 < e then .infinity negative else .finite ⟨negative, m, e⟩

/-- The number nearest to `digits · 10 ^ scale`; what lies far outside the range is not expanded. -/
def ofDecimal (negative : Bool) (digits : Nat) (scale : Int) : Float64 :=
  if digits = 0 then .finite (.zero negative)
  else if 400 < scale then .infinity negative
  else if scale + (digits.log2 / 3 + 1 : Nat) < -400 then .finite (.zero negative)
  else
    let (a, b) := powerOfTen scale
    ofFraction negative (digits * a) b

def ofInt (n : Int) : Float64 := ofFraction (n < 0) n.natAbs 1

def bits : Float64 → Nat
  | .finite x => x.bits
  | .infinity negative => (if negative then signBit else 0) + 2047 * hiddenBit
  | .nan negative => (if negative then signBit else 0) + 2047 * hiddenBit + hiddenBit / 2

end Float64

end StreamLabel
