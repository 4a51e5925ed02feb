/-!
# Rounding to a whole number

A quotient of natural numbers is rounded to the nearest whole number, and a half goes to the even
neighbour.
-/

namespace StreamLabel

def roundHalfEven (num den : Nat) : Nat :=
  let q := num / den
  let r := num % den
  if 2 * r < den then q
  else if den < 2 * r then q + 1
  else if q % 2 = 0 then q else q + 1

/-- The digits of `n` in base ten, without leading zeros. -/
def decimalDigits (n : Nat) : List Char := Nat.toDigits 10 n

/-- How many digits `n` has in base ten, none for zero. -/
def digitCount (n : Nat) : Nat := if n = 0 then 0 else (decimalDigits n).length

/-- `digits` with zeros in front up to `width`. -/
def padZeros (width : Nat) (digits : List Char) : List Char :=
  List.replicate (width - digits.length) '0' ++ digits

end StreamLabel
