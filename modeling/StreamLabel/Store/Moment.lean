/-!
# Moments

Moments are counted in seconds from the beginning of the year 1970. The calendar ends with the year
9999 and begins with the year 1; what is beyond that is no moment. A span of time has whole days and a
rest, and the days are limited too.
-/

namespace StreamLabel

/-- Why there is no such span of time or no such moment. -/
inductive Overflow where
  /-- The days of a span do not fit into 32 bits. -/
  | machine
  /-- A span has too many days, as many as given. -/
  | days (n : Int)
  /-- A moment is not in the calendar. -/
  | date
deriving DecidableEq, Repr

def Overflow.message : Overflow → String
  | .machine => "Python int too large to convert to C int"
  | .days n => "days=" ++ toString n ++ "; must have magnitude <= 999999999"
  | .date => "date value out of range"

namespace Moment

/-- The first second of the year 1. -/
def first : Int := -62135596800

/-- The last second of the year 9999. -/
def last : Int := 253402300799

/-- The most days that a span may have, forth or back. -/
def dayLimit : Int := 999999999

/-- A span of time of so many seconds. -/
def span (seconds : Int) : Except Overflow Int :=
  let days := seconds / 86400
  if days < -2147483648 ∨ 2147483648 ≤ days then .error .machine
  else if days < -dayLimit ∨ dayLimit < days then .error (.days days)
  else .ok seconds

/-- The moment that is so many seconds after `now`. -/
def after (now seconds : Int) : Except Overflow Int := do
  let moment := now + (← span seconds)
  if first ≤ moment ∧ moment ≤ last then return moment else throw .date

end Moment

end StreamLabel
