/-!
# Tables of code point ranges

A property of characters is held as its ranges of code points in rising order and looked up by
halving. Tables are written as hexadecimal text: `41-5a` is a range and `aa` a single code point.
-/

namespace StreamLabel.Unicode

/-- The value of a hexadecimal digit. -/
def hexDigitValue? (c : Char) : Option Nat :=
  if '0' ≤ c ∧ c ≤ '9' then some (c.toNat - '0'.toNat)
  else if 'a' ≤ c ∧ c ≤ 'f' then some (c.toNat - 'a'.toNat + 10)
  else if 'A' ≤ c ∧ c ≤ 'F' then some (c.toNat - 'A'.toNat + 10)
  else none

/-- The number a hexadecimal text stands for; other characters count as zero. -/
def hexValue (s : List Char) : Nat :=
  s.foldl (fun n c => n * 16 + (hexDigitValue? c).getD 0) 0

/-- The pieces of a text between the characters that `p` picks. -/
def splitAll (p : Char → Bool) : List Char → List (List Char)
  | [] => [[]]
  | c :: cs =>
    match splitAll p cs with
    | [] => [[c]]
    | w :: ws => if p c then [] :: w :: ws else (c :: w) :: ws

def words (s : String) : List (List Char) :=
  (splitAll (fun c => c == ' ' || c == '\n') s.toList).filter (! ·.isEmpty)

structure RangeTable where
  ranges : Array (Nat × Nat)

namespace RangeTable

def read (s : String) : RangeTable where
  ranges := ((words s).map fun w =>
    match splitAll (· == '-') w with
    | [lo, hi] => (hexValue lo, hexValue hi)
    | _ => (hexValue w, hexValue w)).toArray

/-- The range that holds `n`, looked for among the entries from `lo` up to `hi`. -/
def findBetween? (t : RangeTable) (n lo hi : Nat) : Option (Nat × Nat) :=
  if _ : lo < hi then
    let mid := (lo + hi) / 2
    match t.ranges[mid]? with
    | none => none
    | some r =>
      if n < r.1 then t.findBetween? n lo mid
      else if r.2 < n then t.findBetween? n (mid + 1) hi
      else some r
  else none
termination_by hi - lo

def find? (t : RangeTable) (n : Nat) : Option (Nat × Nat) := t.findBetween? n 0 t.ranges.size

def contains (t : RangeTable) (n : Nat) : Bool := (t.find? n).isSome

end RangeTable

end StreamLabel.Unicode
