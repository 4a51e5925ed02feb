import StreamLabel.Unicode.RangeTable

/-!
# Tables of case mappings

A run maps each code point of a range, or every second one, by one shift; an expansion maps one
character to several. Runs are written `61-7a>41`, or `100-12e/101` when every second code point is
meant, and expansions `df>53.53`.
-/

namespace StreamLabel.Unicode

/-- The code points from `first` to `last`, `step` apart, go to those from `target` on. -/
structure CaseRun where
  first : Nat
  last : Nat
  step : Nat
  target : Nat

structure CaseTable where
  runs : Array CaseRun
  expansions : List (Nat × List Char)

namespace CaseTable

def readRun (w : List Char) : CaseRun :=
  let step := if w.contains '/' then 2 else 1
  match splitAll (fun c => c == '>' || c == '/') w with
  | [source, target] =>
    match splitAll (· == '-') source with
    | [lo, hi] => ⟨hexValue lo, hexValue hi, step, hexValue target⟩
    | _ => ⟨hexValue source, hexValue source, step, hexValue target⟩
  | _ => ⟨0, 0, 1, 0⟩

def readExpansion (w : List Char) : Nat × List Char :=
  match splitAll (· == '>') w with
  | [source, target] =>
    (hexValue source, (splitAll (· == '.') target).map fun d => Char.ofNat (hexValue d))
  | _ => (0, [])

def read (runs expansions : String) : CaseTable where
  runs := ((words runs).map readRun).toArray
  expansions := (words expansions).map readExpansion

/-- The run that reaches `n`, looked for among the entries from `lo` up to `hi`. -/
def findBetween? (t : CaseTable) (n lo hi : Nat) : Option CaseRun :=
  if _ : lo < hi then
    let mid := (lo + hi) / 2
    match t.runs[mid]? with
    | none => none
    | some r =>
      if n < r.first then t.findBetween? n lo mid
      else if r.last < n then t.findBetween? n (mid + 1) hi
      else some r
  else none
termination_by hi - lo

/-- The single character that `c` maps to by the runs, or `c` itself. -/
def shift (t : CaseTable) (c : Char) : Char :=
  match t.findBetween? c.toNat 0 t.runs.size with
  | none => c
  | some r =>
    if (c.toNat - r.first) % r.step = 0 then Char.ofNat (r.target + (c.toNat - r.first)) else c

def expand (t : CaseTable) (c : Char) : List Char :=
  if c.toNat < 128 then [t.shift c]
  else
    match t.expansions.lookup c.toNat with
    | some cs => cs
    | none => [t.shift c]

/-- A range of code points holds one that the table maps. -/
def meets (t : CaseTable) (low high : Nat) : Bool :=
  (t.runs.any fun r =>
    let start := max low r.first
    start + (start - r.first) % r.step ≤ min high r.last) ||
  t.expansions.any fun e => low ≤ e.1 && e.1 ≤ high

/-- The code points that the table maps to `c`, taken alone. -/
def sources (t : CaseTable) (c : Char) : List Nat :=
  (t.runs.toList.filterMap fun r =>
    let n := r.first + (c.toNat - r.target)
    if r.target ≤ c.toNat && n ≤ r.last && (n - r.first) % r.step = 0 then some n else none) ++
  t.expansions.filterMap fun e => if e.2.head? = some c then some e.1 else none

end CaseTable

end StreamLabel.Unicode
