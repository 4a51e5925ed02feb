import StreamLabel.Number.Literal
import StreamLabel.Value.Basic

/-!
# Resolved values

A value is looked at as a number, a text, a truth value or as absent. Sequences become one text of
their items, with a space between those that are not empty. Numbers without a finite value are
absent. The text of a sequence or a table is made when the value is classified, so a whole number in
it that has too many digits to be written leaves the value without a kind.
-/

namespace StreamLabel

inductive Resolved where
  | absent
  | bool (b : Bool)
  | number (n : Number)
  | text (s : String)
deriving DecidableEq, Repr, Inhabited

namespace Resolved

/-- The canonical text, empty for what is absent, with every whole number in full. -/
def asText : Resolved → String
  | .absent => ""
  | .bool b => if b then "true" else "false"
  | .number n => n.text
  | .text s => s

/-- The canonical text, which a whole number of too many digits does not have. -/
def written : Resolved → Except Unwritable String
  | .number n => n.written
  | v => .ok v.asText

/-- The numeric view: numbers, and texts that read as one. -/
def asNumber? : Resolved → Option Number
  | .number n => some n
  | .text s => Number.read? s
  | _ => none

def isAbsent : Resolved → Bool
  | .absent => true
  | _ => false

end Resolved

/-- The texts that are not empty, with a space between them. -/
def joinWords (texts : List String) : String := " ".intercalate (texts.filter (· ≠ ""))

namespace Value

mutual

/-- The value as it is looked at, with every whole number in full. -/
def resolve : Value → Resolved
  | .null => .absent
  | .bool b => .bool b
  | .int n => .number (.int n)
  | .float (.finite x) => .number (.float x)
  | .float _ => .absent
  | .text s => .text s
  | .bytes bs => .text (joinWords (bs.map fun b => toString b.toNat))
  | .list items => .text (joinWords (resolveItems items))
  | .table entries => .text (Value.inner (.table entries))

/-- The canonical texts of the items of a sequence. -/
def resolveItems : List Value → List String
  | [] => []
  | v :: vs => (resolve v).asText :: resolveItems vs

end

mutual

/-- Every whole number in the value can be written. -/
def isWritable : Value → Bool
  | .int n => (Number.int n).isWritable
  | .list items => isWritableAll items
  | .table entries => isWritableEntries entries
  | .null | .bool _ | .float _ | .text _ | .bytes _ => true

def isWritableAll : List Value → Bool
  | [] => true
  | v :: vs => isWritable v && isWritableAll vs

def isWritableEntries : List (String × Value) → Bool
  | [] => true
  | (_, v) :: rest => isWritable v && isWritableEntries rest

end

/-- Looks at a value. A whole number is not written yet. -/
def classify : Value → Except Unwritable Resolved
  | .int n => .ok (.number (.int n))
  | v => if v.isWritable then .ok v.resolve else .error .tooManyDigits

end Value

end StreamLabel
