import StreamLabel.Template.Basic
import StreamLabel.Value.Resolved

/-!
# Comparisons

A numeric operand is compared with the numeric view of the value, by exact value; a truth value or a
text without such a view fails every numeric comparison. Any other operand is compared with the
canonical text, code point by code point. What is absent fails every comparison, and a whole number
that is not written cannot be compared with a text.
-/

namespace StreamLabel

namespace CompareOp

/-- Whether the order of two things is one that the operator asks for. -/
def holds : CompareOp → Ordering → Bool
  | .ge, o => o != .lt
  | .le, o => o != .gt
  | .gt, o => o == .gt
  | .lt, o => o == .lt
  | .eq, o => o == .eq

end CompareOp

def Number.order (a b : Number) : Ordering := compareOfLessAndEq a.toRat b.toRat

def textOrder (a b : String) : Ordering := compareOfLessAndEq a.toList b.toList

def Resolved.satisfies (v : Resolved) (op : CompareOp) (operand : String) : Bool :=
  match v with
  | .absent => false
  | v =>
    match Number.read? operand with
    | some n =>
      match v.asNumber? with
      | some m => op.holds (m.order n)
      | none => false
    | none => op.holds (textOrder v.asText operand)

/-- The comparison of a value that has the text it is compared by. -/
def Resolved.compare (v : Resolved) (op : CompareOp) (operand : String) : Except Unwritable Bool :=
  match v, Number.read? operand with
  | .number n, none => n.written.map fun text => op.holds (textOrder text operand)
  | v, _ => .ok (v.satisfies op operand)

end StreamLabel
