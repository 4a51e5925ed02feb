import StreamLabel.Value.Resolved

/-!
# Formatters

A formatter turns a resolved value into text, or fails. Formatters are found by name in a registry.
-/

namespace StreamLabel

namespace Formatter

inductive Category where
  | numeric
  | text
deriving DecidableEq, Repr

/-- Why a formatter gives no text. -/
inductive Failure where
  /-- A whole number is beyond the range of binary fractions. -/
  | tooLarge
  /-- The value has no text. -/
  | unwritable (u : Unwritable)
  | raised (message : String)
deriving DecidableEq, Repr

def Failure.message : Failure → String
  | .tooLarge => "int too large to convert to float"
  | .unwritable u => u.message
  | .raised message => message

end Formatter

structure Formatter where
  name : String
  category : Formatter.Category
  description : String
  run : Resolved → Except Formatter.Failure String

/-- Formatters with different names. -/
abbrev Registry := List Formatter

namespace Registry

/-- Adds a formatter, in place of one of the same name. -/
def insert (r : Registry) (f : Formatter) : Registry :=
  r.filter (·.name ≠ f.name) ++ [f]

def find? (r : Registry) (name : String) : Option Formatter := List.find? (·.name == name) r

/-- The names in rising order. -/
def names (r : Registry) : List String := (r.map (·.name)).mergeSort fun a b => !decide (b < a)

end Registry

end StreamLabel
