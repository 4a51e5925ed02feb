import StreamLabel.Template.Basic
import StreamLabel.Value.Resolved

/-!
# Contexts

The values that a template is rendered against, by group and name of property.
-/

namespace StreamLabel

/-- The values of one group, by name. The first entry of a name counts. -/
abbrev Properties := List (String × Value)

structure Context where
  stream : Properties := []
  provider : Properties := []
  addon : Properties := []
deriving Inhabited

namespace Context

def properties (c : Context) : Namespace → Properties
  | .stream => c.stream
  | .provider => c.provider
  | .addon => c.addon

def value? (c : Context) (ref : Reference) : Option Value :=
  (c.properties ref.space).lookup ref.property

/-- What a reference stands for, with every whole number in full; a property without a value is
absent. -/
def resolve (c : Context) (ref : Reference) : Resolved :=
  match c.value? ref with
  | some v => v.resolve
  | none => .absent

/-- What a reference stands for. -/
def classify (c : Context) (ref : Reference) : Except Unwritable Resolved :=
  match c.value? ref with
  | some v => v.classify
  | none => .ok .absent

end Context

end StreamLabel
