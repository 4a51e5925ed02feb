import StreamLabel.Template.Basic
import StreamLabel.Text.Quoted

/-!
# Building placeholders

A placeholder is built of a modifier and perhaps two branches, be it by hand or of what was read.
Conditions need both branches, and nothing else may have any.
-/

namespace StreamLabel

/-- What may be put behind the two colons of a placeholder. -/
inductive Modifier where
  | none
  | format (name : String)
  | condition (c : Condition)
  /-- A text that is no modifier. -/
  | foreign (text : String)
deriving DecidableEq, Repr

inductive BuildError where
  | foreignModifier (text : String)
  | missingBranch (c : Condition)
  | strayBranch
deriving DecidableEq, Repr

namespace BuildError

def operatorName : CompareOp → String
  | .ge => "GE"
  | .le => "LE"
  | .gt => "GT"
  | .lt => "LT"
  | .eq => "EQ"

/-- A condition as it is shown in messages. -/
def shown : Condition → String
  | .compare op operand =>
    "Compare(op=<CompareOp." ++ operatorName op ++ ": " ++ quoted op.symbol ++ ">, operand=" ++
      quoted operand ++ ")"
  | .regex pattern => "Regex(pattern=" ++ quoted pattern ++ ")"

def message : BuildError → String
  | .foreignModifier text => "Unsupported modifier " ++ quoted text
  | .missingBranch c => shown c ++ " requires both a true and a false branch"
  | .strayBranch => "Only Compare and Regex modifiers may carry branches"

end BuildError

namespace Node

/-- Builds the placeholder that opens at `position`, if it has the branches that its modifier asks for.
A branch comes with its text. -/
def build (position : Nat) (ref : Reference) (m : Modifier) (yes no : Option (List Node × String)) :
    Except BuildError Node :=
  match m, yes, no with
  | .foreign text, _, _ => .error (.foreignModifier text)
  | .condition c, some yes, some no => .ok (.choice ⟨position, yes.2, no.2⟩ ref c yes.1 no.1)
  | .condition c, _, _ => .error (.missingBranch c)
  | .none, none, none => .ok (.value ⟨position, "", ""⟩ ref)
  | .format name, none, none => .ok (.formatted ⟨position, "", ""⟩ ref name)
  | _, _, _ => .error .strayBranch

end Node

end StreamLabel
