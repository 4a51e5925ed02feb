import StreamLabel.Template.Basic

/-!
# Canonical text

The text of a template without optional blanks. Inside a branch the quotes and backslashes of
literal text are escaped; at the top level text stands as it is.
-/

namespace StreamLabel

/-- The text that follows the two colons of a placeholder with branches. -/
def Condition.text : Condition → String
  | .compare op operand => op.symbol ++ operand
  | .regex pattern => "/" ++ pattern ++ "/"

/-- Literal text as it is written inside a branch. -/
def escapeBranchText : List Char → List Char
  | [] => []
  | c :: cs =>
    if c = '"' ∨ c = '\\' then '\\' :: c :: escapeBranchText cs else c :: escapeBranchText cs

def openBrace : String := "\x7b"
def closeBrace : String := "\x7d"

def inBraces (s : String) : String := openBrace ++ s ++ closeBrace

namespace Node

mutual

/-- The text of a node at the top level. -/
def text : Node → String
  | .literal s => s
  | .value _ ref => inBraces ref.text
  | .formatted _ ref formatter => inBraces (ref.text ++ "::" ++ formatter)
  | .choice _ ref condition yes no =>
    inBraces (ref.text ++ "::" ++ condition.text ++
      "[\"" ++ branchTextAll yes ++ "\"||\"" ++ branchTextAll no ++ "\"]")

/-- The text of nodes as the body of a quoted branch. -/
def branchTextAll : List Node → String
  | [] => ""
  | .literal s :: ns => String.ofList (escapeBranchText s.toList) ++ branchTextAll ns
  | n :: ns => text n ++ branchTextAll ns

end

def textAll (ns : List Node) : String := String.join (ns.map text)

end Node

namespace Template

def text (t : Template) : String := Node.textAll t.nodes

def branchText (t : Template) : String := Node.branchTextAll t.nodes

end Template

end StreamLabel
