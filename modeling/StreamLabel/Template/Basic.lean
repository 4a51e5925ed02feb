/-!
# Template trees

A template is a sequence of literal texts and placeholders. A placeholder refers to a property and
may name a formatter, or hold a condition and the two branches it chooses from.
-/

namespace StreamLabel

/-- The groups of properties. -/
inductive Namespace where
  | stream
  | provider
  | addon
deriving DecidableEq, Repr, Inhabited

namespace Namespace

def name : Namespace → String
  | .stream => "stream"
  | .provider => "provider"
  | .addon => "addon"

def ofName? (s : String) : Option Namespace :=
  [stream, provider, addon].find? (·.name == s)

end Namespace

inductive CompareOp where
  | ge
  | le
  | gt
  | lt
  | eq
deriving DecidableEq, Repr, Inhabited

namespace CompareOp

def symbol : CompareOp → String
  | .ge => ">="
  | .le => "<="
  | .gt => ">"
  | .lt => "<"
  | .eq => "="

def all : List CompareOp := [ge, le, gt, lt, eq]

def ofSymbol? (s : String) : Option CompareOp := all.find? (·.symbol == s)

end CompareOp

structure Reference where
  space : Namespace
  property : String
deriving DecidableEq, Repr, Inhabited

def Reference.text (r : Reference) : String := r.space.name ++ "." ++ r.property

/-- What decides between two branches. -/
inductive Condition where
  | compare (op : CompareOp) (operand : String)
  | regex (pattern : String)
deriving DecidableEq, Repr, Inhabited

/-- Where a placeholder begins in the text it was read from, and the texts of its two branches. A
tree built by hand has no origin. -/
structure Origin where
  position : Nat := 0
  yes : String := ""
  no : String := ""
deriving DecidableEq, Repr, Inhabited

inductive Node where
  | literal (text : String)
  | value (origin : Origin) (ref : Reference)
  | formatted (origin : Origin) (ref : Reference) (formatter : String)
  | choice (origin : Origin) (ref : Reference) (condition : Condition) (yes no : List Node)
deriving Repr, Inhabited

structure Template where
  nodes : List Node
  /-- The text the template was read from, empty for one built by hand. -/
  source : String := ""
deriving Repr, Inhabited

namespace Node

mutual

/-- The deepest nesting of branches in a node. -/
def depth : Node → Nat
  | .choice _ _ _ yes no => 1 + max (depthAll yes) (depthAll no)
  | _ => 0

def depthAll : List Node → Nat
  | [] => 0
  | n :: ns => max (depth n) (depthAll ns)

end

mutual

/-- A node that is no literal, and then those of its branches. -/
def placeholders : Node → List Node
  | .literal _ => []
  | .value origin ref => [.value origin ref]
  | .formatted origin ref formatter => [.formatted origin ref formatter]
  | .choice origin ref condition yes no =>
    .choice origin ref condition yes no :: (placeholdersAll yes ++ placeholdersAll no)

def placeholdersAll : List Node → List Node
  | [] => []
  | n :: ns => placeholders n ++ placeholdersAll ns

end

mutual

/-- The references of a node, then those of its branches. -/
def references : Node → List Reference
  | .literal _ => []
  | .value _ ref | .formatted _ ref _ => [ref]
  | .choice _ ref _ yes no => ref :: (referencesAll yes ++ referencesAll no)

def referencesAll : List Node → List Reference
  | [] => []
  | n :: ns => references n ++ referencesAll ns

end

mutual

/-- The same tree without its origins. -/
def bare : Node → Node
  | .literal text => .literal text
  | .value _ ref => .value {} ref
  | .formatted _ ref formatter => .formatted {} ref formatter
  | .choice _ ref condition yes no => .choice {} ref condition (bareAll yes) (bareAll no)

def bareAll : List Node → List Node
  | [] => []
  | n :: ns => bare n :: bareAll ns

end

mutual

/-- Equality of trees, origins aside. -/
def same : Node → Node → Bool
  | .literal s, .literal t => s == t
  | .value _ r, .value _ r' => r == r'
  | .formatted _ r f, .formatted _ r' f' => r == r' && f == f'
  | .choice _ r c yes no, .choice _ r' c' yes' no' =>
    r == r' && c == c' && sameAll yes yes' && sameAll no no'
  | _, _ => false

def sameAll : List Node → List Node → Bool
  | [], [] => true
  | n :: ns, m :: ms => same n m && sameAll ns ms
  | _, _ => false

end

end Node

namespace Template

def isEmpty (t : Template) : Bool := t.nodes.isEmpty

def depth (t : Template) : Nat := Node.depthAll t.nodes

/-- Every placeholder, in the order of the text, branches included. -/
def placeholders (t : Template) : List Node := Node.placeholdersAll t.nodes

/-- Every reference, in the order of the text, branches included. -/
def references (t : Template) : List Reference := Node.referencesAll t.nodes

/-- Equality of templates, origins and sources aside. -/
def same (t u : Template) : Bool := Node.sameAll t.nodes u.nodes

end Template

end StreamLabel
