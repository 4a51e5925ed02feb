/-!
# Pattern expressions

The tree of a search pattern: characters and sets of them, anchors, repetition, groups, references
to groups, and looks at what stands ahead or behind.
-/

namespace StreamLabel.Pattern

inductive Flag where
  | ignoreCase
  | multiline
  | dotAll
  | verbose
  | ascii
  | unicode
  | bareTemplate
  | locale
deriving DecidableEq, Repr

abbrev Flags := List Flag

namespace Flag

def ofLetter? : Char → Option Flag
  | 'i' => some .ignoreCase
  | 'm' => some .multiline
  | 's' => some .dotAll
  | 'x' => some .verbose
  | 'a' => some .ascii
  | 'u' => some .unicode
  | 't' => some .bareTemplate
  | 'L' => some .locale
  | _ => none

/-- The flags that choose a character repertoire, of which one holds. -/
def isRepertoire : Flag → Bool
  | .ascii | .unicode | .locale => true
  | _ => false

end Flag

/-- The flags inside a group that turns some on and some off. -/
def Flags.within (flags on off : Flags) : Flags :=
  let flags := if on.any Flag.isRepertoire then flags.filter (! ·.isRepertoire) else flags
  (flags ++ on).filter fun f => !off.contains f

inductive Category where
  | digit
  | space
  | word
deriving DecidableEq, Repr

/-- A member of a set. Characters are given by code points, some of which no text holds. -/
inductive Member where
  | code (n : Nat)
  | range (low high : Nat)
  | category (c : Category) (negated : Bool)
deriving DecidableEq, Repr

inductive Anchor where
  | lineStart
  | lineEnd
  | textStart
  | textEnd
  | wordEdge
  | noWordEdge
deriving DecidableEq, Repr

/-- How a repetition tries its counts: the most first, the fewest first, or the most only. -/
inductive Greed where
  | greedy
  | lazy
  | possessive
deriving DecidableEq, Repr

/-- The operator as it is named in messages. -/
def Greed.operator : Greed → String
  | .greedy => "MAX_REPEAT"
  | .lazy => "MIN_REPEAT"
  | .possessive => "POSSESSIVE_REPEAT"

/-- The least and the most characters that an expression takes. -/
structure Width where
  least : Nat
  most : Nat
deriving DecidableEq, Repr, Inhabited

namespace Width

/-- The most characters that are told apart from more. -/
def mostCap : Nat := Nat.pow 2 32 - 1

def leastCap : Nat := mostCap - 1

/-- Widths beyond the caps are cut down to them. -/
def capped (least most : Nat) : Width := ⟨min least leastCap, min most mostCap⟩

def exactly (n : Nat) : Width := ⟨n, n⟩

def add (a b : Width) : Width := capped (a.least + b.least) (a.most + b.most)

def either (a b : Width) : Width := ⟨min a.least b.least, max a.most b.most⟩

def times (w : Width) (least : Nat) (most : Option Nat) : Width :=
  capped (w.least * least) (w.most * most.getD mostCap)

end Width

inductive Expr where
  | empty
  | code (n : Nat)
  | notCode (n : Nat)
  | any
  | set (negated : Bool) (members : List Member)
  | anchor (a : Anchor)
  | seq (first second : Expr)
  /-- A choice; an `others` of the same kind holds further alternatives of it. -/
  | alt (first others : Expr)
  | repeated (greed : Greed) (least : Nat) (most : Option Nat) (body : Expr)
  | group (index : Option Nat) (on off : Flags) (body : Expr)
  | atomic (body : Expr)
  /-- A look ahead, or behind by the width of what is looked for. -/
  | look (behind : Option Width) (negated : Bool) (body : Expr)
  | backreference (index : Nat)
  | conditional (index : Nat) (yes no : Expr)
deriving Repr, Inhabited

namespace Expr

def ofList : List Expr → Expr
  | [] => .empty
  | [e] => e
  | e :: es => .seq e (ofList es)

/-- A choice in a group without effects, so that it is not taken for a part of another choice. -/
def apart : Expr → Expr
  | .alt a b => .group none [] [] (.alt a b)
  | e => e

def ofAlternatives : List Expr → Expr
  | [] => .empty
  | [e] => e.apart
  | e :: es => .alt e (ofAlternatives es)

/-- The two are equal and hold no other expression. -/
def sameLeaf : Expr → Expr → Bool
  | .code n, .code m => n == m
  | .notCode n, .notCode m => n == m
  | .any, .any => true
  | .set negated members, .set negated' members' => negated == negated' && members == members'
  | .anchor a, .anchor b => a == b
  | .backreference i, .backreference j => i == j
  | _, _ => false

/-- The members of the set that takes what the expression takes, if it is a character or a set. -/
def members? : Expr → Option (List Member)
  | .code n => some [.code n]
  | .set false members => some members
  | _ => none

/-- The width of an expression, given those of the groups it refers to. -/
def width (groups : Nat → Width) : Expr → Width
  | .empty | .anchor _ | .look _ _ _ => .exactly 0
  | .code _ | .notCode _ | .any | .set _ _ => .exactly 1
  | .seq a b => (a.width groups).add (b.width groups)
  | .alt a b => (a.width groups).either (b.width groups)
  | .repeated _ least most body => (body.width groups).times least most
  | .group _ _ _ body | .atomic body => body.width groups
  | .backreference i => groups i
  | .conditional _ yes no => (yes.width groups).either (no.width groups)

end Expr

end StreamLabel.Pattern
