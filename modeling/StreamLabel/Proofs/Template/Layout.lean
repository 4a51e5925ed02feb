import StreamLabel.Proofs.Template.Span

/-!
# Layouts

A layout is a derivation in the grammar of templates. It divides a text into runs of literal text
and placeholders, a placeholder into its parts and the blanks between them, and a branch into a
layout of its own; `Layout.chars` is the text that it derives and `Layout.nodes` the tree, without
origins. The parts carry their rules with them. Only how literal text is divided depends on what
follows it, and is said apart by `Layout.Ok`.
-/

namespace StreamLabel
open Unicode

structure Blanks where
  chars : List Char
  blank : ∀ c ∈ chars, isBlank c = true

def Blanks.none : Blanks := ⟨[], by simp⟩

def Blanks.append (b b' : Blanks) : Blanks :=
  ⟨b.chars ++ b'.chars, fun c hc => (List.mem_append.1 hc).elim (b.blank c) (b'.blank c)⟩

@[simp] theorem Blanks.chars_append (b b' : Blanks) : (b.append b').chars = b.chars ++ b'.chars := rfl

/-- A letter or low line, and then letters, digits and low lines. -/
def IsName : List Char → Prop
  | [] => False
  | c :: cs => isAsciiNameStart c = true ∧ ∀ d ∈ cs, isAsciiNamePart d = true

instance (cs : List Char) : Decidable (IsName cs) :=
  match cs with
  | [] => inferInstanceAs (Decidable False)
  | c :: cs =>
    decidable_of_iff ((isAsciiNameStart c && cs.all isAsciiNamePart) = true) (by simp [IsName])

structure Name where
  chars : List Char
  isName : IsName chars

/-! ### Patterns and operands -/

/-- Pairs of a backslash and a character, and characters that are no backslash. -/
inductive Paired : List Char → Prop
  | nil : Paired []
  | pair (c : Char) {cs : List Char} (h : Paired cs) : Paired ('\\' :: c :: cs)
  | char {c : Char} {cs : List Char} (hc : c ≠ '\\') (h : Paired cs) : Paired (c :: cs)

/-- Behind `before`, outside pairs, `cs` has a slash that blanks and a bracket follow. -/
def ClosesPattern (cs before : List Char) : Prop :=
  Paired before ∧ ∃ (blanks : Blanks) (after : List Char),
    cs = before ++ '/' :: (blanks.chars ++ '[' :: after)

/-- The first such slash of `cs` stands right behind `pattern`. -/
structure FirstClose (cs pattern : List Char) : Prop where
  closes : ClosesPattern cs pattern
  first : ∀ before, ClosesPattern cs before → pattern.length ≤ before.length

/-- `op` is the longest operator that `cs` begins with. -/
structure LongestOperator (op : CompareOp) (cs : List Char) : Prop where
  begins : op.symbol.toList <+: cs
  longest : ∀ op' : CompareOp, op'.symbol.toList <+: cs → op'.symbol.length ≤ op.symbol.length

namespace Layout

/-- What stands between the two colons and the bracket of a placeholder with branches. -/
inductive Cond where
  | compare (op : CompareOp) (raw : List Char)
      (longest : LongestOperator op (op.symbol.toList ++ raw))
      (operand : ∀ c ∈ raw, c ≠ '[' ∧ c ≠ '\x7d')
  | regex (pattern : List Char) (afterSlash : Blanks)
      (first : FirstClose (pattern ++ '/' :: (afterSlash.chars ++ ['['])) pattern)

namespace Cond

def chars : Cond → List Char
  | compare op raw _ _ => op.symbol.toList ++ raw
  | regex pattern afterSlash _ => '/' :: (pattern ++ '/' :: afterSlash.chars)

def condition : Cond → Condition
  | compare op raw _ _ => .compare op (String.ofList (strip raw))
  | regex pattern _ _ => .regex (String.ofList pattern)

end Cond

/-- A namespace and a property with the blanks in front of them and of the dot. -/
structure Ref where
  beforeSpace : Blanks
  space : Namespace
  beforeDot : Blanks
  beforeProperty : Blanks
  property : Name

namespace Ref

def chars (r : Ref) : List Char :=
  r.beforeSpace.chars ++ (r.space.name.toList ++ (r.beforeDot.chars ++
    '.' :: (r.beforeProperty.chars ++ r.property.chars)))

def reference (r : Ref) : Reference := ⟨r.space, String.ofList r.property.chars⟩

end Ref

/-- All of a placeholder with branches but the texts of the branches. -/
structure Frame where
  ref : Ref
  beforeColons : Blanks
  beforeCondition : Blanks
  condition : Cond
  beforeYes : Blanks
  afterYes : Blanks
  beforeNo : Blanks
  afterNo : Blanks
  beforeBrace : Blanks

namespace Frame

/-- Up to the first branch. -/
def opening (f : Frame) : List Char :=
  '\x7b' :: (f.ref.chars ++ (f.beforeColons.chars ++ ':' :: ':' :: (f.beforeCondition.chars ++
    (f.condition.chars ++ '[' :: f.beforeYes.chars))))

/-- Between the branches. -/
def middle (f : Frame) : List Char :=
  f.afterYes.chars ++ '|' :: '|' :: f.beforeNo.chars

/-- From the second branch on. -/
def closing (f : Frame) : List Char :=
  f.afterNo.chars ++ ']' :: (f.beforeBrace.chars ++ ['\x7d'])

end Frame

def inQuotes (cs : List Char) : List Char := '"' :: (cs ++ ['"'])

def valueChars (ref : Ref) (beforeBrace : Blanks) : List Char :=
  '\x7b' :: (ref.chars ++ (beforeBrace.chars ++ ['\x7d']))

def formattedChars (ref : Ref) (beforeColons beforeName : Blanks) (name : Name)
    (beforeBrace : Blanks) : List Char :=
  '\x7b' :: (ref.chars ++ (beforeColons.chars ++ ':' :: ':' :: (beforeName.chars ++
    (name.chars ++ (beforeBrace.chars ++ ['\x7d'])))))

end Layout

/-! ### Layouts -/

/-- A unit of literal text: a character, or one that a backslash escapes inside a branch. -/
inductive TextUnit where
  | plain (c : Char)
  | escaped (c : Char)
deriving DecidableEq

namespace TextUnit

def value : TextUnit → Char
  | plain c | escaped c => c

def chars : TextUnit → List Char
  | plain c => [c]
  | escaped c => ['\\', c]

/-- A unit before the text `next`: no brace and, inside a branch, no quote and no backslash that
begins an escape. -/
def Ok (inBranch : Bool) (next : List Char) : TextUnit → Prop
  | plain c => c ≠ '\x7b' ∧ (inBranch = true → c ≠ '"' ∧ (c = '\\' → Stops Reader.isEscapable next))
  | escaped c => inBranch = true ∧ Reader.isEscapable c = true

def allChars (us : List TextUnit) : List Char := us.flatMap chars

def allValues (us : List TextUnit) : List Char := us.map value

def AllOk (inBranch : Bool) (next : List Char) : List TextUnit → Prop
  | [] => True
  | u :: us => u.Ok inBranch (allChars us ++ next) ∧ AllOk inBranch next us

end TextUnit

inductive Layout where
  | done
  | text (units : List TextUnit) (rest : Layout)
  | value (ref : Layout.Ref) (beforeBrace : Blanks) (rest : Layout)
  | formatted (ref : Layout.Ref) (beforeColons beforeName : Blanks) (name : Name)
      (beforeBrace : Blanks) (rest : Layout)
  | choice (frame : Layout.Frame) (yes no rest : Layout)

namespace Layout

def chars : Layout → List Char
  | done => []
  | text us rest => TextUnit.allChars us ++ rest.chars
  | value ref b rest => valueChars ref b ++ rest.chars
  | formatted ref b₁ b₂ name b₃ rest => formattedChars ref b₁ b₂ name b₃ ++ rest.chars
  | choice f yes no rest =>
    f.opening ++ (inQuotes yes.chars ++ (f.middle ++ (inQuotes no.chars ++
      (f.closing ++ rest.chars))))

/-- The tree of a layout, without origins. -/
def nodes : Layout → List Node
  | done => []
  | text us rest => .literal (String.ofList (TextUnit.allValues us)) :: rest.nodes
  | value ref _ rest => .value {} ref.reference :: rest.nodes
  | formatted ref _ _ name _ rest =>
    .formatted {} ref.reference (String.ofList name.chars) :: rest.nodes
  | choice f yes no rest =>
    .choice {} f.ref.reference f.condition.condition yes.nodes no.nodes :: rest.nodes

/-- The tree of a layout that begins at `pos`. -/
def nodesAt (pos : Nat) : Layout → List Node
  | done => []
  | text us rest =>
    .literal (String.ofList (TextUnit.allValues us)) ::
      rest.nodesAt (pos + (TextUnit.allChars us).length)
  | value ref b rest =>
    .value ⟨pos, "", ""⟩ ref.reference :: rest.nodesAt (pos + (valueChars ref b).length)
  | formatted ref b₁ b₂ name b₃ rest =>
    .formatted ⟨pos, "", ""⟩ ref.reference (String.ofList name.chars) ::
      rest.nodesAt (pos + (formattedChars ref b₁ b₂ name b₃).length)
  | choice f yes no rest =>
    let yesPos := pos + f.opening.length
    let noPos := yesPos + (inQuotes yes.chars).length + f.middle.length
    .choice ⟨pos, String.ofList yes.chars, String.ofList no.chars⟩ f.ref.reference
      f.condition.condition (yes.nodesAt (yesPos + 1)) (no.nodesAt (noPos + 1)) ::
      rest.nodesAt (noPos + (inQuotes no.chars).length + f.closing.length)

def depth : Layout → Nat
  | done => 0
  | text _ rest | value _ _ rest | formatted _ _ _ _ _ rest => rest.depth
  | choice _ yes no rest => max (1 + max yes.depth no.depth) rest.depth

def IsText : Layout → Prop
  | text _ _ => True
  | _ => False

/-- Literal text is divided into units as it must be, and its runs are as long as they can be. A
quote follows a layout inside a branch. -/
def Ok (inBranch : Bool) : Layout → Prop
  | done => True
  | text us rest =>
    us ≠ [] ∧ TextUnit.AllOk inBranch (rest.chars ++ ['"']) us ∧ ¬ rest.IsText ∧ rest.Ok inBranch
  | value _ _ rest | formatted _ _ _ _ _ rest => rest.Ok inBranch
  | choice _ yes no rest => yes.Ok true ∧ no.Ok true ∧ rest.Ok inBranch

/-- The layout derives the whole text `s`, and its branches nest at most `limit` deep. -/
structure Derives (l : Layout) (limit : Nat) (s : String) : Prop where
  ok : l.Ok false
  depth_le : l.depth ≤ limit
  chars_eq : l.chars = s.toList

end Layout

end StreamLabel
