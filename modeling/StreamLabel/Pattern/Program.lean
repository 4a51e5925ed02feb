import StreamLabel.Pattern.Fold

/-!
# Programs

A pattern is run as a program: a chain of steps in which every step holds what comes after it. Flags
are settled and groups are dissolved, so that a step can see what its next one is. A part that is
matched on its own ends in `success`; the body of a repetition ends in `roundEnd`.
-/

namespace StreamLabel.Pattern

inductive Program where
  /-- The end of a pattern, or of a part that is matched on its own. -/
  | success
  /-- The end of a round of a repetition. -/
  | roundEnd
  /-- The end of a choice of which no alternative is left. -/
  | failure
  /-- The end of an alternative; what it leads on to is not seen from before it. -/
  | leave (rest : Program)
  | single (s : Single) (rest : Program)
  | anchor (a : Anchor) (flags : Flags) (rest : Program)
  /-- Notes the place as a mark. -/
  | mark (index : Nat) (rest : Program)
  | backreference (index : Nat) (flags : Flags) (rest : Program)
  | conditional (index : Nat) (yes no : Program)
  /-- An alternative, which leads on by itself, and the choice among the others. -/
  | choice (this others : Program)
  | repeatSingle (greed : Greed) (least : Nat) (most : Option Nat) (s : Single) (rest : Program)
  | repeated (greed : Greed) (least : Nat) (most : Option Nat) (body rest : Program)
  | atomic (body rest : Program)
  /-- A look at what begins `back` characters before the place. -/
  | look (back : Nat) (negated : Bool) (body rest : Program)

namespace Program

/-- The code point that the program begins with. -/
def code? : Program → Option Nat
  | .single ⟨.code n, _⟩ _ => some n
  | _ => none

/-- The program has nothing to do. -/
def isSuccess : Program → Bool
  | .success => true
  | _ => false

end Program

/-- The mark at which a group begins; the next one is that at which it ends. -/
def markOf (index : Nat) : Nat := 2 * (index - 1)

/-- The program of an expression under flags, with `rest` after it. -/
def Expr.compile : Expr → Flags → Program → Program
  | .empty, _, rest => rest
  | .code n, flags, rest => .single (.ofCode flags false n) rest
  | .notCode n, flags, rest => .single (.ofCode flags true n) rest
  | .any, flags, rest => .single ⟨.other, fun c => flags.contains .dotAll || c != '\n'⟩ rest
  | .set negated members, flags, rest => .single (.ofSet flags negated members) rest
  | .anchor a, flags, rest => .anchor a flags rest
  | .seq a b, flags, rest => a.compile flags (b.compile flags rest)
  | .alt a b, flags, rest =>
    .choice (a.compile flags (.leave rest)) <|
      match b with
      | .alt _ _ => b.compile flags rest
      | _ => .choice (b.compile flags (.leave rest)) .failure
  | .repeated greed least most body, flags, rest =>
    match body.single? flags, greed with
    | some s, _ => .repeatSingle greed least most s rest
    | none, .possessive => .repeated greed least most (body.compile flags .success) rest
    | none, _ => .repeated greed least most (body.compile flags .roundEnd) rest
  | .group none on off body, flags, rest => body.compile (flags.within on off) rest
  | .group (some index) on off body, flags, rest =>
    .mark (markOf index) (body.compile (flags.within on off) (.mark (markOf index + 1) rest))
  | .atomic body, flags, rest => .atomic (body.compile flags .success) rest
  | .look behind negated body, flags, rest =>
    .look (behind.elim 0 (·.least)) negated (body.compile flags .success) rest
  | .backreference index, flags, rest => .backreference index flags rest
  | .conditional index yes .empty, flags, rest =>
    .conditional index (yes.compile flags rest) rest
  | .conditional index yes no, flags, rest =>
    .conditional index (yes.compile flags (.leave rest)) (no.compile flags rest)

end StreamLabel.Pattern
