import StreamLabel.Pattern.Reader
import StreamLabel.Pattern.Search
import StreamLabel.Pattern.Start

/-!
# Search patterns

A pattern is read from its text once, and then looked for anywhere in other texts.
-/

namespace StreamLabel

structure Pattern where
  /-- The flags in force for the whole pattern. -/
  flags : Pattern.Flags
  expr : Pattern.Expr
  /-- How many groups have a number. -/
  groups : Nat
  /-- The least number of characters that a match takes. -/
  least : Nat

namespace Pattern

/-- Looks behind have one width, and nothing is repeated where that is not allowed. -/
def Expr.check (bare : Bool) : Expr → Except Defect Unit
  | .seq a b | .alt a b | .conditional _ a b => do
    a.check bare
    b.check bare
  | .repeated greed _ _ body => do
    if bare then throw (.bareRepeat greed.operator)
    body.check bare
  | .group _ _ _ body | .atomic body | .look none _ body => body.check bare
  | .look (some width) _ body => do
    if width.least ≠ width.most then throw .lookBehindWidth
    body.check bare
  | _ => return

/-- Reads the whole of a pattern. -/
def readAll : ReadM Pattern := do
  checkAhead
  let size := (← get).rest.length
  let e := Expr.ofList (← alternation true false (5 * size + 5))
  let p ← get
  if p.flags.contains .ascii && p.flags.contains .unicode then
    throw (.refused .asciiAndUnicode)
  else if (← peek).isSome then fail .unbalanced 0
  else
    match p.asked.find? fun a => p.groups ≤ a.1 with
    | some (index, pos) => failAt (.noGroup index) pos
    | none =>
      match e.check (p.flags.contains .bareTemplate) with
      | .error defect => throw (.malformed defect none)
      | .ok _ => return ⟨p.flags, e, p.widths.length, (← widthOf e).least⟩

def read (source : String) : Except Rejection Pattern :=
  readAll.run' ⟨0, source.toList, [], [], [], none, []⟩

/-- The program that looks for the pattern at one place. -/
def program (p : Pattern) : Program := p.expr.compile p.flags .success

/-- The board of the first match in a text, places being tried from left to right. -/
def firstMatch? (p : Pattern) (text : Array Char) : Option Board :=
  let program := p.program
  let start := if p.least = 0 then .anything else p.expr.start p.flags
  if text.size < p.least then none
  else
    (List.range (start.count p.least text.size)).findSome? fun pos =>
      if start.admits text pos then
        let o := program.run text false (fun _ b => .failure b) pos (.blank p.groups pos)
        if o.found then some o.board else none
      else none

/-- Whether the pattern matches somewhere in the text. -/
def occursIn (p : Pattern) (text : String) : Except Refusal Bool :=
  match p.firstMatch? text.toList.toArray with
  | some b => if b.isCrossed then .error .wrongSpan else .ok true
  | none => .ok false

end Pattern

end StreamLabel
