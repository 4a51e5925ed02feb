import StreamLabel.Pattern.Fold

/-!
# Where a match may begin

A pattern that takes at least one character is looked for only where the character can begin a
match, if the first item of the pattern tells which ones can. Whether the item tells this depends on
the flags in force at it. What its categories hold is settled by the flags of the whole pattern.
-/

namespace StreamLabel.Pattern

/-- What is known of the characters that a match begins with. -/
inductive Start where
  | anything
  /-- A certain code point, which the match itself asks for. -/
  | code
  | oneOf (takes : Char → Bool)

namespace Start

def admits (text : Array Char) (pos : Nat) : Start → Bool
  | .oneOf takes => text[pos]?.any takes
  | _ => true

/-- How many places of a text of `size` characters are looked at, from the first one on. If nothing
is known of the beginning of a match, the last one is just behind those from which `least`
characters are left. -/
def count (least size : Nat) : Start → Nat
  | .anything => if least = 0 then size + 1 else size + 2 - least
  | _ => size + 1

end Start

namespace Expr

/-- The first item of a sequence. -/
def head : Expr → Expr
  | .seq a _ => a.head
  | e => e

/-- The code point that an expression is, if its case matters. -/
def fixedCode? (flags : Flags) : Expr → Option Member
  | .code n => if flags.ignores n then none else some (.code n)
  | _ => none

/-- The first code points of the alternatives, if all begin with one. -/
def branchCodes? (flags : Flags) : Expr → Option (List Member)
  | .alt a b => do return (← a.head.fixedCode? flags) :: (← b.branchCodes? flags)
  | e => (e.head.fixedCode? flags).map ([·])

/-- Whether the first item that takes a character is a code point, or there is no item at all; in
every other case nothing is known. -/
def leadsWithCode? (flags : Flags) : Expr → Option Bool
  | .empty => some false
  | .code n => if flags.ignores n then none else some true
  | .seq a b =>
    match a.leadsWithCode? flags with
    | some false => b.leadsWithCode? flags
    | known => known
  | .group _ on off body => body.leadsWithCode? (flags.within on off)
  | _ => none

/-- The set that the first item is, negated or not, if it has one. No member may have another case
that counts. -/
def leadingSet? (flags : Flags) : Expr → Option (Bool × List Member)
  | .seq a _ => a.leadingSet? flags
  | .group _ on off body => body.leadingSet? (flags.within on off)
  | .alt a b => ((Expr.alt a b).branchCodes? flags).map (false, ·)
  | .set negated members =>
    let ignored : Member → Bool
      | .code n => flags.ignores n
      | m => flags.ignoreCase && m.hasCase flags
    if members.any ignored then none else some (negated, members)
  | _ => none

/-- What is known of the beginning of a pattern with the given flags. -/
def start (flags : Flags) (e : Expr) : Start :=
  if e.leadsWithCode? flags = some true then .code
  else
    match e.leadingSet? flags with
    | some (negated, members) => .oneOf fun c => members.any (·.takes flags c) != negated
    | none => .anything

end Expr

end StreamLabel.Pattern
