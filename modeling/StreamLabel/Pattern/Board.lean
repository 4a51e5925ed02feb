/-!
# Boards

What a run of a program notes down as it goes: the place noted last, and the marks of the groups. A
way through the program that fails leaves its notes on the board; only what the step that tried it
takes back is undone.
-/

namespace StreamLabel.Pattern

structure Board where
  /-- The place noted last. -/
  noted : Nat
  marks : Array (Option Nat)
  /-- How many of the marks count. -/
  valid : Nat

namespace Board

/-- A board for so many groups. -/
def blank (groups pos : Nat) : Board := ⟨pos, .replicate (2 * groups) none, 0⟩

def note (b : Board) (pos : Nat) : Board := { b with noted := pos }

/-- Sets a mark. The marks that come to count along with it are empty. -/
def mark (b : Board) (index pos : Nat) : Board :=
  if index < b.valid then { b with marks := b.marks.modify index fun _ => some pos }
  else
    { b with
      marks := (b.marks.mapIdx fun i m =>
        if i = index then some pos else if b.valid ≤ i ∧ i < index then none else m)
      valid := index + 1 }

/-- Takes back the count of the marks, and with `all` the marks as well. -/
def restore (b saved : Board) (all : Bool) : Board :=
  { b with marks := if all then saved.marks else b.marks, valid := saved.valid }

/-- Where the group with the mark `index` begins and ends, if it took part. -/
def span? (b : Board) (index : Nat) : Option (Nat × Nat) :=
  if index + 1 < b.valid then
    match b.marks[index]?, b.marks[index + 1]? with
    | some (some first), some (some last) => some (first, last)
    | _, _ => none
  else none

/-- The span of a group that does not end before it begins. -/
def group? (b : Board) (index : Nat) : Option (Nat × Nat) :=
  (b.span? index).filter fun s => s.1 ≤ s.2

/-- A group is marked to end before it begins. -/
def isCrossed (b : Board) : Bool :=
  (List.range (b.marks.size / 2)).any fun i => (b.span? (2 * i)).any fun s => s.2 < s.1

end Board

/-- How a run ended, and the board it left. After a success the noted place is where it ended. -/
structure Outcome where
  found : Bool
  board : Board

namespace Outcome

def success (b : Board) : Outcome := ⟨true, b⟩

def failure (b : Board) : Outcome := ⟨false, b⟩

/-- Goes on with the board of a failure. -/
def otherwise (o : Outcome) (next : Board → Outcome) : Outcome :=
  if o.found then o else next o.board

/-- Notes a place on the board of a failure. -/
def noteLost (o : Outcome) (pos : Nat) : Outcome := o.otherwise fun b => failure (b.note pos)

end Outcome

end StreamLabel.Pattern
