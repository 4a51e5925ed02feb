import StreamLabel.Proofs.Template.Placeholder

/-!
# Reading from a later place

A reader looks at the characters in front of it and copies the positions that it is given into its
faults and origins, but never compares one with a constant. So each reader, begun `k` characters
later with the same text in front of it, returns the same result with every position `k` higher
(`Later`). There is one such lemma for each reader, up to `sequence` and `branch`.
-/

namespace StreamLabel
open Unicode

variable {k : Nat}

def Origin.shift (k : Nat) (o : Origin) : Origin := { o with position := o.position + k }

namespace Node

mutual

/-- The same tree, read `k` characters later. -/
def shift (k : Nat) : Node → Node
  | .literal text => .literal text
  | .value origin ref => .value (origin.shift k) ref
  | .formatted origin ref formatter => .formatted (origin.shift k) ref formatter
  | .choice origin ref condition yes no =>
    .choice (origin.shift k) ref condition (shiftAll k yes) (shiftAll k no)

def shiftAll (k : Nat) : List Node → List Node
  | [] => []
  | n :: ns => shift k n :: shiftAll k ns

end

end Node

def Fault.shift (k : Nat) (f : Fault) : Fault := { f with position := f.position + k }

/-! ### Cursors -/

namespace Cursor

/-- A cursor with `k` more characters before it. -/
def shift (k : Nat) (c : Cursor) : Cursor := { c with pos := c.pos + k }

variable {c : Cursor}

@[simp] theorem shift_rest : (c.shift k).rest = c.rest := rfl

@[simp] theorem shift_pos : (c.shift k).pos = c.pos + k := rfl

@[simp] theorem skip_shift (n : Nat) : (c.shift k).skip n = (c.skip n).shift k := by
  simp only [skip, shift, Nat.add_right_comm]

@[simp] theorem skipBlanks_shift : (c.shift k).skipBlanks = c.skipBlanks.shift k := skip_shift _

@[simp] theorem startsWith_shift (token : String) :
    (c.shift k).startsWith token = c.startsWith token := rfl

end Cursor

namespace Reader

variable {α β γ δ : Type} {start : Nat} {c : Cursor}

/-- A result with all its positions `k` higher, where `move` shifts what was read. -/
def shifted (k : Nat) (move : α → β) : Except Fault (α × Cursor) → Except Fault (β × Cursor)
  | .ok (a, c) => .ok (move a, c.shift k)
  | .error f => .error (f.shift k)

/-- Begun `k` characters later, `g` reads what `f` reads. -/
def Later (k : Nat) (move : α → β) (f : Reader α) (g : Reader β) : Prop :=
  ∀ c : Cursor, g (c.shift k) = shifted k move (f c)

theorem shifted_bind (move : α → β) {move' : γ → δ} {x : Except Fault (α × Cursor)}
    {x' : Except Fault (β × Cursor)} {f : α × Cursor → Except Fault (γ × Cursor)}
    {g : β × Cursor → Except Fault (δ × Cursor)} (hx : x' = shifted k move x)
    (h : ∀ a c, g (move a, c.shift k) = shifted k move' (f (a, c))) :
    (x' >>= g) = shifted k move' (x >>= f) := by
  subst hx
  rcases x with f | ⟨a, c⟩
  · rfl
  · exact h a c

/-! ### Names and conditions -/

@[simp] theorem name_shift (c : Cursor) : name (c.shift k) = ((name c).1, (name c).2.shift k) := by
  simp only [name, Cursor.shift_rest, Cursor.skip_shift]
  split
  · rfl
  · split <;> rfl

@[simp] theorem placeholderFault_shift (part : Expected) :
    placeholderFault (start + k) part (c.shift k) = (placeholderFault start part c).shift k := by
  by_cases hend : c.rest.isEmpty = true <;>
    simp only [placeholderFault, Cursor.shift_rest, Cursor.shift_pos, hend, Bool.false_eq_true,
      ↓reduceIte, Fault.shift]

@[simp] theorem branchesFault_shift (cause : Cause) :
    branchesFault (start + k) cause (c.shift k) = (branchesFault start cause c).shift k := by
  by_cases hend : c.rest.isEmpty = true <;>
    simp only [branchesFault, Cursor.shift_rest, Cursor.shift_pos, hend, Bool.false_eq_true,
      ↓reduceIte, Fault.shift]

theorem regex_later : Later k id (regex start) (regex (start + k)) := by
  intro c
  simp only [regex, Cursor.shift_rest, Cursor.shift_pos, Cursor.skip_shift]
  cases patternLength? (c.rest.drop 1) with
  | some n => rfl
  | none =>
    by_cases hslash : hasSlash (c.rest.drop 1) = true
    · simp only [hslash]; rfl
    · by_cases hbrace : c.rest.contains '\x7d' = true <;> simp only [hslash, hbrace] <;> rfl

theorem operand_later {modifier : Nat} :
    Later k id (operand start modifier) (operand (start + k) (modifier + k)) := by
  intro c
  simp only [operand, Cursor.shift_rest, Cursor.skip_shift]
  split
  · rfl
  · split <;> rfl

/-- What comes next, a condition or none, does not depend on the position. -/
theorem condition_shift (c : Cursor) :
    condition (start + k) (c.shift k) = (condition start c).map (shifted k id) := by
  by_cases hslash : c.startsWith "/" = true
  · rw [condition, condition, if_pos hslash, Cursor.startsWith_shift, if_pos hslash,
      regex_later c, Option.map_some]
  · have hop : operator? (c.shift k) = operator? c := rfl
    rw [condition, condition, if_neg hslash, Cursor.startsWith_shift, if_neg hslash, hop]
    cases operator? c with
    | none => rfl
    | some op =>
      simp only [Option.map_some, Cursor.skip_shift, Cursor.shift_pos, operand_later (c.skip _)]
      rcases operand start c.pos (c.skip op.symbol.length) with f | ⟨text, d⟩ <;> rfl

/-! ### Placeholders -/

/-- What was read of a branch, `k` characters later. -/
def shiftBranch (k : Nat) (b : List Node × String) : List Node × String := (Node.shiftAll k b.1, b.2)

def Modifier.shift (k : Nat) (m : Modifier) : Modifier :=
  ⟨m.kind, m.yes.map (shiftBranch k), m.no.map (shiftBranch k)⟩

variable {branch : Reader (List Node × String)}

theorem quotedBranch_later (hb : Later k (shiftBranch k) branch branch) :
    Later k (shiftBranch k) (quotedBranch branch start) (quotedBranch branch (start + k)) := by
  intro c
  simp only [quotedBranch, Cursor.startsWith_shift, branchesFault_shift]
  split
  · exact hb c
  · rfl

theorem branches_later (hb : Later k (shiftBranch k) branch branch) :
    Later k (Prod.map (shiftBranch k) (shiftBranch k)) (branches branch) (branches branch) := by
  intro c
  simp only [branches, Cursor.skip_shift, Cursor.skipBlanks_shift, Cursor.shift_pos]
  refine shifted_bind _ (quotedBranch_later hb _) fun yes d => ?_
  simp only [Cursor.skipBlanks_shift, Cursor.startsWith_shift, Cursor.skip_shift,
    branchesFault_shift]
  split
  · refine shifted_bind _ (quotedBranch_later hb _) fun no e => ?_
    simp only [Cursor.skipBlanks_shift, Cursor.startsWith_shift, Cursor.skip_shift,
      branchesFault_shift]
    split <;> rfl
  · rfl

theorem modifier_later (hb : Later k (shiftBranch k) branch branch) :
    Later k (Modifier.shift k) (modifier branch start) (modifier branch (start + k)) := by
  intro c
  simp only [modifier, Cursor.shift_rest, condition_shift]
  split
  · rfl
  · cases condition start c with
    | some result =>
      refine shifted_bind id rfl fun condition d => ?_
      simp only [Cursor.skipBlanks_shift, Cursor.startsWith_shift]
      split
      · exact shifted_bind _ (branches_later hb _) fun both e => rfl
      · rfl
    | none =>
      simp only [Option.map_none, name_shift, Cursor.skipBlanks_shift, Cursor.startsWith_shift]
      split
      · rfl
      · split <;> rfl

theorem reference_later : Later k id (reference start) (reference (start + k)) := by
  intro c
  simp only [reference, Cursor.skipBlanks_shift, name_shift, Cursor.startsWith_shift,
    Cursor.skip_shift, placeholderFault_shift]
  split
  · rfl
  · split
    · rfl
    · split
      · split <;> rfl
      · rfl

theorem modification_later (hb : Later k (shiftBranch k) branch branch) :
    Later k (Modifier.shift k) (modification branch start) (modification branch (start + k)) := by
  intro c
  simp only [modification, Cursor.skipBlanks_shift, Cursor.startsWith_shift, Cursor.skip_shift]
  split
  · exact modifier_later hb _
  · rfl

theorem closing_later (ref : Reference) (found : Modifier) :
    Later k (Node.shift k) (closing start ref found)
      (closing (start + k) ref (Modifier.shift k found)) := by
  intro c
  simp only [closing, Cursor.skipBlanks_shift, Cursor.startsWith_shift, Cursor.skip_shift,
    placeholderFault_shift]
  split
  · obtain ⟨kind, yes, no⟩ := found
    cases kind <;> cases yes <;> cases no <;> rfl
  · rfl

theorem placeholder_later (hb : Later k (shiftBranch k) branch branch) :
    Later k (Node.shift k) (placeholder branch) (placeholder branch) := by
  intro c
  simp only [placeholder_eq_closing, Cursor.skip_shift, Cursor.shift_pos]
  refine shifted_bind _ (reference_later _) fun ref d => ?_
  exact shifted_bind _ (modification_later hb d) fun found e => closing_later ref found e

/-! ### Sequences and branches -/

theorem shiftAll_flush (text : List Char) (nodes : List Node) :
    Node.shiftAll k (flush text nodes) = flush text (Node.shiftAll k nodes) := by
  unfold flush
  split <;> rfl

variable {ph : Reader Node}

/-- By recursion along the text. Only the distance that a placeholder spans is taken from its
positions, and both ends of it are shifted. -/
theorem sequence_shift (quote : Option Nat) (hph : Later k (Node.shift k) ph ph) (pos : Nat)
    (rest : List Char) (skip : Nat) (text : List Char) :
    sequence ph (quote.map (· + k)) (pos + k) rest skip text =
      shifted k (Node.shiftAll k) (sequence ph quote pos rest skip text) := by
  have hquote : (quote.map (· + k)).isSome = quote.isSome := Option.isSome_map
  induction rest generalizing pos skip text with
  | nil =>
    cases quote with
    | none => simp only [sequence, Option.map_none, shifted, shiftAll_flush]; rfl
    | some q => rfl
  | cons c cs ih =>
    cases skip with
    | succ skip =>
      simp only [sequence]
      rw [Nat.add_right_comm pos k 1]
      exact ih (pos + 1) skip text
    | zero =>
      simp only [sequence, hquote, Nat.add_right_comm pos k 1]
      split
      · exact ih (pos + 1) 1 _
      · split
        · simp only [shifted, shiftAll_flush]; rfl
        · split
          · refine shifted_bind _ (hph ⟨pos, c :: cs⟩) fun node next => ?_
            have hskip : (next.shift k).pos - (pos + k) - 1 = next.pos - pos - 1 := by
              rw [Cursor.shift_pos, Nat.add_sub_add_right]
            simp only [hskip]
            refine shifted_bind _ (ih (pos + 1) _ []) fun nodes stop => ?_
            simp only [shifted, shiftAll_flush]
            rfl
          · exact ih (pos + 1) 0 _

theorem branch_later (limit : Int) (levels : Nat) :
    Later k (shiftBranch k) (Reader.branch limit levels) (Reader.branch limit levels) := by
  induction levels with
  | zero => intro c; rfl
  | succ levels ih =>
    intro c
    simp only [Reader.branch, Cursor.shift_pos, Cursor.shift_rest]
    rw [Nat.add_right_comm c.pos k 1]
    refine shifted_bind _ (sequence_shift (some c.pos) (placeholder_later ih) _ _ _ _)
      fun nodes stop => ?_
    have hlen : (stop.shift k).pos - (c.pos + k) - 1 = stop.pos - c.pos - 1 := by
      rw [Cursor.shift_pos, Nat.add_sub_add_right]
    simp only [hlen, Cursor.skip_shift]
    rfl

end Reader

end StreamLabel
