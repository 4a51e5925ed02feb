import StreamLabel.Pattern.Basic

/-!
# Stores of patterns

A store remembers how pattern texts were read, malformed ones included, in the order in which they
were last asked for. A text that is refused is not remembered.
-/

namespace StreamLabel.Pattern

/-- What a pattern text was read as. -/
inductive Compiled where
  | usable (p : Pattern)
  | malformed (message : String)

def compile (text : String) : Except Refusal Compiled :=
  match read text with
  | .ok p => .ok (.usable p)
  | .error (.malformed defect pos) => .ok (.malformed (defect.message text pos))
  | .error (.refused r) => .error r

structure Entry where
  text : String
  outcome : Compiled
  isOutcome : compile text = .ok outcome

/-- The entries asked for longest ago stand first. -/
structure Store where
  /-- How many entries are kept; no limit unless it is positive. -/
  capacity : Int
  entries : List Entry

namespace Store

def empty (capacity : Int) : Store := ⟨capacity, []⟩

def size (s : Store) : Nat := s.entries.length

/-- The texts, the one asked for longest ago first. -/
def texts (s : Store) : List String := s.entries.map (·.text)

def clear (s : Store) : Store := { s with entries := [] }

def find? (s : Store) (text : String) : Option Entry := s.entries.find? (·.text == text)

/-- The last entries, as many as the store may keep. -/
def keep (capacity : Int) (entries : List Entry) : List Entry :=
  if 0 < capacity then entries.drop (entries.length - capacity.toNat) else entries

/-- Puts an entry last. -/
def touch (s : Store) (e : Entry) : Store :=
  { s with entries := s.entries.filter (·.text != e.text) ++ [e] }

/-- Adds a new entry and drops those beyond the capacity. -/
def push (s : Store) (e : Entry) : Store :=
  { s with entries := keep s.capacity (s.entries ++ [e]) }

/-- The outcome for a text, from the store if it is there. -/
def compile (s : Store) (text : String) : Except Refusal Compiled × Store :=
  match s.find? text with
  | some e => (.ok e.outcome, s.touch e)
  | none =>
    match h : Pattern.compile text with
    | .ok outcome => (.ok outcome, s.push ⟨text, outcome, h⟩)
    | .error r => (.error r, s)

end Store

end StreamLabel.Pattern
