import StreamLabel.Store.Timed

/-!
# Recency lists

A recency list is a store that needs no stamps: its items stand in the order of their last use, the
one used longest ago first. An item that is written or found goes to the end, and what has to make
room goes from the front. An item whose expiry would be no moment is not written. `StoreCall` is what
can be asked of a store, and a run makes calls one after the other, each at a moment of its own; the
moments may go forth and back.
-/

namespace StreamLabel

/-- Makes calls one after the other, each at its moment, and collects the answers. -/
def runCalls {C A S : Type} (call : S → Int → C → A × S) (s : S) : List (Int × C) → List A × S
  | [] => ([], s)
  | (now, c) :: calls =>
    let (answer, next) := call s now c
    let (answers, last) := runCalls call next calls
    (answer :: answers, last)

variable {α : Type}

structure RecencyItem (α : Type) where
  key : String
  value : α
  /-- The last moment at which the item is live, if it expires. -/
  expiry : Option Int

def RecencyItem.isExpired (now : Int) (i : RecencyItem α) : Bool := i.expiry.any (· < now)

structure RecencyList (α : Type) where
  /-- How long an item lives where nothing else is said; zero means for ever. -/
  lifetime : Int
  /-- How many items are kept; no limit unless it is positive. -/
  capacity : Int
  /-- The item used longest ago stands first. -/
  items : List (RecencyItem α) := []
  hits : Nat := 0
  misses : Nat := 0

namespace RecencyList

def find? (l : RecencyList α) (key : String) : Option (RecencyItem α) :=
  l.items.find? (·.key == key)

def without (l : RecencyList α) (key : String) : List (RecencyItem α) :=
  l.items.filter (·.key != key)

/-- A live item is found and goes to the end; an expired one goes away. -/
def get (l : RecencyList α) (now : Int) (key : String) : Option α × RecencyList α :=
  match l.find? key with
  | none => (none, { l with misses := l.misses + 1 })
  | some i =>
    if i.isExpired now then (none, { l with items := l.without key, misses := l.misses + 1 })
    else (some i.value, { l with items := l.without key ++ [i], hits := l.hits + 1 })

/-- The items that stay when a new key comes in: the expired ones go first, and then those at the
front until less than the capacity is left. -/
def roomFor (l : RecencyList α) (now : Int) : List (RecencyItem α) :=
  let live := l.items.filter (!·.isExpired now)
  live.drop (live.length + 1 - l.capacity.toNat)

/-- The lifetime of an item is its own one, unless that is absent or zero, or else that of the list;
zero means for ever. -/
def lifetimeFor (l : RecencyList α) : Option Int → Int
  | none | some 0 => l.lifetime
  | some own => own

def expiryFor (l : RecencyList α) (now : Int) (own : Option Int) : Except Overflow (Option Int) :=
  if l.lifetimeFor own = 0 then .ok none else (Moment.after now (l.lifetimeFor own)).map some

/-- An item that is put into the list goes to the end. Only a new key in a list with a limit makes
others go. -/
def put (l : RecencyList α) (now : Int) (key : String) (value : α) (expiry : Option Int) :
    RecencyList α :=
  let kept := if 0 < l.capacity ∧ (l.find? key).isNone then l.roomFor now else l.without key
  { l with items := kept ++ [⟨key, value, expiry⟩] }

def set (l : RecencyList α) (now : Int) (key : String) (value : α) (own : Option Int) :
    Except Overflow (RecencyList α) :=
  (l.expiryFor now own).map (l.put now key value)

def delete (l : RecencyList α) (key : String) : RecencyList α := { l with items := l.without key }

def clear (l : RecencyList α) : RecencyList α := { l with items := [], hits := 0, misses := 0 }

def contains (l : RecencyList α) (now : Int) (key : String) : Bool :=
  (l.find? key).any (!·.isExpired now)

def stats (l : RecencyList α) (now : Int) : StoreStats :=
  ⟨l.items.length, (l.items.filter (·.isExpired now)).length, l.capacity, l.hits, l.misses⟩

end RecencyList

/-! ### Calls -/

/-- What can be asked of a store. -/
inductive StoreCall (α : Type) where
  | get (key : String)
  | set (key : String) (value : α) (lifetime : Option Int)
  | delete (key : String)
  | clear
  | contains (key : String)
  | size
  | stats

inductive StoreAnswer (α : Type) where
  | found (value : Option α)
  | done
  /-- The value was not written. -/
  | refused (o : Overflow)
  | held (b : Bool)
  | size (n : Nat)
  | stats (s : StoreStats)

namespace StoreCall

/-- The calls that only look. -/
def IsLook : StoreCall α → Prop
  | contains _ | size | stats => True
  | _ => False

/-- Counts the values asked for since the store was last cleared. -/
def countGet (n : Nat) (c : Int × StoreCall α) : Nat :=
  match c.2 with
  | get _ => n + 1
  | clear => 0
  | _ => n

def getsSinceClear (calls : List (Int × StoreCall α)) : Nat := calls.foldl countGet 0

end StoreCall

/-- The answer to a write and what is left behind: if it is refused, what was there before. -/
def StoreAnswer.ofWrite {S : Type} (old : S) : Except Overflow S → StoreAnswer α × S
  | .ok new => (.done, new)
  | .error o => (.refused o, old)

def TimedStore.call (s : TimedStore α) (now : Int) : StoreCall α → StoreAnswer α × TimedStore α
  | .get key => (.found (s.get now key).1, (s.get now key).2)
  | .set key value lifetime => StoreAnswer.ofWrite s (s.set now key value lifetime)
  | .delete key => (.done, s.delete key)
  | .clear => (.done, s.clear)
  | .contains key => (.held (s.contains now key), s)
  | .size => (.size s.size, s)
  | .stats => (.stats (s.stats now), s)

def RecencyList.call (l : RecencyList α) (now : Int) :
    StoreCall α → StoreAnswer α × RecencyList α
  | .get key => (.found (l.get now key).1, (l.get now key).2)
  | .set key value lifetime => StoreAnswer.ofWrite l (l.set now key value lifetime)
  | .delete key => (.done, l.delete key)
  | .clear => (.done, l.clear)
  | .contains key => (.held (l.contains now key), l)
  | .size => (.size l.items.length, l)
  | .stats => (.stats (l.stats now), l)

/-- A write puts the value under its key, or is refused for want of an expiry and changes nothing. -/
theorem TimedStore.call_set_cases (s : TimedStore α) (now : Int) (key : String) (value : α)
    (lifetime : Option Int) :
    (∃ expiry, s.expiryFor now lifetime = .ok expiry ∧
      s.call now (.set key value lifetime) = (.done, s.put now key value expiry)) ∨
    ∃ o, s.expiryFor now lifetime = .error o ∧
      s.call now (.set key value lifetime) = (.refused o, s) := by
  cases h : s.expiryFor now lifetime with
  | ok expiry => exact .inl ⟨expiry, rfl, by rw [call, set, h]; rfl⟩
  | error o => exact .inr ⟨o, rfl, by rw [call, set, h]; rfl⟩

theorem RecencyList.call_set_cases (l : RecencyList α) (now : Int) (key : String) (value : α)
    (own : Option Int) :
    (∃ expiry, l.expiryFor now own = .ok expiry ∧
      l.call now (.set key value own) = (.done, l.put now key value expiry)) ∨
    ∃ o, l.expiryFor now own = .error o ∧ l.call now (.set key value own) = (.refused o, l) := by
  cases h : l.expiryFor now own with
  | ok expiry => exact .inl ⟨expiry, rfl, by rw [call, set, h]; rfl⟩
  | error o => exact .inr ⟨o, rfl, by rw [call, set, h]; rfl⟩

end StreamLabel
