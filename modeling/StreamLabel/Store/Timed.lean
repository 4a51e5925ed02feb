import StreamLabel.Number.Decimal
import StreamLabel.Store.Moment

/-!
# Stores with expiry

A store holds values under keys. An entry may expire, strictly after the moment it is given. When a
new key would exceed the capacity, expired entries go first and then those used longest ago. Each
use is stamped from a counter, so the stamps tell the order of use. A value whose expiry would be no
moment is not written, and then nothing changes.
-/

namespace StreamLabel

structure TimedEntry (α : Type) where
  key : String
  value : α
  /-- The last moment at which the entry is live, if it expires. -/
  expiry : Option Int
  /-- When the entry was last used, by the counter of uses. -/
  stamp : Nat

structure TimedStore (α : Type) where
  /-- How long an entry lives where nothing else is said; zero means for ever. -/
  lifetime : Int
  /-- How many entries are kept; no limit unless it is positive. -/
  capacity : Int
  entries : List (TimedEntry α) := []
  /-- The next stamp. -/
  uses : Nat := 0
  hits : Nat := 0
  misses : Nat := 0

namespace TimedEntry

variable {α : Type}

def isExpired (now : Int) (e : TimedEntry α) : Bool := e.expiry.any (· < now)

end TimedEntry

/-- The counts of a store. -/
structure StoreStats where
  total : Nat
  expired : Nat
  capacity : Int
  hits : Nat
  misses : Nat
deriving DecidableEq, Repr

namespace StoreStats

def active (s : StoreStats) : Nat := s.total - s.expired

/-- The share of hits among all requests, as the nearest binary fraction to three places. -/
def hitRate (s : StoreStats) : String :=
  match Float64.ofFraction false s.hits (max 1 (s.hits + s.misses)) with
  | .finite x => String.ofList (x.fixedText 3)
  | _ => ""

end StoreStats

namespace TimedStore

variable {α : Type}

/-- An empty store. Its lifetime must be a span of time. -/
def new (lifetime capacity : Int) : Except Overflow (TimedStore α) := do
  return { lifetime := ← Moment.span lifetime, capacity := capacity }

def size (s : TimedStore α) : Nat := s.entries.length

def keys (s : TimedStore α) : List String := s.entries.map (·.key)

def find? (s : TimedStore α) (key : String) : Option (TimedEntry α) :=
  s.entries.find? (·.key == key)

def remove (key : String) (entries : List (TimedEntry α)) : List (TimedEntry α) :=
  entries.filter (·.key != key)

/-- The live value of a key. A hit is stamped as a use; an expired entry is removed. -/
def get (s : TimedStore α) (now : Int) (key : String) : Option α × TimedStore α :=
  match s.find? key with
  | none => (none, { s with misses := s.misses + 1 })
  | some e =>
    if e.isExpired now then
      (none, { s with entries := remove key s.entries, misses := s.misses + 1 })
    else
      let touched := s.entries.map fun d => if d.key == key then { d with stamp := s.uses } else d
      (some e.value, { s with entries := touched, uses := s.uses + 1, hits := s.hits + 1 })

/-- The entries without the one used longest ago. -/
def dropOldest (entries : List (TimedEntry α)) : List (TimedEntry α) :=
  match (entries.map (·.stamp)).min? with
  | none => []
  | some oldest => entries.filter (·.stamp != oldest)

/-- Drops the entries used longest ago until fewer than `capacity` are left. -/
def makeRoom (capacity : Nat) : (fuel : Nat) → List (TimedEntry α) → List (TimedEntry α)
  | 0, entries => entries
  | fuel + 1, entries =>
    if entries.length < capacity then entries else makeRoom capacity fuel (dropOldest entries)

/-- The entries that stay when a new key comes in. -/
def evict (s : TimedStore α) (now : Int) : List (TimedEntry α) :=
  let live := s.entries.filter (!·.isExpired now)
  makeRoom s.capacity.toNat live.length live

/-- The moment after which an entry written now expires. A lifetime that is absent or zero leaves it
to the store's own. -/
def expiryFor (s : TimedStore α) (now : Int) (lifetime : Option Int) :
    Except Overflow (Option Int) :=
  let own := lifetime.getD 0
  let lifetime := if own = 0 then s.lifetime else own
  if lifetime = 0 then .ok none else (Moment.after now lifetime).map some

/-- Puts a value under a key. A key that is there is replaced, and then nothing is evicted. -/
def put (s : TimedStore α) (now : Int) (key : String) (value : α) (expiry : Option Int) :
    TimedStore α :=
  let e : TimedEntry α := ⟨key, value, expiry, s.uses⟩
  let kept := if 0 < s.capacity ∧ (s.find? key).isNone then s.evict now else s.entries
  { s with entries := remove key kept ++ [e], uses := s.uses + 1 }

/-- Writes a value, if there is a moment at which it expires or it lives for ever. -/
def set (s : TimedStore α) (now : Int) (key : String) (value : α) (lifetime : Option Int) :
    Except Overflow (TimedStore α) :=
  (s.expiryFor now lifetime).map (s.put now key value)

def delete (s : TimedStore α) (key : String) : TimedStore α :=
  { s with entries := remove key s.entries }

def clear (s : TimedStore α) : TimedStore α :=
  { s with entries := [], uses := 0, hits := 0, misses := 0 }

/-- A key has a live entry. Looking is not a use. -/
def contains (s : TimedStore α) (now : Int) (key : String) : Bool :=
  (s.find? key).any (!·.isExpired now)

def stats (s : TimedStore α) (now : Int) : StoreStats :=
  ⟨s.size, (s.entries.filter (·.isExpired now)).length, s.capacity, s.hits, s.misses⟩

end TimedStore

end StreamLabel
