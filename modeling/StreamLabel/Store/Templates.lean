import StreamLabel.Digest.Sha256
import StreamLabel.Store.Timed
import StreamLabel.Template.Source

/-!
# Stores of templates

A text is parsed once and the tree handed out from then on. Trees carry serial numbers, so that one
handed out again can be told from one parsed anew. Failures are not stored. A text stands under a key
that is made of its bytes, so one without bytes has no key. A tree that cannot be stored, since its
expiry would be no moment, is not handed out.
-/

namespace StreamLabel

structure SharedTemplate where
  serial : Nat
  template : Template

structure TemplateStore where
  trees : TimedStore SharedTemplate
  /-- How deep branches may nest; left open, the limit in force at each parse counts. -/
  limit : Option Int
  /-- The next serial number. -/
  parsed : Nat := 0

namespace TemplateStore

/-- Why a store hands out no tree. -/
inductive Failure where
  | template (f : Template.Failure)
  | overflow (o : Overflow)
deriving DecidableEq, Repr

def new (lifetime capacity : Int) (limit : Option Int) : Except Overflow TemplateStore := do
  return { trees := ← TimedStore.new lifetime capacity, limit := limit }

/-- The key of a text that has bytes. -/
def keyFor (source : String) : String := joinKey ["template", contentKey source]

/-- Parses a text and stores the tree. `limit` is the limit in force. -/
def parseAndStore (s : TemplateStore) (now limit : Int) (source : String) :
    Except Failure (SharedTemplate × TemplateStore) := do
  let t ← (Template.read (.ofString source) (s.limit.getD limit)).mapError .template
  let shared : SharedTemplate := ⟨s.parsed, t⟩
  let trees ← (s.trees.set now (keyFor source) shared none).mapError .overflow
  return (shared, { s with trees := trees, parsed := s.parsed + 1 })

/-- The stored tree of a text, parsed if there is none. -/
def getOrParse (s : TemplateStore) (now limit : Int) (source : CodePoints) :
    Except Failure SharedTemplate × TemplateStore :=
  match source.encode with
  | .error u => (.error (.template (.unencodable u)), s)
  | .ok source =>
    match s.trees.get now (keyFor source) with
    | (some t, trees) => (.ok t, { s with trees := trees })
    | (none, trees) =>
      let s := { s with trees := trees }
      match s.parseAndStore now limit source with
      | .ok (t, next) => (.ok t, next)
      | .error f => (.error f, s)

def contains (s : TemplateStore) (now : Int) (source : CodePoints) : Except Unencodable Bool :=
  source.encode.map fun source => s.trees.contains now (keyFor source)

def invalidate (s : TemplateStore) (source : CodePoints) : Except Unencodable TemplateStore :=
  source.encode.map fun source => { s with trees := s.trees.delete (keyFor source) }

def clear (s : TemplateStore) : TemplateStore := { s with trees := s.trees.clear }

def size (s : TemplateStore) : Nat := s.trees.size

def stats (s : TemplateStore) (now : Int) : StoreStats := s.trees.stats now

end TemplateStore

end StreamLabel
