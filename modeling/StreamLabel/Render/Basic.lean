import StreamLabel.Condition
import StreamLabel.Context
import StreamLabel.Formatter.Basic
import StreamLabel.Pattern.Store
import StreamLabel.Render.Diagnostic

/-!
# Rendering

A template is rendered node by node against a context. A missing property gives nothing, an unknown
or failing formatter the plain text, a malformed pattern the second branch, and a branch below the
limit nothing; all but the first are reported. Only a pattern that gives no answer and a number that
is not written end the rendering.
-/

namespace StreamLabel

structure Renderer where
  formatters : Registry
  /-- How deep branches are followed. -/
  limit : Int

/-- What a rendering leaves behind. -/
structure Trace where
  patterns : Pattern.Store
  diagnostics : List Diagnostic := []

/-- What ends a rendering. -/
inductive RenderError where
  | pattern (r : Pattern.Refusal)
  | unwritable (u : Unwritable)
deriving DecidableEq, Repr

abbrev RenderM := ExceptT RenderError (StateM Trace)

namespace RenderM

/-- The value of a step that may come upon a number that is not written. -/
def ofWritten {α : Type} : Except Unwritable α → RenderM α
  | .ok a => return a
  | .error u => throw (.unwritable u)

def report (placeholder : Node) (anomaly : Anomaly) : RenderM Unit :=
  modify fun t => { t with diagnostics := t.diagnostics ++ [⟨anomaly, placeholder⟩] }

/-- Asks the store for a pattern. -/
def compile (text : String) : RenderM Pattern.Compiled := do
  let t ← get
  let (outcome, patterns) := t.patterns.compile text
  set { t with patterns := patterns }
  match outcome with
  | .ok compiled => return compiled
  | .error r => throw (.pattern r)

/-- Searches a text. -/
def search (p : Pattern) (text : String) : RenderM Bool :=
  match p.occursIn text with
  | .ok found => return found
  | .error r => throw (.pattern r)

end RenderM

namespace Renderer

open RenderM

/-- The text of a value under the formatter called `name`. -/
def format (r : Renderer) (placeholder : Node) (name : String) (v : Resolved) : RenderM String := do
  match r.formatters.find? name with
  | none =>
    report placeholder (.unknownFormatter name r.formatters.names)
    ofWritten v.written
  | some f =>
    match f.run v with
    | .ok text => return text
    | .error failure =>
      report placeholder (.formatterFailed name failure.message)
      ofWritten v.written

/-- Whether a value fulfils a condition; a malformed pattern is fulfilled by nothing. -/
def decides (placeholder : Node) (v : Resolved) : Condition → RenderM Bool
  | .compare op operand => ofWritten (v.compare op operand)
  | .regex pattern => do
    match ← compile pattern with
    | .usable p => do
      let text ← ofWritten v.written
      search p text
    | .malformed message =>
      report placeholder (.invalidPattern pattern message)
      return false

/-- Leaves branches out that lie too deep. The message holds the limit. -/
def leaveOut (r : Renderer) (placeholder : Node) : RenderM String := do
  let _ ← ofWritten (Number.int r.limit).written
  report placeholder (.tooDeep r.limit)
  return ""

mutual

/-- The text of a node that stands inside `depth` branches. -/
def renderNode (r : Renderer) (c : Context) (depth : Nat) : Node → RenderM String
  | .literal text => return text
  | .value _ ref => do
    let v ← ofWritten (c.classify ref)
    ofWritten v.written
  | .formatted origin ref name => do
    let v ← ofWritten (c.classify ref)
    r.format (.formatted origin ref name) name v
  | .choice origin ref condition yes no => do
    let v ← ofWritten (c.classify ref)
    let holds ← decides (.choice origin ref condition yes no) v condition
    if r.limit ≤ depth then r.leaveOut (.choice origin ref condition yes no)
    else if holds then r.renderNodes c (depth + 1) yes
    else r.renderNodes c (depth + 1) no

def renderNodes (r : Renderer) (c : Context) (depth : Nat) : List Node → RenderM String
  | [] => return ""
  | n :: ns => do return (← r.renderNode c depth n) ++ (← r.renderNodes c depth ns)

end

def render (r : Renderer) (t : Template) (c : Context) : RenderM String := r.renderNodes c 0 t.nodes

end Renderer

end StreamLabel
