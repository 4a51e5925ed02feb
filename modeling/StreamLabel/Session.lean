import StreamLabel.Catalog
import StreamLabel.Definition
import StreamLabel.Formatter.BuiltIn
import StreamLabel.Journal.Level
import StreamLabel.Render.Basic
import StreamLabel.Sample
import StreamLabel.Settings
import StreamLabel.Store.Templates

/-!
# Sessions

A session holds the settings in force and what is shared by all that is done in it: the default
renderer and the stores of templates and of patterns. Each of these is made when it is first needed
and keeps the limits that were in force then. Settings change only when they are read anew. The texts
in a session are strings, so that each of them has bytes.
-/

namespace StreamLabel

/-- A message of the library. -/
structure Notice where
  level : Level
  text : String
deriving DecidableEq, Repr

structure Session where
  environment : Environment := []
  settings : Settings := .ofEnvironment []
  now : Int := 0
  formatters : Registry := .builtIn
  /-- The limit of the default renderer, once there is one. -/
  renderLimit : Option Int := none
  patterns : Option Pattern.Store := none
  templates : Option TemplateStore := none
  notices : List Notice := []

/-- The two texts that stand for a stream in a list. -/
structure Label where
  name : String
  description : String
deriving DecidableEq, Repr

/-- Why something cannot be done in a session. -/
inductive SessionError where
  | template (f : Template.Failure)
  /-- The lifetime in the settings is no span of time, or a tree would expire beyond the calendar. -/
  | overflow (o : Overflow)
  | definition (e : Definition.Refused)
  | rendering (e : RenderError)

abbrev SessionM := ExceptT SessionError (StateM Session)

def SessionError.ofStore : TemplateStore.Failure → SessionError
  | .template f => .template f
  | .overflow o => .overflow o

namespace Session

def notify (level : Level) (text : String) : SessionM Unit :=
  modify fun s => { s with notices := s.notices ++ [⟨level, text⟩] }

/-! ### Settings -/

/-- Sets a variable of the environment, or unsets it. -/
def setVariable (name : String) (value : Option String) : SessionM Unit :=
  modify fun s =>
    { s with
      environment := match value with
        | some v => s.environment.set name v
        | none => s.environment.unset name }

def reload : SessionM Unit :=
  modify fun s => { s with settings := .ofEnvironment s.environment }

def advance (seconds : Int) : SessionM Unit :=
  modify fun s => { s with now := s.now + seconds }

/-! ### What is shared -/

def newPatternStore (s : Settings) : Pattern.Store := .empty s.patternCapacity

def newTemplateStore (s : Settings) : Except Overflow TemplateStore :=
  TemplateStore.new s.templateLifetime s.templateCapacity none

def patternStore : SessionM Pattern.Store := do
  let s ← get
  match s.patterns with
  | some p => return p
  | none =>
    let p := newPatternStore s.settings
    set { s with patterns := some p }
    return p

/-- The store of templates that is there, or a new one. -/
def templatesOf (s : Session) : Except Overflow TemplateStore :=
  match s.templates with
  | some t => .ok t
  | none => newTemplateStore s.settings

def templateStore : SessionM TemplateStore := do
  let s ← get
  match templatesOf s with
  | .ok t =>
    set { s with templates := some t }
    return t
  | .error o => throw (.overflow o)

/-- The default renderer; the store of patterns is made along with it. -/
def defaultRenderer : SessionM Renderer := do
  let s ← get
  match s.renderLimit with
  | some limit => return ⟨s.formatters, limit⟩
  | none =>
    let _ ← patternStore
    modify fun s => { s with renderLimit := some s.settings.nestingLimit }
    return ⟨s.formatters, s.settings.nestingLimit⟩

/-- A renderer with a limit of its own, or the default one. -/
def rendererWith (limit : Option Int) : SessionM Renderer := do
  match limit with
  | some limit =>
    let _ ← patternStore
    return ⟨(← get).formatters, limit⟩
  | none => defaultRenderer

/-! ### Templates -/

/-- Parses a text under the given limit, or the one in force. -/
def parse (source : String) (limit : Option Int) : SessionM Template := do
  match Template.read (.ofString source) (limit.getD (← get).settings.nestingLimit) with
  | .ok t => return t
  | .error f => throw (.template f)

/-- Parses a text by way of the store. -/
def parseShared (source : String) : SessionM SharedTemplate := do
  let store ← templateStore
  let s ← get
  let (result, store) := store.getOrParse s.now s.settings.nestingLimit (.ofString source)
  set { s with templates := some store }
  match result with
  | .ok t => return t
  | .error f => throw (.ofStore f)

/-- Renders templates one after the other. What is reported on the way is noted. -/
def render (r : Renderer) (ts : List Template) (c : Context) :
    SessionM (List String × List Diagnostic) := do
  let patterns ← patternStore
  let (result, trace) := (ts.mapM fun t => r.render t c).run.run { patterns := patterns }
  modify fun s => { s with patterns := some trace.patterns }
  for d in trace.diagnostics do
    notify Level.warning ("[RENDER] " ++ d.text)
  match result with
  | .ok texts => return (texts, trace.diagnostics)
  | .error e => throw (.rendering e)

/-! ### Labels -/

/-- The parsed templates of a definition with the renderer for them. -/
structure Labeller where
  name : Template
  description : Template
  renderer : Renderer

/-- The references of either template that the catalog does not list. -/
def unknownReferences (name description : Template) : List Reference :=
  Catalog.distinct (name.unknownReferences ++ description.unknownReferences)

/-- Parses the templates of a definition and notes the unknown references in them. -/
def labeller (d : Definition) : SessionM Labeller := do
  let _ ← templateStore
  let renderer ← defaultRenderer
  let name ← parseShared d.name
  let description ← parseShared d.description
  let unknown := unknownReferences name.template description.template
  if !unknown.isEmpty then
    notify Level.info ("[FORMATTER] Template references unknown properties: " ++
      ", ".intercalate (unknown.map Reference.text))
  return ⟨name.template, description.template, renderer⟩

def Labeller.label (l : Labeller) (c : Context) : SessionM (Label × List Diagnostic) := do
  let (texts, diagnostics) ← render l.renderer [l.name, l.description] c
  return (⟨texts.getD 0 "", texts.getD 1 ""⟩, diagnostics)

def readDefinition (text : String) : SessionM Definition := do
  match Definition.read text with
  | .ok d => return d
  | .error e => throw (.definition e)

/-- The label of a context, or of the sample stream. -/
def preview (d : Definition) (c : Option Context) : SessionM (Label × List Diagnostic) := do
  (← labeller d).label (c.getD sampleContext)

end Session

end StreamLabel
