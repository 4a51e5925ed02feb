import StreamLabel.Proofs.Render.Fallback
import StreamLabel.Proofs.Template.Source
import StreamLabel.Session

/-!
# Runs of a session

What can be done in a session is an act, and a run is a list of acts. Each act begins where the one
before it has left the session, also when that failed. `Change` lists what may happen to a session
while its settings stay as they are; all that an act does is a chain of such changes, unless it reads
the settings anew (`Session.afterOne_cases`). So what every change keeps, every such act keeps. The
store of templates is asked for the texts of the act only.
-/

namespace StreamLabel

variable {α β : Type}

namespace Session

/-- One thing that happens to a session under the settings in force. The texts that the store of
templates is asked for satisfy `asked`. -/
inductive Change (asked : String → Prop) : Session → Session → Prop
  | notices (s : Session) (ns : List Notice) : Change asked s { s with notices := ns }
  | environment (s : Session) (e : Environment) : Change asked s { s with environment := e }
  | now (s : Session) (t : Int) : Change asked s { s with now := t }
  | patterns (s : Session) (p : Pattern.Store) : Change asked s { s with patterns := some p }
  | renderer (s : Session) (h : s.renderLimit = none) :
    Change asked s { s with renderLimit := some s.settings.nestingLimit }
  | templates (s : Session) {store : TemplateStore} (h : s.templates = none)
      (hmade : newTemplateStore s.settings = .ok store) :
    Change asked s { s with templates := some store }
  | parsed (s : Session) {store : TemplateStore} (h : s.templates = some store) {source : String}
      (hsource : asked source) :
    Change asked s { s with
      templates := some (store.getOrParse s.now s.settings.nestingLimit (.ofString source)).2 }

/-- Whatever session `x` begins in, it makes changes only. -/
structure Changes (asked : String → Prop) (x : SessionM α) : Prop where
  chain : ∀ s, Relation.ReflTransGen (Change asked) s (x.run.run s).2

variable {asked : String → Prop}

namespace Changes
variable {x : SessionM α} {f : α → SessionM β} {g : Session → Session}

theorem pure (a : α) : Changes asked (Pure.pure a) := ⟨fun _ => .refl⟩

theorem throw (e : SessionError) : Changes asked (MonadExcept.throw e : SessionM α) :=
  ⟨fun _ => .refl⟩

theorem modify (h : ∀ s, Change asked s (g s)) :
    Changes asked (MonadStateOf.modifyGet fun s => ((), g s) : SessionM Unit) :=
  ⟨fun s => .single (h s)⟩

theorem bind (hx : Changes asked x) (hf : ∀ a, Changes asked (f a)) :
    Changes asked (x >>= f) := by
  refine ⟨fun s => ?_⟩
  have hs := hx.chain s
  rw [run_bind]
  rcases hrun : x.run.run s with ⟨e | a, next⟩
  · rw [hrun] at hs
    exact hs
  · rw [hrun] at hs
    exact hs.trans ((hf a).chain next)

theorem forIn {γ : Type} (ys : List γ) {h : γ → PUnit → SessionM (ForInStep PUnit)}
    (hh : ∀ y, Changes asked (h y ⟨⟩)) : Changes asked (ForIn.forIn ys PUnit.unit h) := by
  induction ys with
  | nil => exact .pure _
  | cons y ys ih =>
    rw [List.forIn_cons]
    refine (hh y).bind fun step => ?_
    cases step with
    | done u => exact .pure _
    | yield u => exact ih

end Changes

/-! ### Steps -/

variable {s : Session}

theorem changes_notify (level : Level) (text : String) : Changes asked (notify level text) :=
  .modify fun s => .notices s _

/-- The store of patterns, and the session that has it. -/
theorem run_patternStore (s : Session) :
    patternStore.run.run s =
      (.ok (s.patterns.getD (newPatternStore s.settings)),
        { s with patterns := some (s.patterns.getD (newPatternStore s.settings)) }) := by
  obtain ⟨_, _, _, _, _, patterns, _, _⟩ := s
  cases patterns <;> rfl

theorem changes_patternStore : Changes asked patternStore := by
  refine ⟨fun s => ?_⟩
  rw [run_patternStore]
  exact .single (.patterns s _)

theorem templatesOf_of_none (h : s.templates = none) :
    s.templatesOf = newTemplateStore s.settings := by
  rw [templatesOf, h]

theorem templatesOf_of_some {store : TemplateStore} (h : s.templates = some store) :
    s.templatesOf = .ok store := by
  rw [templatesOf, h]

/-- The store of templates, and the session that has it. -/
theorem run_templateStore (s : Session) :
    templateStore.run.run s =
      match s.templatesOf with
      | .ok store => (.ok store, { s with templates := some store })
      | .error o => (.error (.overflow o), s) := by
  have hget : (get : SessionM Session).run.run s = (.ok s, s) := rfl
  rw [templateStore, run_bind, hget]
  dsimp only
  cases s.templatesOf <;> rfl

/-- To have the store of templates ready, it is made if there is none. -/
theorem change_of_templatesOf {store : TemplateStore} (h : s.templatesOf = .ok store) :
    Relation.ReflTransGen (Change asked) s { s with templates := some store } := by
  cases hold : s.templates with
  | none =>
    rw [templatesOf_of_none hold] at h
    exact .single (.templates s hold h)
  | some old =>
    rw [templatesOf_of_some hold] at h
    rw [← Except.ok.inj h, ← hold]

theorem changes_templateStore : Changes asked templateStore := by
  refine ⟨fun s => ?_⟩
  rw [run_templateStore]
  cases h : s.templatesOf with
  | ok store => exact change_of_templatesOf h
  | error o => exact .refl

theorem run_defaultRenderer_of_none (h : s.renderLimit = none) :
    defaultRenderer.run.run s =
      (.ok ⟨s.formatters, s.settings.nestingLimit⟩,
        { s with
          patterns := some (s.patterns.getD (newPatternStore s.settings))
          renderLimit := some s.settings.nestingLimit }) := by
  obtain ⟨_, _, _, _, renderLimit, patterns, _, _⟩ := s
  obtain rfl : renderLimit = none := h
  cases patterns <;> rfl

theorem run_defaultRenderer_of_some {limit : Int} (h : s.renderLimit = some limit) :
    defaultRenderer.run.run s = (.ok ⟨s.formatters, limit⟩, s) := by
  obtain ⟨_, _, _, _, renderLimit, _, _, _⟩ := s
  obtain rfl : renderLimit = some limit := h
  rfl

theorem changes_defaultRenderer : Changes asked defaultRenderer := by
  refine ⟨fun s => ?_⟩
  cases h : s.renderLimit with
  | none =>
    rw [run_defaultRenderer_of_none h]
    exact .head (.patterns s _) (.single (.renderer _ h))
  | some limit => rw [run_defaultRenderer_of_some h]

theorem run_parse (source : String) (limit : Option Int) (s : Session) :
    (parse source limit).run.run s =
      ((Template.read (.ofString source) (limit.getD s.settings.nestingLimit)).mapError .template,
        s) := by
  have hget : (get : SessionM Session).run.run s = (.ok s, s) := rfl
  rw [parse, run_bind, hget]
  dsimp only
  cases Template.read (.ofString source) (limit.getD s.settings.nestingLimit) <;> rfl

theorem changes_parse (source : String) (limit : Option Int) :
    Changes asked (parse source limit) := by
  refine ⟨fun s => ?_⟩
  rw [run_parse]

/-- The answer of the store of templates, and the session with the store after it. -/
theorem run_parseShared (source : String) (s : Session) :
    (parseShared source).run.run s =
      match s.templatesOf with
      | .ok store =>
        let answer := store.getOrParse s.now s.settings.nestingLimit (.ofString source)
        (answer.1.mapError .ofStore, { s with templates := some answer.2 })
      | .error o => (.error (.overflow o), s) := by
  have hget : ∀ s, (get : SessionM Session).run.run s = (.ok s, s) := fun _ => rfl
  have hset : ∀ s s', (set s' : SessionM PUnit).run.run s = (.ok ⟨⟩, s') := fun _ _ => rfl
  rw [parseShared, run_bind, run_templateStore]
  cases s.templatesOf with
  | error o => rfl
  | ok store =>
    dsimp only
    rw [run_bind, hget]
    dsimp only
    rw [run_bind, hset]
    dsimp only
    cases (store.getOrParse s.now s.settings.nestingLimit (.ofString source)).1 <;> rfl

theorem changes_parseShared {source : String} (hsource : asked source) :
    Changes asked (parseShared source) := by
  refine ⟨fun s => ?_⟩
  rw [run_parseShared]
  cases h : s.templatesOf with
  | error o => exact .refl
  | ok store =>
    exact (change_of_templatesOf h).tail (.parsed { s with templates := some store } rfl hsource)

theorem changes_render (r : Renderer) (ts : List Template) (c : Context) :
    Changes asked (render r ts c) := by
  refine changes_patternStore.bind fun patterns => ?_
  obtain ⟨result, trace⟩ := (ts.mapM fun t => r.render t c).run.run { patterns := patterns }
  refine Changes.bind (.modify fun s => .patterns s trace.patterns) fun _ => ?_
  refine (Changes.forIn _ fun d => (changes_notify ..).bind fun _ => .pure _).bind fun _ => ?_
  cases result with
  | ok texts => exact .pure _
  | error e => exact .throw _

theorem changes_labeller {d : Definition} (hname : asked d.name)
    (hdescription : asked d.description) : Changes asked (labeller d) := by
  refine changes_templateStore.bind fun _ => changes_defaultRenderer.bind fun renderer => ?_
  refine (changes_parseShared hname).bind fun name => ?_
  refine (changes_parseShared hdescription).bind fun description => ?_
  dsimp only
  split
  · exact (changes_notify ..).bind fun _ => .pure _
  · exact .pure _

theorem changes_label (l : Labeller) (c : Context) : Changes asked (l.label c) :=
  (changes_render ..).bind fun _ => .pure _

theorem changes_preview {d : Definition} (hname : asked d.name) (hdescription : asked d.description)
    (c : Option Context) : Changes asked (preview d c) :=
  (changes_labeller hname hdescription).bind fun l => changes_label l _

theorem changes_rendererWith (limit : Option Int) : Changes asked (rendererWith limit) := by
  cases limit with
  | some limit => exact changes_patternStore.bind fun _ => ⟨fun s => .refl⟩
  | none => exact changes_defaultRenderer

/-- Changes leave the settings as they are. -/
theorem settings_eq {s' : Session} (h : Relation.ReflTransGen (Change asked) s s') :
    s'.settings = s.settings := by
  induction h with
  | refl => rfl
  | tail _ hchange ih => rw [← ih]; cases hchange <;> rfl

end Session

/-! ### Acts -/

/-- What can be done in a session. -/
inductive SessionAct where
  | setVariable (name : String) (value : Option String)
  | reload
  | advance (seconds : Int)
  | parse (source : String) (limit : Option Int)
  | parseShared (source : String)
  | defaultRenderer
  | rendererWith (limit : Option Int)
  | render (r : Renderer) (ts : List Template) (c : Context)
  /-- By the default renderer. -/
  | renderDefault (ts : List Template) (c : Context)
  | labeller (d : Definition)
  | label (l : Session.Labeller) (c : Context)
  | preview (d : Definition) (c : Option Context)

/-- The step that an act takes. What it returns is left aside. -/
def SessionAct.step : SessionAct → SessionM Unit
  | .setVariable name value => Session.setVariable name value
  | .reload => Session.reload
  | .advance seconds => Session.advance seconds
  | .parse source limit => do let _ ← Session.parse source limit
  | .parseShared source => do let _ ← Session.parseShared source
  | .defaultRenderer => do let _ ← Session.defaultRenderer
  | .rendererWith limit => do let _ ← Session.rendererWith limit
  | .render r ts c => do let _ ← Session.render r ts c
  | .renderDefault ts c => do let _ ← Session.render (← Session.defaultRenderer) ts c
  | .labeller d => do let _ ← Session.labeller d
  | .label l c => do let _ ← l.label c
  | .preview d c => do let _ ← Session.preview d c

/-- The texts that the act asks the store of templates for. -/
def SessionAct.sources : SessionAct → List String
  | .parseShared source => [source]
  | .labeller d | .preview d _ => [d.name, d.description]
  | _ => []

namespace Session

/-- A session at its start, with nothing shared yet. -/
def start (e : Environment) (formatters : Registry) : Session :=
  { environment := e, settings := .ofEnvironment e, formatters := formatters }

/-- What an act makes of a session. -/
def afterOne (s : Session) (a : SessionAct) : Session := (a.step.run.run s).2

/-- What acts make of a session. -/
def after (s : Session) (acts : List SessionAct) : Session := acts.foldl afterOne s

theorem after_concat (s : Session) (acts : List SessionAct) (a : SessionAct) :
    s.after (acts ++ [a]) = (s.after acts).afterOne a := by
  rw [after, List.foldl_append]
  rfl

theorem after_append (s : Session) (acts more : List SessionAct) :
    s.after (acts ++ more) = (s.after acts).after more := by
  rw [after, after, after, List.foldl_append]

/-- To leave aside what a step returns changes nothing of the session. -/
theorem run_ignore (x : SessionM α) (s : Session) :
    ((x >>= fun _ => pure ()).run.run s).2 = (x.run.run s).2 := by
  rw [run_bind]
  obtain ⟨result, next⟩ := x.run.run s
  cases result <;> rfl

theorem afterOne_parse (s : Session) (source : String) (limit : Option Int) :
    s.afterOne (.parse source limit) = s := by
  rw [afterOne, SessionAct.step, run_ignore, run_parse]

theorem afterOne_parseShared {s : Session} {store : TemplateStore} (h : s.templatesOf = .ok store)
    (source : String) :
    s.afterOne (.parseShared source) =
      { s with
        templates := some
          (store.getOrParse s.now s.settings.nestingLimit (.ofString source)).2 } := by
  rw [afterOne, SessionAct.step, run_ignore, run_parseShared, h]

/-- An act either reads the settings anew or makes changes under those in force. -/
theorem afterOne_cases {asked : String → Prop} (s : Session) {a : SessionAct}
    (ha : ∀ source ∈ a.sources, asked source) :
    s.afterOne a = { s with settings := .ofEnvironment s.environment } ∨
      Relation.ReflTransGen (Change asked) s (s.afterOne a) := by
  cases a with
  | reload => exact .inl rfl
  | setVariable name value => exact .inr (.single (.environment s _))
  | advance seconds => exact .inr (.single (.now s _))
  | parse source limit => exact .inr (((changes_parse ..).bind fun _ => .pure _).chain s)
  | parseShared source =>
    have hsource : asked source := by simpa [SessionAct.sources] using ha
    exact .inr (((changes_parseShared hsource).bind fun _ => .pure _).chain s)
  | defaultRenderer => exact .inr ((changes_defaultRenderer.bind fun _ => .pure _).chain s)
  | rendererWith limit => exact .inr (((changes_rendererWith _).bind fun _ => .pure _).chain s)
  | render r ts c => exact .inr (((changes_render ..).bind fun _ => .pure _).chain s)
  | renderDefault ts c =>
    exact .inr ((changes_defaultRenderer.bind fun _ => (changes_render ..).bind fun _ =>
      .pure _).chain s)
  | labeller d =>
    obtain ⟨hname, hdescription⟩ : asked d.name ∧ asked d.description := by
      simpa [SessionAct.sources] using ha
    exact .inr (((changes_labeller hname hdescription).bind fun _ => .pure _).chain s)
  | label l c => exact .inr (((changes_label l c).bind fun _ => .pure _).chain s)
  | preview d c =>
    obtain ⟨hname, hdescription⟩ : asked d.name ∧ asked d.description := by
      simpa [SessionAct.sources] using ha
    exact .inr (((changes_preview hname hdescription c).bind fun _ => .pure _).chain s)

end Session

end StreamLabel
