import StreamLabel.Proofs.Render.Outcome
import StreamLabel.Proofs.Session.Run
import StreamLabel.Proofs.Store.Transparent
import StreamLabel.Proofs.Template.Roundtrip

/-!
# The nesting limit through a session

Three parts of a session read the nesting limit, at three times: a parse reads the limit in force,
the store of templates keeps trees that were parsed under an earlier one, and the default renderer
keeps the limit of the moment in which it was made. So a tree of the session may be too deep for the
default renderer (`exists_default_render_too_deep`). It is shown whole where the limit that it was
parsed under is not above the one that the renderer was made under (`default_renderer_whole`).
-/

namespace StreamLabel

namespace Session

/-- `limit` is the nesting limit in force at some moment of the run `acts` from `s`. -/
def InForce (s : Session) (acts : List SessionAct) (limit : Nat) : Prop :=
  ∃ early, early <+: acts ∧ (s.after early).settings.nestingLimit = limit

/-- The default renderer is made when `limit` is in force: there is none up to that moment of the run
`acts` from `s`, and one with this limit at every later one. -/
def MadeUnder (s : Session) (acts : List SessionAct) (limit : Nat) : Prop :=
  ∃ early, early <+: acts ∧ (s.after early).renderLimit = none ∧
    (s.after early).settings.nestingLimit = limit ∧
    ∀ more, early <+: more → more <+: acts → more ≠ early →
      (s.after more).renderLimit = some (limit : Int)

/-! ### Trees -/

/-- The limit in force satisfies `H`, and the stored trees were parsed under limits that do, from
texts that satisfy `asked`. They stand under the keys of these. -/
structure ParsedUnder (H : Nat → Prop) (asked : String → Prop) (s : Session) : Prop where
  inForce : H s.settings.nestingLimit
  open_limit : ∀ store, s.templates = some store → store.limit = none
  trees : ∀ store, s.templates = some store → store.trees.Holds fun key tree =>
    ∃ source, asked source ∧ TemplateStore.keyFor source = key ∧
      ∃ limit : Nat, H limit ∧ Template.parse source limit = .ok tree.template

namespace ParsedUnder
variable {H : Nat → Prop} {asked : String → Prop} {s s' : Session}

theorem change (h : s.ParsedUnder H asked) (hs : Change asked s s') : s'.ParsedUnder H asked := by
  cases hs with
  | notices | environment | now | patterns | renderer => exact ⟨h.inForce, h.open_limit, h.trees⟩
  | templates hnone hmade =>
    obtain rfl := TemplateStore.new_eq hmade
    refine ⟨h.inForce, ?_, ?_⟩
    · rintro store ⟨⟩
      rfl
    · rintro store ⟨⟩ e he
      cases he
  | @parsed old hold source hsource =>
    have hlimit := h.open_limit old hold
    obtain ⟨hholds, hsame⟩ := TemplateStore.getOrParse_holds (h.trees old hold) s.now
      s.settings.nestingLimit (.ofString source) fun text t htext ht => by
        obtain rfl := Except.ok.inj ((CodePoints.encode_ofString source).symm.trans htext)
        rw [hlimit, Option.getD_none, Template.read_ofString_eq_ok_iff] at ht
        exact ⟨source, hsource, rfl, _, h.inForce, ht⟩
    refine ⟨h.inForce, ?_, ?_⟩
    · rintro store ⟨⟩
      rw [hsame, hlimit]
    · rintro store ⟨⟩
      exact hholds

theorem changes (h : s.ParsedUnder H asked) (hs : Relation.ReflTransGen (Change asked) s s') :
    s'.ParsedUnder H asked := by
  induction hs with
  | refl => exact h
  | tail _ hchange ih => exact ih.change hchange

/-- Every stored tree was parsed from a text that the run asked for, under a limit that was in force
at some moment of it. -/
theorem after (e : Environment) (formatters : Registry) (acts : List SessionAct)
    (hH : ∀ early, early <+: acts → H ((start e formatters).after early).settings.nestingLimit)
    (hasked : ∀ a ∈ acts, ∀ source ∈ a.sources, asked source) :
    ((start e formatters).after acts).ParsedUnder H asked := by
  induction acts using List.reverseRecOn with
  | nil => exact ⟨hH [] (List.prefix_refl _), by rintro store ⟨⟩, by rintro store ⟨⟩⟩
  | append_singleton acts a ih =>
    rw [List.forall_mem_append, List.forall_mem_singleton] at hasked
    have hbefore := ih (fun early hearly => hH early (hearly.trans (List.prefix_append ..))) hasked.1
    have hnow := hH (acts ++ [a]) (List.prefix_refl _)
    rw [after_concat] at hnow ⊢
    rcases afterOne_cases ((start e formatters).after acts) hasked.2 with hreload | hchanges
    · rw [hreload] at hnow ⊢
      exact ⟨hnow, hbefore.open_limit, hbefore.trees⟩
    · exact hbefore.changes hchanges

/-- The store of templates that a text is looked up in, made now if there is none. -/
theorem withStore (h : s.ParsedUnder H asked) {store : TemplateStore}
    (hstore : s.templatesOf = .ok store) :
    ParsedUnder H asked { s with templates := some store } :=
  h.changes (change_of_templatesOf hstore)

/-- What the store of templates answers was parsed under a limit that satisfies `H`, from a text with
the same key. -/
theorem returned (h : s.ParsedUnder H asked) {source : String} (hsource : asked source)
    {tree : SharedTemplate} (htree : ((parseShared source).run.run s).1 = .ok tree) :
    ∃ x, asked x ∧ TemplateStore.keyFor x = TemplateStore.keyFor source ∧
      ∃ limit : Nat, H limit ∧ Template.parse x limit = .ok tree.template := by
  rw [run_parseShared] at htree
  cases hstore : s.templatesOf with
  | error o => rw [hstore] at htree; cases htree
  | ok store =>
    rw [hstore] at htree
    have hanswer := TemplateStore.answers_getOrParse (CodePoints.encode_ofString source) store s.now
      s.settings.nestingLimit
    dsimp only at htree
    generalize store.getOrParse s.now s.settings.nestingLimit (.ofString source) = out at hanswer htree
    cases hanswer with
    | live hit =>
      obtain rfl := Except.ok.inj htree
      obtain ⟨e, he, hkey, rfl⟩ := TimedStore.exists_of_get hit
      rw [← hkey]
      exact (h.withStore hstore).trees _ rfl e he
    | failed | overflowed => cases htree
    | parsed _ read _ =>
      obtain rfl := Except.ok.inj htree
      rw [(h.withStore hstore).open_limit _ rfl, Option.getD_none, Template.read_ofString_eq_ok_iff]
        at read
      exact ⟨source, hsource, rfl, _, h.inForce, read⟩

end ParsedUnder

/-! ### The default renderer -/

variable {s : Session} {acts : List SessionAct}

/-- The default renderer is made once, under the limit in force, and keeps its limit. -/
theorem renderLimit_of_changes {asked : String → Prop} {s' : Session}
    (h : Relation.ReflTransGen (Change asked) s s') :
    s'.renderLimit = s.renderLimit ∨
      s.renderLimit = none ∧ s'.renderLimit = some (s.settings.nestingLimit : Int) := by
  induction h with
  | refl => exact .inl rfl
  | @tail u v hchain hchange ih =>
    have hsettings := settings_eq hchain
    cases hchange with
    | notices | environment | now | patterns | templates | parsed => exact ih
    | renderer hnone =>
      rcases ih with hsame | ⟨-, hmade⟩
      · exact .inr ⟨hsame.symm.trans hnone, by rw [hsettings]⟩
      · rw [hnone] at hmade
        cases hmade

theorem renderLimit_afterOne (s : Session) (a : SessionAct) :
    (s.afterOne a).renderLimit = s.renderLimit ∨
      s.renderLimit = none ∧ (s.afterOne a).renderLimit = some (s.settings.nestingLimit : Int) := by
  rcases afterOne_cases s fun _ hsource => hsource with hreload | hchanges
  · rw [hreload]
    exact .inl rfl
  · exact renderLimit_of_changes hchanges

theorem madeUnder_of_none (h : (s.after acts).renderLimit = none) :
    s.MadeUnder acts (s.after acts).settings.nestingLimit := by
  refine ⟨acts, List.prefix_refl _, h, rfl, fun more hfrom hto hne => ?_⟩
  exact absurd (hto.eq_of_length_le hfrom.length_le) hne

theorem madeUnder_of_some (hs : s.renderLimit = none) {limit : Int}
    (h : (s.after acts).renderLimit = some limit) : ∃ n : Nat, limit = n ∧ s.MadeUnder acts n := by
  induction acts using List.reverseRecOn with
  | nil => cases hs.symm.trans h
  | append_singleton acts a ih =>
    rw [after_concat] at h
    rcases renderLimit_afterOne (s.after acts) a with hsame | ⟨hnone, hmade⟩
    · -- the renderer is there before the last act
      obtain ⟨n, rfl, early, hearly, hnone, hlimit, hmade⟩ := ih (hsame.symm.trans h)
      refine ⟨n, rfl, early, hearly.trans (List.prefix_append ..), hnone, hlimit, ?_⟩
      intro more hfrom hto hne
      rcases List.prefix_concat_iff.1 hto with rfl | hto
      · rw [after_concat]
        exact h
      · exact hmade more hfrom hto hne
    · -- the last act makes the renderer
      refine ⟨_, Option.some.inj (h.symm.trans hmade), acts, List.prefix_append .., hnone, rfl, ?_⟩
      intro more hfrom hto hne
      rcases List.prefix_concat_iff.1 hto with rfl | hto
      · rw [after_concat]
        exact hmade
      · exact absurd (hto.eq_of_length_le hfrom.length_le) hne

/-- Asked for when the run is over, the default renderer has the limit that it is made under. -/
theorem exists_madeUnder (hs : s.renderLimit = none) (acts : List SessionAct) :
    ∃ limit : Nat, s.MadeUnder acts limit ∧
      (defaultRenderer.run.run (s.after acts)).1 = .ok ⟨(s.after acts).formatters, limit⟩ := by
  cases h : (s.after acts).renderLimit with
  | none =>
    refine ⟨_, madeUnder_of_none h, ?_⟩
    rw [run_defaultRenderer_of_none h]
  | some limit =>
    obtain ⟨n, rfl, hmade⟩ := madeUnder_of_some hs h
    refine ⟨n, hmade, ?_⟩
    rw [run_defaultRenderer_of_some h]

end Session

open Session

/-- The act parses under no limit of its own, by way of the store of templates or not, and `t` is
what it returns in `s`. -/
def SessionAct.Returns (s : Session) (t : Template) : SessionAct → Prop
  | .parse source none => ((Session.parse source none).run.run s).1 = .ok t
  | .parseShared source => ∃ serial, ((Session.parseShared source).run.run s).1 = .ok ⟨serial, t⟩
  | _ => False

/-- What is returned was parsed under a limit that has been in force: the store of templates may have
parsed it long ago, a parse of its own happens now. -/
theorem SessionAct.Returns.exists_inForce {e : Environment} {formatters : Registry}
    {before : List SessionAct} {a : SessionAct} {t : Template}
    (h : a.Returns ((start e formatters).after before) t) :
    ∃ n : Nat, (start e formatters).InForce before n ∧
      (∀ source, a = .parse source none →
        n = ((start e formatters).after before).settings.nestingLimit) ∧
      ∃ source, Template.parse source n = .ok t := by
  cases a with
  | parse source limit =>
    cases limit with
    | some limit => cases h
    | none =>
      refine ⟨_, ⟨before, List.prefix_refl _, rfl⟩, fun _ _ => rfl, source, ?_⟩
      rw [SessionAct.Returns, run_parse, Option.getD_none] at h
      rw [← Template.read_ofString_eq_ok_iff]
      cases hread : Template.read (.ofString source)
          ((start e formatters).after before).settings.nestingLimit with
      | error f => rw [hread] at h; cases h
      | ok u => rw [hread] at h; cases h; rfl
  | parseShared source =>
    obtain ⟨serial, h⟩ := h
    have hs : ((start e formatters).after before).ParsedUnder
        ((start e formatters).InForce before) fun _ => True :=
      .after e formatters before (fun early hearly => ⟨early, hearly, rfl⟩) fun _ _ _ _ => trivial
    obtain ⟨x, -, -, n, hn, hx⟩ := hs.returned trivial h
    exact ⟨n, hn, by rintro _ ⟨⟩, x, hx⟩
  | _ => cases h

/-- A template that is parsed in a session, by way of the store or not, is no deeper than a limit
that has been in force in it: for a parse of its own, the one now in force. The default renderer has
the limit that it was made under, and shows every template that is no deeper whole. -/
theorem default_renderer_whole (e : Environment) (formatters : Registry)
    (before later : List SessionAct) (a : SessionAct) (t : Template)
    (h : a.Returns ((start e formatters).after before) t) :
    let s := start e formatters
    ∃ n m : Nat, s.InForce before n ∧ s.MadeUnder (before ++ a :: later) m ∧
      (∀ source, a = .parse source none → n = (s.after before).settings.nestingLimit) ∧
      (∃ source, Template.parse source n = .ok t) ∧ t.depth ≤ n ∧
      ∃ r, (defaultRenderer.run.run (s.after (before ++ a :: later))).1 = .ok r ∧ r.limit = m ∧
        (t.depth ≤ m → ∀ c, r.Whole t c) := by
  intro s
  obtain ⟨n, hn, hnow, source, hparse⟩ := h.exists_inForce
  obtain ⟨m, hmade, hrenderer⟩ := exists_madeUnder (s := s) rfl (before ++ a :: later)
  exact ⟨n, m, hn, hmade, hnow, ⟨source, hparse⟩, depth_le_of_parse hparse, _, hrenderer, rfl,
    fun hm c => Renderer.whole_of_depth_le (by simpa using hm) c⟩

/-- One level of branches, parsed under that limit, is shown whole where the default renderer was made
under a larger one, also when no level is allowed any more. -/
theorem default_renderer_whole_lowered :
    let source := "\x7bstream.title::=x[\"a\"||\"b\"]\x7d"
    let t : Template := ⟨[.choice ⟨0, "a", "b"⟩ ⟨.stream, "title"⟩ (.compare .eq "x")
      [.literal "a"] [.literal "b"]], source⟩
    let limitTo (v : String) : List SessionAct :=
      [.setVariable "STREAMFMT_MAX_NESTING_DEPTH" (some v), .reload]
    (SessionAct.parse source none).Returns
        ((start [] .builtIn).after (.defaultRenderer :: limitTo "1")) t ∧
      ∀ c, Renderer.Whole ⟨.builtIn, 32⟩ t c := by
  intro source t limitTo
  let s := (start [] .builtIn).after (.defaultRenderer :: limitTo "1")
  have hlimit : s.settings.nestingLimit = 1 := by decide
  have hread : Template.read (.ofString source) (1 : Nat) = .ok t :=
    Template.read_ofString_eq_ok_iff.2 (by cbv)
  have hreturns : (SessionAct.parse source none).Returns s t := by
    rw [SessionAct.Returns, run_parse, Option.getD_none, hlimit, hread]
    rfl
  obtain ⟨n, m, -, -, -, -, -, r, hr, hm, hwhole⟩ :=
    default_renderer_whole [] .builtIn (.defaultRenderer :: limitTo "1") (limitTo "0") _ t hreturns
  have hafter : (start [] .builtIn).after
      (.defaultRenderer :: limitTo "1" ++ .parse source none :: limitTo "0") =
        s.after (limitTo "0") := by
    rw [after_append, after, List.foldl_cons, afterOne_parse]
    rfl
  have hrun : (defaultRenderer.run.run (s.after (limitTo "0"))).1 = .ok ⟨.builtIn, 32⟩ := rfl
  rw [hafter, hrun] at hr
  obtain rfl := Except.ok.inj hr
  obtain rfl : m = 32 := (Int.ofNat.inj hm).symm
  have hdepth : t.depth ≤ 32 := by decide
  exact ⟨hreturns, hwhole hdepth⟩

/-- Rendered at once by the default renderer, what the act returns never meets the limit. -/
def NeverTooDeep (act : String → SessionAct) : Prop :=
  ∀ (e : Environment) (formatters : Registry) (before : List SessionAct) (source : String)
    (t : Template) (r : Renderer) (c : Context) (o : Outcome String),
    let s := (start e formatters).after before
    (act source).Returns s t → (defaultRenderer.run.run (s.afterOne (act source))).1 = .ok r →
      Yields (r.render t c) o → ∀ d ∈ o.diagnostics, d.code ≠ "nesting_too_deep"

/-- A default renderer that was made under a smaller limit keeps that, and the store of templates
keeps trees that were parsed under a larger one. -/
theorem exists_default_render_too_deep :
    ¬ NeverTooDeep (.parse · none) ∧ ¬ NeverTooDeep .parseShared := by
  let source := "\x7bstream.title::=x[\"a\"||\"b\"]\x7d"
  let node : Node :=
    .choice ⟨0, "a", "b"⟩ ⟨.stream, "title"⟩ (.compare .eq "x") [.literal "a"] [.literal "b"]
  let limitTo (v : Option String) : List SessionAct :=
    [.setVariable "STREAMFMT_MAX_NESTING_DEPTH" v, .reload]
  have hread : Template.read (.ofString source) (32 : Nat) = .ok ⟨[node], source⟩ :=
    Template.read_ofString_eq_ok_iff.2 (by cbv)
  have hrender : Yields (Renderer.render ⟨.builtIn, 0⟩ ⟨[node], source⟩ {})
      ⟨.ok "", [⟨.tooDeep 0, node⟩]⟩ := ⟨fun trace => ⟨trace.patterns, rfl⟩⟩
  constructor
  · intro h
    let s := (start [] .builtIn).after (limitTo (some "0") ++ .defaultRenderer :: limitTo none)
    have hlimit : s.settings.nestingLimit = 32 := by decide
    have hreturns : (SessionAct.parse source none).Returns s ⟨[node], source⟩ := by
      rw [SessionAct.Returns, run_parse, Option.getD_none, hlimit, hread]
      rfl
    have hrenderer : (defaultRenderer.run.run (s.afterOne (.parse source none))).1 =
        .ok ⟨.builtIn, 0⟩ := by
      rw [afterOne_parse]
      rfl
    exact h [] .builtIn _ source _ _ {} _ hreturns hrenderer hrender _ (List.mem_singleton_self _) rfl
  · intro h
    let store : TemplateStore := { trees := { lifetime := 0, capacity := 1024 }, limit := none }
    have hstore : (start [] .builtIn).templatesOf = .ok store := by rfl
    let u := start [] .builtIn
    let e : Environment := [("STREAMFMT_MAX_NESTING_DEPTH", "0")]
    let s := u.after (.parseShared source :: limitTo (some "0"))
    have hreload : ∀ v : Session, v.environment = [] → v.after (limitTo (some "0")) =
        { v with environment := e, settings := .ofEnvironment e } := by
      rintro ⟨_, _, _, _, _, _, _, _⟩ ⟨⟩
      rfl
    let left := (store.getOrParse 0 u.settings.nestingLimit (.ofString source)).2
    have hs : s = { u with
        environment := e
        settings := .ofEnvironment e
        templates := some left } := by
      have hfirst : s = (u.afterOne (.parseShared source)).after (limitTo (some "0")) := rfl
      rw [hfirst, hreload _ (by rw [afterOne_parseShared hstore]; rfl), afterOne_parseShared hstore]
      rfl
    have hreturns : (SessionAct.parseShared source).Returns s ⟨[node], source⟩ := by
      refine ⟨0, ?_⟩
      have hnew : TemplateStore.keyFor source ∉ store.trees.keys := List.not_mem_nil
      have hlimit : (u.settings.nestingLimit : Int) = (32 : Nat) := rfl
      have hleft : s.templatesOf = .ok left := by rw [hs]; rfl
      rw [run_parseShared, hleft]
      dsimp only [left]
      rw [TemplateStore.getOrParse_again hnew rfl (hlimit ▸ hread)]
      rfl
    have hrenderer : (defaultRenderer.run.run (s.afterOne (.parseShared source))).1 =
        .ok ⟨.builtIn, 0⟩ := by
      have hleft : s.templatesOf = .ok left := by rw [hs]; rfl
      rw [afterOne_parseShared hleft, hs, run_defaultRenderer_of_none rfl]
      rfl
    exact h [] .builtIn _ source _ _ {} _ hreturns hrenderer hrender _ (List.mem_singleton_self _) rfl

end StreamLabel
