import StreamLabel.Proofs.Render.Fallback

/-!
# Outcomes of renderings

A rendering reads nothing from the state that it begins in: the store of patterns only saves work, and
what was reported before stays in front of what it reports. So a rendering has one outcome, a text or
the refusal that ends it, with its diagnostics, and shows it from every state (`Yields`). Two
renderings are compared by their outcomes (`Alike`), and the comparison goes through step by step.
-/

namespace StreamLabel

variable {α β : Type}

/-- How a step ends, and what it reports. -/
structure Outcome (α : Type) where
  result : Except RenderError α
  diagnostics : List Diagnostic := []

namespace Outcome

/-- One step and, if it does not fail, the next. -/
def bind (o : Outcome α) (f : α → Outcome β) : Outcome β :=
  match o.result with
  | .ok a => ⟨(f a).result, o.diagnostics ++ (f a).diagnostics⟩
  | .error e => ⟨.error e, o.diagnostics⟩

/-- The text of one outcome and then that of another. -/
def followedBy (o p : Outcome String) : Outcome String :=
  o.bind fun s => p.bind fun t => { result := .ok (s ++ t) }

theorem empty_followedBy (o : Outcome String) : followedBy { result := .ok "" } o = o := by
  obtain ⟨o, ds⟩ := o
  cases o <;> simp [followedBy, bind]

theorem followedBy_assoc (o p q : Outcome String) :
    (o.followedBy p).followedBy q = o.followedBy (p.followedBy q) := by
  obtain ⟨o, ds⟩ := o
  obtain ⟨p, es⟩ := p
  obtain ⟨q, fs⟩ := q
  cases o with
  | error e => rfl
  | ok s =>
    cases p with
    | error e => rfl
    | ok t => cases q <;> simp [followedBy, bind, String.append_assoc]

/-- The same end, with diagnostics that correspond by `R`. -/
structure Corresponds (R : Diagnostic → Diagnostic → Prop) (o p : Outcome α) : Prop where
  result : p.result = o.result
  diagnostics : List.Forall₂ R o.diagnostics p.diagnostics

theorem Corresponds.bind {R : Diagnostic → Diagnostic → Prop} {o p : Outcome α}
    {f g : α → Outcome β} (h : o.Corresponds R p) (hf : ∀ a, (f a).Corresponds R (g a)) :
    (o.bind f).Corresponds R (p.bind g) := by
  unfold Outcome.bind
  rw [h.result]
  cases o.result with
  | error e => exact ⟨rfl, h.diagnostics⟩
  | ok a => exact ⟨(hf a).result, List.rel_append h.diagnostics (hf a).diagnostics⟩

/-- Diagnostics that correspond as a map says are given by the map. -/
theorem Corresponds.eq_map {R : Diagnostic → Diagnostic → Prop} {f : Diagnostic → Diagnostic}
    (hR : ∀ d e, R d e → e = f d) {o p : Outcome α} (h : o.Corresponds R p) :
    p = { o with diagnostics := o.diagnostics.map f } := by
  have hmap : List.Forall₂ Eq (o.diagnostics.map f) p.diagnostics :=
    List.forall₂_map_left_iff.2 (h.diagnostics.imp fun d e hd => (hR d e hd).symm)
  rw [List.forall₂_eq_eq_eq] at hmap
  cases p
  rw [hmap, ← h.result]

theorem Corresponds.eq {R : Diagnostic → Diagnostic → Prop} (hR : ∀ d e, R d e → e = d)
    {o p : Outcome α} (h : o.Corresponds R p) : p = o := by
  rw [h.eq_map (f := id) hR, List.map_id]

end Outcome

/-! ### Steps -/

/-- From every state, `x` ends as `o` does and reports what `o` reports. -/
structure Yields (x : RenderM α) (o : Outcome α) : Prop where
  run : ∀ trace : Trace, ∃ patterns : Pattern.Store,
    x.run.run trace = (o.result, ⟨patterns, trace.diagnostics ++ o.diagnostics⟩)

variable {x y : RenderM α} {o : Outcome α} {f g : α → RenderM β}

namespace Yields

theorem unique {p : Outcome α} (h : Yields x o) (h' : Yields x p) : o = p := by
  obtain ⟨s, hs⟩ := h.run ⟨.empty 0, []⟩
  obtain ⟨s', hs'⟩ := h'.run ⟨.empty 0, []⟩
  obtain ⟨hresult, htrace⟩ := Prod.mk.inj (hs.symm.trans hs')
  obtain ⟨-, hdiagnostics⟩ := Trace.mk.inj htrace
  cases o
  cases p
  simp_all

theorem pure (a : α) : Yields (Pure.pure a) { result := .ok a } := by
  refine ⟨fun trace => ⟨trace.patterns, ?_⟩⟩
  rw [List.append_nil]
  rfl

theorem throw (e : RenderError) :
    Yields (MonadExcept.throw e : RenderM α) { result := .error e } := by
  refine ⟨fun trace => ⟨trace.patterns, ?_⟩⟩
  rw [List.append_nil]
  rfl

theorem report (placeholder : Node) (anomaly : Anomaly) :
    Yields (RenderM.report placeholder anomaly) ⟨.ok (), [⟨anomaly, placeholder⟩]⟩ :=
  ⟨fun trace => ⟨trace.patterns, rfl⟩⟩

theorem compile (text : String) :
    Yields (RenderM.compile text) { result := (Pattern.compile text).mapError .pattern } := by
  refine ⟨fun trace => ⟨(trace.patterns.compile text).2, ?_⟩⟩
  rw [run_compile, List.append_nil]

theorem ofWritten (w : Except Unwritable α) :
    Yields (RenderM.ofWritten w) { result := w.mapError .unwritable } := by
  cases w with
  | ok a => exact .pure a
  | error u => exact .throw (.unwritable u)

theorem search (p : Pattern) (text : String) :
    Yields (RenderM.search p text) { result := (p.occursIn text).mapError .pattern } := by
  unfold RenderM.search
  cases p.occursIn text with
  | ok found => exact .pure found
  | error e => exact .throw (.pattern e)

theorem bind {h : α → Outcome β} (hx : Yields x o) (hf : ∀ a, Yields (f a) (h a)) :
    Yields (x >>= f) (o.bind h) := by
  refine ⟨fun trace => ?_⟩
  obtain ⟨s, hs⟩ := hx.run trace
  rw [run_bind, hs]
  cases ho : o.result with
  | error e => exact ⟨s, by simp [Outcome.bind, ho]⟩
  | ok a =>
    obtain ⟨s', hs'⟩ := (hf a).run ⟨s, trace.diagnostics ++ o.diagnostics⟩
    exact ⟨s', by simp [Outcome.bind, ho, hs']⟩

theorem bind_ok {a : α} {ds : List Diagnostic} {p : Outcome β} (hx : Yields x ⟨.ok a, ds⟩)
    (hf : Yields (f a) p) :
    Yields (x >>= f) ⟨p.result, ds ++ p.diagnostics⟩ := by
  refine ⟨fun trace => ?_⟩
  obtain ⟨s, hs⟩ := hx.run trace
  obtain ⟨s', hs'⟩ := hf.run ⟨s, trace.diagnostics ++ ds⟩
  exact ⟨s', by rw [run_bind, hs, ← List.append_assoc]; exact hs'⟩

theorem bind_error {e : RenderError} {ds : List Diagnostic} (hx : Yields x ⟨.error e, ds⟩) :
    Yields (x >>= f) ⟨.error e, ds⟩ := by
  refine ⟨fun trace => ?_⟩
  obtain ⟨s, hs⟩ := hx.run trace
  exact ⟨s, by rw [run_bind, hs]⟩

theorem eq_of_follows {a : α} {ds : List Diagnostic} {y : Reported α}
    (hx : Yields x ⟨.ok a, ds⟩) (hy : Follows x y) : a = y.value := by
  obtain ⟨s, hs⟩ := hx.run ⟨.empty 0, []⟩
  exact (hy.eq_of_ok (by rw [hs])).1

end Yields

/-- What the fallbacks promise is the outcome where every search has an answer. -/
theorem Follows.yields {y : Reported α} (h : Follows x y) (hy : y.refusals = []) :
    Yields x ⟨.ok y.value, y.diagnostics⟩ := by
  refine ⟨fun trace => ?_⟩
  have hrun := h.run trace
  rwa [hy] at hrun

/-- Both have an outcome, and these correspond by `R`. -/
def Alike (R : Diagnostic → Diagnostic → Prop) (x y : RenderM α) : Prop :=
  ∃ o p : Outcome α, Yields x o ∧ Yields y p ∧ o.Corresponds R p

namespace Alike
variable {R : Diagnostic → Diagnostic → Prop}

theorem pure (a : α) : Alike R (Pure.pure a) (Pure.pure a) :=
  ⟨_, _, .pure a, .pure a, rfl, .nil⟩

theorem ofWritten (w : Except Unwritable α) :
    Alike R (RenderM.ofWritten w) (RenderM.ofWritten w) :=
  ⟨_, _, .ofWritten w, .ofWritten w, rfl, .nil⟩

theorem search (p : Pattern) (text : String) :
    Alike R (RenderM.search p text) (RenderM.search p text) :=
  ⟨_, _, .search p text, .search p text, rfl, .nil⟩

theorem compile (text : String) : Alike R (RenderM.compile text) (RenderM.compile text) :=
  ⟨_, _, .compile text, .compile text, rfl, .nil⟩

theorem report {p q : Node} {anomaly : Anomaly} (h : R ⟨anomaly, p⟩ ⟨anomaly, q⟩) :
    Alike R (RenderM.report p anomaly) (RenderM.report q anomaly) :=
  ⟨_, _, .report p anomaly, .report q anomaly, rfl, .cons h .nil⟩

theorem bind (hx : Alike R x y) (hf : ∀ a, Alike R (f a) (g a)) : Alike R (x >>= f) (y >>= g) := by
  obtain ⟨o, p, hx, hy, h⟩ := hx
  choose os ps hf hg h' using hf
  exact ⟨_, _, hx.bind hf, hy.bind hg, h.bind h'⟩

theorem self (hR : ∀ d, R d d) (hx : ∃ o, Yields x o) : Alike R x x := by
  obtain ⟨o, ho⟩ := hx
  exact ⟨o, o, ho, ho, rfl, List.forall₂_same.2 fun d _ => hR d⟩

/-- Only the value that the fallbacks promise goes on to the next step. -/
theorem bind_of_follows {z : Reported α} (hx : Alike R x y) (hz : Follows x z)
    (hf : Alike R (f z.value) (g z.value)) : Alike R (x >>= f) (y >>= g) := by
  obtain ⟨⟨o, ds⟩, ⟨o', es⟩, hx, hy, hresult, hdiagnostics⟩ := hx
  obtain rfl : o' = o := hresult
  cases o' with
  | error e => exact ⟨_, _, hx.bind_error, hy.bind_error, rfl, hdiagnostics⟩
  | ok a =>
    obtain rfl := hx.eq_of_follows hz
    obtain ⟨p, p', hp, hp', hcorr⟩ := hf
    exact ⟨_, _, hx.bind_ok hp, hy.bind_ok hp', hcorr.result,
      List.rel_append hdiagnostics hcorr.diagnostics⟩

end Alike

/-! ### Nodes -/

namespace Renderer

variable {R : Diagnostic → Diagnostic → Prop} {p q : Node}

/-- A formatter is found and run without regard to the placeholder that asks for it. -/
theorem format_alike {r r' : Renderer} (hr : r'.formatters = r.formatters)
    (hR : ∀ anomaly : Anomaly, (∀ limit, anomaly ≠ .tooDeep limit) → R ⟨anomaly, p⟩ ⟨anomaly, q⟩)
    (name : String) (v : Resolved) : Alike R (r.format p name v) (r'.format q name v) := by
  unfold format
  rw [hr]
  cases r.formatters.find? name with
  | none => exact (Alike.report (hR _ (by simp))).bind fun _ => .ofWritten _
  | some f =>
    dsimp only
    cases f.run v with
    | ok text => exact .pure text
    | error failure => exact (Alike.report (hR _ (by simp))).bind fun _ => .ofWritten _

theorem decides_alike
    (hR : ∀ anomaly : Anomaly, (∀ limit, anomaly ≠ .tooDeep limit) → R ⟨anomaly, p⟩ ⟨anomaly, q⟩)
    (v : Resolved) (k : Condition) : Alike R (decides p v k) (decides q v k) := by
  cases k with
  | compare op operand => exact .ofWritten _
  | regex pattern =>
    refine (Alike.compile pattern).bind fun compiled => ?_
    cases compiled with
    | malformed message => exact (Alike.report (hR _ (by simp))).bind fun _ => .pure _
    | usable p => exact (Alike.ofWritten _).bind fun _ => .search p _

/-- Of the branches of a choice only the one that is taken has to be alike. -/
theorem renderNode_choice_alike {r : Renderer} {c : Context} {depth : Nat} {o o' : Origin}
    {ref : Reference} {k : Condition} {yes no yes' no' : List Node}
    (hR : ∀ anomaly, R ⟨anomaly, .choice o ref k yes no⟩ ⟨anomaly, .choice o' ref k yes' no'⟩)
    (hyes : (c.resolve ref).fulfils k = true →
      Alike R (r.renderNodes c (depth + 1) yes) (r.renderNodes c (depth + 1) yes'))
    (hno : (c.resolve ref).fulfils k = false →
      Alike R (r.renderNodes c (depth + 1) no) (r.renderNodes c (depth + 1) no')) :
    Alike R (r.renderNode c depth (.choice o ref k yes no))
      (r.renderNode c depth (.choice o' ref k yes' no')) := by
  rw [renderNode, renderNode]
  refine (Alike.ofWritten _).bind_of_follows (.resolved c ref) ?_
  refine (decides_alike (fun anomaly _ => hR anomaly) ..).bind_of_follows (decides_follows ..) ?_
  rw [fallbackDecides_value]
  split
  · exact (Alike.ofWritten _).bind fun _ => (Alike.report (hR _)).bind fun _ => .pure _
  · split
    · rename_i h
      exact hyes h
    · rename_i h
      exact hno (Bool.eq_false_iff.2 h)

theorem renderNodes_cons_alike {r r' : Renderer} {c : Context} {depth : Nat} {n m : Node}
    {ns ms : List Node} (hn : Alike R (r.renderNode c depth n) (r'.renderNode c depth m))
    (hns : Alike R (r.renderNodes c depth ns) (r'.renderNodes c depth ms)) :
    Alike R (r.renderNodes c depth (n :: ns)) (r'.renderNodes c depth (m :: ms)) := by
  rw [renderNodes, renderNodes]
  exact hn.bind fun _ => hns.bind fun _ => .pure _

end Renderer

/-! ### Limits -/

/-- The same diagnostic, of anything but a limit. -/
def Diagnostic.SameWithin (d e : Diagnostic) : Prop := (∀ limit, d.anomaly ≠ .tooDeep limit) ∧ e = d

theorem Diagnostic.code_ne_of_not_tooDeep {d : Diagnostic}
    (h : ∀ limit, d.anomaly ≠ .tooDeep limit) : d.code ≠ "nesting_too_deep" := by
  obtain ⟨anomaly, p⟩ := d
  cases anomaly with
  | tooDeep limit => exact absurd rfl (h limit)
  | invalidPattern _ _ | unknownFormatter _ _ | formatterFailed _ _ =>
    simp [code, Anomaly.code]

theorem Diagnostic.sameWithin (p : Node) {anomaly : Anomaly}
    (h : ∀ limit, anomaly ≠ .tooDeep limit) : SameWithin ⟨anomaly, p⟩ ⟨anomaly, p⟩ :=
  ⟨h, rfl⟩

namespace Renderer

mutual

/-- Limits that a tree does not reach make no difference. -/
theorem renderNode_within {r r' : Renderer} (hr : r'.formatters = r.formatters) (c : Context)
    (depth : Nat) : (n : Node) → ((depth + n.depth : Nat) : Int) ≤ r.limit →
      ((depth + n.depth : Nat) : Int) ≤ r'.limit →
    Alike Diagnostic.SameWithin (r.renderNode c depth n) (r'.renderNode c depth n)
  | .literal s, _, _ => by rw [renderNode, renderNode]; exact .pure _
  | .value o ref, _, _ => by
    rw [renderNode, renderNode]
    exact (Alike.ofWritten _).bind fun _ => .ofWritten _
  | .formatted o ref f, _, _ => by
    rw [renderNode, renderNode]
    exact (Alike.ofWritten _).bind fun _ => format_alike hr (fun _ h => Diagnostic.sameWithin _ h) ..
  | .choice o ref condition yes no, h, h' => by
    simp only [Node.depth] at h h'
    rw [renderNode, renderNode]
    refine (Alike.ofWritten _).bind fun v => ?_
    refine (decides_alike (fun _ h => Diagnostic.sameWithin _ h) ..).bind fun holds => ?_
    have hdeep : ¬ r.limit ≤ depth := by omega
    have hdeep' : ¬ r'.limit ≤ depth := by omega
    rw [if_neg hdeep, if_neg hdeep']
    cases holds with
    | true => exact renderNodes_within hr c (depth + 1) yes (by omega) (by omega)
    | false => exact renderNodes_within hr c (depth + 1) no (by omega) (by omega)

theorem renderNodes_within {r r' : Renderer} (hr : r'.formatters = r.formatters) (c : Context)
    (depth : Nat) : (ns : List Node) → ((depth + Node.depthAll ns : Nat) : Int) ≤ r.limit →
      ((depth + Node.depthAll ns : Nat) : Int) ≤ r'.limit →
    Alike Diagnostic.SameWithin (r.renderNodes c depth ns) (r'.renderNodes c depth ns)
  | [], _, _ => by rw [renderNodes, renderNodes]; exact .pure _
  | n :: ns, h, h' => by
    simp only [Node.depthAll] at h h'
    exact renderNodes_cons_alike (renderNode_within hr c depth n (by omega) (by omega))
      (renderNodes_within hr c depth ns (by omega) (by omega))

end

/-- Nothing of `t` is lost to the limit of `r`: the limit is not reported, and the outcome is that of
every renderer whose limit `t` does not reach. -/
def Whole (r : Renderer) (t : Template) (c : Context) : Prop :=
  ∃ o : Outcome String, Yields (r.render t c) o ∧
    (∀ d ∈ o.diagnostics, d.code ≠ "nesting_too_deep") ∧
    ∀ limit : Int, t.depth ≤ limit → Yields (render ⟨r.formatters, limit⟩ t c) o

theorem whole_of_depth_le {r : Renderer} {t : Template} (h : t.depth ≤ r.limit) (c : Context) :
    r.Whole t c := by
  have hwithin : ∀ limit : Int, t.depth ≤ limit →
      Alike Diagnostic.SameWithin (r.render t c) (render ⟨r.formatters, limit⟩ t c) := by
    intro limit hl
    have hr : (Renderer.mk r.formatters limit).formatters = r.formatters := rfl
    refine renderNodes_within hr c 0 t.nodes ?_ ?_
    · rw [Nat.zero_add]; exact h
    · rw [Nat.zero_add]; exact hl
  obtain ⟨o, p, ho, -, hcorr⟩ := hwithin r.limit h
  obtain ⟨hsame, -⟩ := (List.forall₂_and_left _ _).1 hcorr.diagnostics
  refine ⟨o, ho, fun d hd => Diagnostic.code_ne_of_not_tooDeep (hsame d hd), fun limit hl => ?_⟩
  obtain ⟨o', p, ho', hp, hcorr⟩ := hwithin limit hl
  obtain rfl := ho.unique ho'
  obtain rfl := hcorr.eq fun d e hd => hd.2
  exact hp

end Renderer

end StreamLabel
