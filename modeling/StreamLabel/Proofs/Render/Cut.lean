import StreamLabel.Proofs.Render.Outcome

/-!
# Trees that are cut at the limit

A limit of nesting shows what an unlimited rendering shows of the tree whose branches are emptied at
that level (`Node.cut`), and reports the limit where these would be chosen from. Which choices that
are is said by `Renderer.watchNode`, which renders without a limit and notes each choice that it comes
to at one level, behind what the condition reports: its outcome is that of the limited rendering of the
whole tree (`renderNode_cut`) and, without the notes, that of the unlimited rendering
(`renderNode_watch`). The limit is a part of what is reported, so where it is reached it has to be a
number that can be written. What is reported names placeholders, and a placeholder that was cut is another
one; so the diagnostics correspond, and only those that name no cut placeholder are the same
(`exists_diagnostics_not_of_cut`).
-/

namespace StreamLabel

namespace Node

mutual

/-- The same node, with empty branches below `levels` levels of branches. -/
def cut : (levels : Nat) → Node → Node
  | _, .literal text => .literal text
  | _, .value origin ref => .value origin ref
  | _, .formatted origin ref formatter => .formatted origin ref formatter
  | 0, .choice origin ref condition _ _ => .choice ⟨origin.position, "", ""⟩ ref condition [] []
  | levels + 1, .choice origin ref condition yes no =>
    .choice origin ref condition (cutAll levels yes) (cutAll levels no)

def cutAll : (levels : Nat) → List Node → List Node
  | _, [] => []
  | levels, n :: ns => cut levels n :: cutAll levels ns

end

end Node

/-- The template with the branches of the placeholders at level `level` emptied. -/
def Template.cut (level : Nat) (t : Template) : Template :=
  { t with nodes := Node.cutAll level t.nodes }

namespace Renderer

open RenderM

mutual

/-- The text of a node that stands inside `depth` branches, without a limit. A choice at the level
`watched` is noted as too deep, behind what its condition reports. -/
def watchNode (r : Renderer) (c : Context) (watched depth : Nat) : Node → RenderM String
  | .literal text => return text
  | .value _ ref => do
    let v ← ofWritten (c.classify ref)
    ofWritten v.written
  | .formatted origin ref name => do
    let v ← ofWritten (c.classify ref)
    r.format (.formatted origin ref name) name v
  | .choice origin ref condition yes no => do
    let v ← ofWritten (c.classify ref)
    let holds ← decides (.choice origin ref condition yes no) v condition
    if depth = watched then report (.choice origin ref condition yes no) (.tooDeep watched)
    if holds then r.watchNodes c watched (depth + 1) yes
    else r.watchNodes c watched (depth + 1) no

def watchNodes (r : Renderer) (c : Context) (watched depth : Nat) : List Node → RenderM String
  | [] => return ""
  | n :: ns => do return (← r.watchNode c watched depth n) ++ (← r.watchNodes c watched depth ns)

end

def watch (r : Renderer) (watched : Nat) (t : Template) (c : Context) : RenderM String :=
  r.watchNodes c watched 0 t.nodes

end Renderer

/-! ### Limited renderings -/

/-- The same diagnostic, about the placeholder with its branches cut at some level. -/
def Diagnostic.CutTo (d e : Diagnostic) : Prop :=
  e.anomaly = d.anomaly ∧ ∃ levels, e.placeholder = d.placeholder.cut levels

namespace Renderer

/-- A limit that can be written is reported. -/
theorem leaveOut_eq {r : Renderer} (h : (Number.int r.limit).isWritable = true) (placeholder : Node) :
    r.leaveOut placeholder = (do RenderM.report placeholder (.tooDeep r.limit); return "") := by
  rw [leaveOut, Number.written, if_pos h]
  rfl

mutual

/-- At the level `levels` below a node the limit is reached, and what is left of the branches there is
empty. -/
theorem renderNode_cut {r : Renderer} {limit : Nat} (hr : r.limit = limit) (c : Context)
    (depth : Nat) : (levels : Nat) → depth + levels = limit → (n : Node) →
      ((Number.int r.limit).isWritable = true ∨ n.depth ≤ levels) →
      Alike Diagnostic.CutTo (r.renderNode c depth n) (r.watchNode c limit depth (n.cut levels))
  | levels, _, .literal s, _ => by
    simp only [renderNode, Node.cut, watchNode]
    exact .pure _
  | levels, _, .value o ref, _ => by
    simp only [renderNode, Node.cut, watchNode]
    exact (Alike.ofWritten _).bind fun _ => .ofWritten _
  | levels, _, .formatted o ref f, _ => by
    simp only [renderNode, Node.cut, watchNode]
    exact (Alike.ofWritten _).bind fun _ =>
      format_alike rfl (fun _ _ => ⟨rfl, levels, by simp only [Node.cut]⟩) ..
  | 0, h, .choice o ref k yes no, hw => by
    have hlimit : r.limit ≤ depth := by omega
    have hwritable : (Number.int r.limit).isWritable = true :=
      hw.resolve_right (by simp [Node.depth])
    simp only [renderNode, Node.cut, watchNode, hlimit, ↓reduceIte, leaveOut_eq hwritable]
    have hcut : ∀ anomaly, Diagnostic.CutTo ⟨anomaly, .choice o ref k yes no⟩
        ⟨anomaly, .choice ⟨o.position, "", ""⟩ ref k [] []⟩ :=
      fun _ => ⟨rfl, 0, by simp only [Node.cut]⟩
    refine (Alike.ofWritten _).bind fun v => ?_
    refine (decides_alike (fun anomaly _ => hcut anomaly) ..).bind fun holds => ?_
    have hdepth : depth = limit := by omega
    rw [if_pos hdepth, hr]
    refine (Alike.report (hcut _)).bind fun _ => ?_
    cases holds <;> exact .pure _
  | levels + 1, h, .choice o ref k yes no, hw => by
    have hlimit : ¬ r.limit ≤ depth := by omega
    simp only [renderNode, Node.cut, watchNode, hlimit, ↓reduceIte]
    have hcut : ∀ anomaly, Diagnostic.CutTo ⟨anomaly, .choice o ref k yes no⟩
        ⟨anomaly, .choice o ref k (Node.cutAll levels yes) (Node.cutAll levels no)⟩ :=
      fun _ => ⟨rfl, levels + 1, by simp only [Node.cut]⟩
    refine (Alike.ofWritten _).bind fun v => ?_
    refine (decides_alike (fun anomaly _ => hcut anomaly) ..).bind fun holds => ?_
    have hdepth : ¬ depth = limit := by omega
    rw [if_neg hdepth]
    rw [Node.depth] at hw
    cases holds with
    | true =>
      exact renderNodes_cut hr c (depth + 1) levels (by omega) yes (hw.imp_right (by omega))
    | false =>
      exact renderNodes_cut hr c (depth + 1) levels (by omega) no (hw.imp_right (by omega))

theorem renderNodes_cut {r : Renderer} {limit : Nat} (hr : r.limit = limit) (c : Context)
    (depth : Nat) : (levels : Nat) → depth + levels = limit → (ns : List Node) →
      ((Number.int r.limit).isWritable = true ∨ Node.depthAll ns ≤ levels) →
      Alike Diagnostic.CutTo (r.renderNodes c depth ns)
        (r.watchNodes c limit depth (Node.cutAll levels ns))
  | levels, _, [], _ => by
    simp only [renderNodes, Node.cutAll, watchNodes]
    exact .pure _
  | levels, h, n :: ns, hw => by
    simp only [renderNodes, Node.cutAll, watchNodes]
    rw [Node.depthAll] at hw
    exact (renderNode_cut hr c depth levels h n (hw.imp_right (by omega))).bind fun _ =>
      (renderNodes_cut hr c depth levels h ns (hw.imp_right (by omega))).bind fun _ => .pure _

end

end Renderer

/-! ### Unlimited renderings -/

/-- The outcome without what it reports of a limit. -/
def Outcome.withoutLimits {α : Type} (o : Outcome α) : Outcome α :=
  { o with diagnostics := o.diagnostics.filter (·.code ≠ "nesting_too_deep") }

theorem Outcome.withoutLimits_bind {α β : Type} (o : Outcome α) (f : α → Outcome β) :
    (o.bind f).withoutLimits = o.withoutLimits.bind fun a => (f a).withoutLimits := by
  obtain ⟨result, ds⟩ := o
  cases result <;> simp [bind, withoutLimits]

/-- Both have an outcome, and that of `y` is that of `x` without limits. -/
def Silenced {α : Type} (x y : RenderM α) : Prop :=
  ∃ o : Outcome α, Yields x o ∧ Yields y o.withoutLimits

namespace Silenced
variable {α β : Type} {x y : RenderM α} {f g : α → RenderM β}

theorem pure (a : α) : Silenced (Pure.pure a) (Pure.pure a) := ⟨_, .pure a, .pure a⟩

theorem ofWritten (w : Except Unwritable α) :
    Silenced (RenderM.ofWritten w) (RenderM.ofWritten w) :=
  ⟨_, .ofWritten w, .ofWritten w⟩

theorem bind (hx : Silenced x y) (hf : ∀ a, Silenced (f a) (g a)) :
    Silenced (x >>= f) (y >>= g) := by
  obtain ⟨o, hx, hy⟩ := hx
  choose os hf hg using hf
  refine ⟨_, hx.bind hf, ?_⟩
  rw [Outcome.withoutLimits_bind]
  exact hy.bind hg

theorem tooDeep_bind (p : Node) (limit : Int) (h : Silenced x y) :
    Silenced (RenderM.report p (.tooDeep limit) >>= fun _ => x) y := by
  have hreport : Silenced (RenderM.report p (.tooDeep limit)) (Pure.pure ()) :=
    ⟨_, .report p (.tooDeep limit), .pure ()⟩
  rw [← pure_bind () fun _ => y]
  exact hreport.bind fun _ => h

/-- What reports no limit stays as it is. -/
theorem of_alike (h : Alike Diagnostic.SameWithin x y) : Silenced x y := by
  obtain ⟨o, p, hx, hy, h⟩ := h
  obtain ⟨hsame, -⟩ := (List.forall₂_and_left _ _).1 h.diagnostics
  have hp : p = o := h.eq fun d e hd => hd.2
  have ho : o.withoutLimits = o := by
    have hfilter : o.diagnostics.filter (·.code ≠ "nesting_too_deep") = o.diagnostics :=
      List.filter_eq_self.2 fun d hd => by simpa using Diagnostic.code_ne_of_not_tooDeep (hsame d hd)
    rw [Outcome.withoutLimits, hfilter]
  exact ⟨o, hx, by rw [ho, ← hp]; exact hy⟩

end Silenced

namespace Renderer

mutual

/-- Watching adds the notes to an unlimited rendering and nothing else. -/
theorem renderNode_watch {r r' : Renderer} (hr : r'.formatters = r.formatters) (c : Context)
    (watched depth : Nat) : (n : Node) → ((depth + n.depth : Nat) : Int) ≤ r'.limit →
      Silenced (r.watchNode c watched depth n) (r'.renderNode c depth n)
  | .literal s, _ => by rw [watchNode, renderNode]; exact .pure _
  | .value o ref, _ => by
    rw [watchNode, renderNode]
    exact (Silenced.ofWritten _).bind fun _ => .ofWritten _
  | .formatted o ref f, _ => by
    rw [watchNode, renderNode]
    exact (Silenced.ofWritten _).bind fun _ =>
      .of_alike (format_alike hr (fun _ h => Diagnostic.sameWithin _ h) ..)
  | .choice o ref k yes no, h => by
    simp only [Node.depth] at h
    have hlimit : ¬ r'.limit ≤ depth := by omega
    rw [watchNode, renderNode]
    refine (Silenced.ofWritten _).bind fun v => ?_
    refine (Silenced.of_alike (decides_alike (fun _ h => Diagnostic.sameWithin _ h) ..)).bind
      fun holds => ?_
    rw [if_neg hlimit]
    have hbranch : Silenced
        (if holds then r.watchNodes c watched (depth + 1) yes
          else r.watchNodes c watched (depth + 1) no)
        (if holds then r'.renderNodes c (depth + 1) yes else r'.renderNodes c (depth + 1) no) := by
      cases holds with
      | true => exact renderNodes_watch hr c watched (depth + 1) yes (by omega)
      | false => exact renderNodes_watch hr c watched (depth + 1) no (by omega)
    by_cases hdepth : depth = watched
    · rw [if_pos hdepth]
      exact .tooDeep_bind _ _ hbranch
    · rw [if_neg hdepth]
      exact hbranch

theorem renderNodes_watch {r r' : Renderer} (hr : r'.formatters = r.formatters) (c : Context)
    (watched depth : Nat) : (ns : List Node) →
      ((depth + Node.depthAll ns : Nat) : Int) ≤ r'.limit →
      Silenced (r.watchNodes c watched depth ns) (r'.renderNodes c depth ns)
  | [], _ => by rw [watchNodes, renderNodes]; exact .pure _
  | n :: ns, h => by
    simp only [Node.depthAll] at h
    rw [watchNodes, renderNodes]
    exact (renderNode_watch hr c watched depth n (by omega)).bind fun _ =>
      (renderNodes_watch hr c watched depth ns (by omega)).bind fun _ => .pure _

end

end Renderer

/-! ### Templates -/

/-- A limited rendering shows what the unlimited rendering of the cut template shows. It reports what
that reports, about its own placeholders, and the limit once for each choice at that level that the
unlimited rendering comes to, right behind what the condition reports; the limit has to be a number
that can be written. Nothing is lost to a limit that the template does not reach. -/
theorem render_limited (formatters : Registry) (limit : Nat) (t : Template) (c : Context) :
    ((Number.int limit).isWritable = true ∨ t.depth ≤ limit → ∃ o w p : Outcome String,
      Yields (Renderer.render ⟨formatters, limit⟩ t c) o ∧
      Yields (Renderer.watch ⟨formatters, limit⟩ limit (t.cut limit) c) w ∧
      (∀ unlimited : Int, (t.cut limit).depth ≤ unlimited →
        Yields (Renderer.render ⟨formatters, unlimited⟩ (t.cut limit) c) p) ∧
      p.result = o.result ∧ o.Corresponds Diagnostic.CutTo w ∧ p = w.withoutLimits) ∧
    (t.depth ≤ limit → Renderer.Whole ⟨formatters, limit⟩ t c) := by
  refine ⟨fun hlimit => ?_, fun h => Renderer.whole_of_depth_le (by simpa using h) c⟩
  obtain ⟨o, w, ho, hw, hcorr⟩ := Renderer.renderNodes_cut (r := ⟨formatters, limit⟩) rfl c 0 limit
    (Nat.zero_add _) t.nodes hlimit
  refine ⟨o, w, w.withoutLimits, ho, hw, fun unlimited hle => ?_, hcorr.result, hcorr, rfl⟩
  have hr : (Renderer.mk formatters unlimited).formatters =
      (Renderer.mk formatters limit).formatters := rfl
  obtain ⟨w', hw', hp⟩ := Renderer.renderNodes_watch hr c limit 0 (t.cut limit).nodes
    (by rw [Nat.zero_add]; exact hle)
  obtain rfl := hw.unique hw'
  exact hp

/-- One level is shown of two, with malformed patterns in both. -/
theorem render_limited_one_of_two :
    let deep : Node :=
      .choice {} ⟨.stream, "year"⟩ (.regex "*") [.literal "a"] [.literal "b"]
    let t : Template := ⟨[.literal "<", .choice {} ⟨.stream, "title"⟩ (.regex "*") []
      [deep, .literal ">"]], ""⟩
    (∃ o p : Outcome String, Yields (Renderer.render ⟨[], (1 : Nat)⟩ t {}) o ∧
      Yields (Renderer.render ⟨[], 2⟩ (t.cut 1) {}) p ∧ p.result = o.result ∧ o.result = .ok "<>" ∧
      o.diagnostics.map Diagnostic.code = ["invalid_regex", "invalid_regex", "nesting_too_deep"] ∧
      p.diagnostics.map Diagnostic.code = ["invalid_regex", "invalid_regex"]) ∧
    Renderer.Whole ⟨[], (2 : Nat)⟩ t {} := by
  intro deep t
  obtain ⟨hshown, -⟩ := render_limited [] 1 t {}
  obtain ⟨o, w, p, ho, -, hp, hresult, -, -⟩ := hshown (.inl (by decide))
  have hcut : ((t.cut 1).depth : Int) ≤ 2 := by decide
  have ho' := (Renderer.render_follows ⟨[], (1 : Nat)⟩ t {}).yields rfl
  have hp' := (Renderer.render_follows ⟨[], 2⟩ (t.cut 1) {}).yields rfl
  obtain rfl := ho.unique ho'
  obtain rfl := (hp 2 hcut).unique hp'
  refine ⟨⟨_, _, ho, hp 2 hcut, hresult, rfl, by decide +kernel, by decide +kernel⟩, ?_⟩
  exact (render_limited [] 2 t {}).2 (by decide)

/-- The pattern of a placeholder is malformed, and what is reported names the placeholder with the
branches that its template gives it. -/
theorem exists_diagnostics_not_of_cut :
    ¬ ∀ (formatters : Registry) (limit : Nat) (t : Template) (c : Context) (o p : Outcome String)
      (unlimited : Int), (t.cut limit).depth ≤ unlimited →
      Yields (Renderer.render ⟨formatters, limit⟩ t c) o →
      Yields (Renderer.render ⟨formatters, unlimited⟩ (t.cut limit) c) p →
      o.withoutLimits.diagnostics.map Diagnostic.text = p.diagnostics.map Diagnostic.text := by
  intro h
  let t : Template := ⟨[.choice ⟨0, "x", "y"⟩ ⟨.stream, "title"⟩ (.regex "*") [.literal "x"]
    [.literal "y"]], "\x7bstream.title::/*/[\"x\"||\"y\"]\x7d"⟩
  let c : Context := { stream := [("title", .text "t")] }
  have ho := (Renderer.render_follows ⟨[], (0 : Nat)⟩ t c).yields rfl
  have hp := (Renderer.render_follows ⟨[], 1⟩ (t.cut 0) c).yields rfl
  have htexts := h [] 0 t c _ _ 1 (by decide) ho hp
  revert htexts
  decide +kernel

end StreamLabel
