import StreamLabel.Render.Basic
import StreamLabel.Proofs.Template.Tree
import StreamLabel.Proofs.Value.Written
import Mathlib

/-!
# Fallbacks

`Renderer.fallback` is the rendering in which every anomaly ends in its fallback: an unknown or
failing formatter in the plain text, a malformed pattern in the second branch, a branch below the
limit in nothing, each with one diagnostic, a search without an answer in the second branch, and a
number that is not written in all of its digits. It needs no store of patterns and always ends.
`Renderer.render` follows it as long as every search has an answer and every number is written, and
ends in the first one that has none or is not (`render_ok_iff_no_refusal`).
-/

namespace StreamLabel

variable {α β : Type}

/-- A value, what is reported on the way to it, and what on the way refuses: a search that gives no
answer, a number that is not written. -/
structure Reported (α : Type) where
  value : α
  diagnostics : List Diagnostic := []
  refusals : List RenderError := []

namespace Reported

def bind (x : Reported α) (f : α → Reported β) : Reported β :=
  let y := f x.value
  ⟨y.value, x.diagnostics ++ y.diagnostics, x.refusals ++ y.refusals⟩

/-- Goes on with `a` if a number in `x` is not written. -/
def ofWritten (x : Except Unwritable α) (a : α) : Reported α where
  value := a
  refusals :=
    match x with
    | .ok _ => []
    | .error u => [.unwritable u]

def text (v : Resolved) : Reported String := ofWritten v.written v.asText

def resolved (c : Context) (ref : Reference) : Reported Resolved :=
  ofWritten (c.classify ref) (c.resolve ref)

@[simp] theorem ofWritten_value (x : Except Unwritable α) (a : α) : (ofWritten x a).value = a := rfl

@[simp] theorem ofWritten_diagnostics (x : Except Unwritable α) (a : α) :
    (ofWritten x a).diagnostics = [] := rfl

@[simp] theorem resolved_value (c : Context) (ref : Reference) :
    (resolved c ref).value = c.resolve ref := rfl

@[simp] theorem resolved_diagnostics (c : Context) (ref : Reference) :
    (resolved c ref).diagnostics = [] := rfl

/-- Finds nothing where a search gives no answer. -/
def search (p : Pattern) (text : String) : Reported Bool :=
  match p.occursIn text with
  | .ok found => { value := found }
  | .error e => { value := false, refusals := [.pattern e] }

theorem search_value (p : Pattern) (text : String) :
    (search p text).value = (match p.occursIn text with
      | .ok found => found
      | .error _ => false) := by
  rw [search]
  cases p.occursIn text <;> rfl

end Reported

/-- A pattern that is malformed or gives no answer is fulfilled by nothing. -/
def Resolved.fulfils (v : Resolved) : Condition → Bool
  | .compare op operand => v.satisfies op operand
  | .regex pattern =>
    match Pattern.compile pattern with
    | .ok (.usable p) =>
      match p.occursIn v.asText with
      | .ok found => found
      | .error _ => false
    | _ => false

namespace Renderer

/-- The plain text stands in for a formatter that is unknown or fails. -/
def fallbackFormat (r : Renderer) (placeholder : Node) (name : String) (v : Resolved) :
    Reported String :=
  match r.formatters.find? name with
  | none =>
    { Reported.text v with
      diagnostics := [⟨.unknownFormatter name r.formatters.names, placeholder⟩] }
  | some f =>
    match f.run v with
    | .ok text => { value := text }
    | .error failure =>
      { Reported.text v with
        diagnostics := [⟨.formatterFailed name failure.message, placeholder⟩] }

/-- A pattern that is malformed or gives no answer is fulfilled by nothing. -/
def fallbackDecides (placeholder : Node) (v : Resolved) : Condition → Reported Bool
  | .compare op operand => .ofWritten (v.compare op operand) (v.satisfies op operand)
  | .regex pattern =>
    match Pattern.compile pattern with
    | .ok (.usable p) => (Reported.text v).bind (Reported.search p)
    | .ok (.malformed message) =>
      { value := false, diagnostics := [⟨.invalidPattern pattern message, placeholder⟩] }
    | .error e => { value := false, refusals := [.pattern e] }

/-- What a value fulfils has nothing to do with the placeholder that asks. -/
theorem fallbackDecides_value (placeholder : Node) (v : Resolved) (k : Condition) :
    (fallbackDecides placeholder v k).value = v.fulfils k := by
  cases k with
  | compare op operand => rfl
  | regex pattern =>
    rw [fallbackDecides, Resolved.fulfils]
    cases Pattern.compile pattern with
    | error e => rfl
    | ok compiled =>
      cases compiled with
      | malformed message => rfl
      | usable p => exact Reported.search_value p v.asText

/-- Nothing stands in for branches that lie too deep. -/
def fallbackLeaveOut (r : Renderer) (placeholder : Node) : Reported String :=
  (Reported.ofWritten (Number.int r.limit).written (Number.int r.limit).text).bind fun _ =>
    { value := "", diagnostics := [⟨.tooDeep r.limit, placeholder⟩] }

mutual

/-- The text of a node that stands inside `depth` branches. -/
def fallbackNode (r : Renderer) (c : Context) (depth : Nat) : Node → Reported String
  | .literal text => { value := text }
  | .value _ ref => (Reported.resolved c ref).bind Reported.text
  | .formatted origin ref name =>
    (Reported.resolved c ref).bind (r.fallbackFormat (.formatted origin ref name) name)
  | .choice origin ref condition yes no =>
    let placeholder := .choice origin ref condition yes no
    (Reported.resolved c ref).bind fun v => (fallbackDecides placeholder v condition).bind fun holds =>
      if r.limit ≤ depth then r.fallbackLeaveOut placeholder
      else if holds then r.fallbackNodes c (depth + 1) yes
      else r.fallbackNodes c (depth + 1) no

def fallbackNodes (r : Renderer) (c : Context) (depth : Nat) : List Node → Reported String
  | [] => { value := "" }
  | n :: ns =>
    (r.fallbackNode c depth n).bind fun first =>
      (r.fallbackNodes c depth ns).bind fun others => { value := first ++ others }

end

def fallback (r : Renderer) (t : Template) (c : Context) : Reported String :=
  r.fallbackNodes c 0 t.nodes

end Renderer

/-! ### Runs -/

/-- The store answers as if it read the text anew. -/
theorem Pattern.Store.compile_fst (s : Pattern.Store) (text : String) :
    (s.compile text).1 = Pattern.compile text := by
  unfold Store.compile
  split
  · rename_i e he
    have htext : e.text = text := by simpa using List.find?_some he
    rw [← htext]
    exact e.isOutcome.symm
  · split <;> simp_all

/-- How a state goes through two steps. -/
theorem run_bind {ε σ : Type} (x : ExceptT ε (StateM σ) α) (f : α → ExceptT ε (StateM σ) β)
    (state : σ) :
    (x >>= f).run.run state =
      match x.run.run state with
      | (.ok a, next) => (f a).run.run next
      | (.error e, next) => (.error e, next) := by
  rw [ExceptT.run_bind, StateT.run_bind]
  obtain ⟨o, next⟩ := x.run.run state
  cases o <;> rfl

theorem run_compile (text : String) (trace : Trace) :
    (RenderM.compile text).run.run trace =
      ((Pattern.compile text).mapError .pattern,
        { trace with patterns := (trace.patterns.compile text).2 }) := by
  rw [← trace.patterns.compile_fst text]
  have hget : (get : RenderM Trace).run.run trace = (.ok trace, trace) := rfl
  have hset : ∀ next, (set next : RenderM PUnit).run.run trace = (.ok ⟨⟩, next) := fun _ => rfl
  rw [RenderM.compile, run_bind, hget]
  dsimp only
  rw [run_bind, hset]
  cases (trace.patterns.compile text).1 <;> rfl

/-- From every state, `x` gives what `y` says and reports it, unless something refuses: then `x` ends in
the first refusal of `y`. -/
structure Follows (x : RenderM α) (y : Reported α) : Prop where
  run : ∀ trace : Trace,
    match y.refusals with
    | [] => ∃ s, x.run.run trace = (.ok y.value, ⟨s, trace.diagnostics ++ y.diagnostics⟩)
    | e :: _ => (x.run.run trace).1 = .error e

namespace Follows

theorem pure (a : α) : Follows (Pure.pure a) { value := a } := by
  refine ⟨fun trace => ⟨trace.patterns, ?_⟩⟩
  rw [List.append_nil]
  rfl

theorem throw (e : RenderError) (a : α) :
    Follows (MonadExcept.throw e) { value := a, refusals := [e] } :=
  ⟨fun _ => rfl⟩

theorem ofWritten {x : Except Unwritable α} {a : α} (h : Unwritable.Spares x a) :
    Follows (RenderM.ofWritten x) (.ofWritten x a) := by
  cases x with
  | ok b =>
    obtain rfl := h b rfl
    exact .pure b
  | error u => exact .throw (.unwritable u) a

theorem text (v : Resolved) : Follows (RenderM.ofWritten v.written) (Reported.text v) :=
  .ofWritten v.spares_written

theorem resolved (c : Context) (ref : Reference) :
    Follows (RenderM.ofWritten (c.classify ref)) (Reported.resolved c ref) :=
  .ofWritten (c.spares_classify ref)

theorem bind {x : RenderM α} {y : Reported α} {f : α → RenderM β} {g : α → Reported β}
    (hx : Follows x y) (hf : Follows (f y.value) (g y.value)) : Follows (x >>= f) (y.bind g) := by
  obtain ⟨a, ds, es⟩ := y
  refine ⟨fun trace => ?_⟩
  rw [run_bind]
  cases es with
  | nil =>
    obtain ⟨s, hs⟩ := hx.run trace
    rw [hs]
    simpa [Reported.bind] using hf.run ⟨s, trace.diagnostics ++ ds⟩
  | cons e es =>
    have he : (x.run.run trace).1 = .error e := hx.run trace
    generalize x.run.run trace = outcome at he ⊢
    obtain ⟨o, next⟩ := outcome
    obtain rfl : o = .error e := he
    rfl

variable {pattern : String} {f : Pattern.Compiled → RenderM α} {y : Reported α}

theorem report {x : RenderM α} (placeholder : Node) (anomaly : Anomaly) (h : Follows x y) :
    Follows (do RenderM.report placeholder anomaly; x)
      { y with diagnostics := ⟨anomaly, placeholder⟩ :: y.diagnostics } := by
  have hreport : Follows (RenderM.report placeholder anomaly)
      { value := (), diagnostics := [⟨anomaly, placeholder⟩] } :=
    ⟨fun trace => ⟨trace.patterns, rfl⟩⟩
  exact hreport.bind (f := fun _ => x) (g := fun _ => y) h

theorem search (p : Pattern) (text : String) :
    Follows (RenderM.search p text) (Reported.search p text) := by
  unfold RenderM.search Reported.search
  cases p.occursIn text with
  | error e => exact .throw (.pattern e) false
  | ok found => exact .pure found

theorem compile {k : Pattern.Compiled} (h : Pattern.compile pattern = .ok k) (hf : Follows (f k) y) :
    Follows (RenderM.compile pattern >>= f) y := by
  refine ⟨fun trace => ?_⟩
  rw [run_bind, run_compile, h]
  exact hf.run _

theorem compile_refused {e : Pattern.Refusal} (h : Pattern.compile pattern = .error e) (a : α) :
    Follows (RenderM.compile pattern >>= f) { value := a, refusals := [.pattern e] } := by
  refine ⟨fun trace => ?_⟩
  rw [run_bind, run_compile, h]
  rfl

theorem ok_iff {x : RenderM α} (h : Follows x y) (trace : Trace) :
    (∃ a, (x.run.run trace).1 = .ok a) ↔ y.refusals = [] := by
  have hrun := h.run trace
  cases hes : y.refusals with
  | nil =>
    rw [hes] at hrun
    obtain ⟨s, hs⟩ := hrun
    exact ⟨fun _ => rfl, fun _ => ⟨y.value, by rw [hs]⟩⟩
  | cons e es =>
    rw [hes] at hrun
    have he : (x.run.run trace).1 = .error e := hrun
    simp [he]

theorem eq_of_ok {x : RenderM α} (h : Follows x y) {trace : Trace} {a : α}
    (ha : (x.run.run trace).1 = .ok a) :
    a = y.value ∧ (x.run.run trace).2.diagnostics = trace.diagnostics ++ y.diagnostics := by
  have hrun := h.run trace
  rw [(h.ok_iff trace).1 ⟨a, ha⟩] at hrun
  obtain ⟨s, hs⟩ := hrun
  rw [hs] at ha ⊢
  exact ⟨(Except.ok.inj ha).symm, rfl⟩

end Follows

/-! ### Rendering -/

namespace Renderer

theorem format_follows (r : Renderer) (placeholder : Node) (name : String) (v : Resolved) :
    Follows (r.format placeholder name v) (r.fallbackFormat placeholder name v) := by
  unfold format fallbackFormat
  cases r.formatters.find? name with
  | none => exact (Follows.text v).report ..
  | some f =>
    dsimp only
    cases f.run v with
    | ok text => exact .pure text
    | error failure => exact (Follows.text v).report ..

theorem decides_follows (placeholder : Node) (v : Resolved) (k : Condition) :
    Follows (decides placeholder v k) (fallbackDecides placeholder v k) := by
  cases k with
  | compare op operand => exact .ofWritten (v.spares_compare op operand)
  | regex pattern =>
    cases h : Pattern.compile pattern with
    | error e =>
      simp only [decides, fallbackDecides, h]
      exact .compile_refused h false
    | ok compiled =>
      cases compiled with
      | malformed message =>
        simp only [decides, fallbackDecides, h]
        exact .compile h ((Follows.pure false).report ..)
      | usable p =>
        simp only [decides, fallbackDecides, h]
        exact .compile h ((Follows.text v).bind (.search p _))

theorem leaveOut_follows (r : Renderer) (placeholder : Node) :
    Follows (r.leaveOut placeholder) (r.fallbackLeaveOut placeholder) := by
  refine (Follows.ofWritten fun text h => ?_).bind ((Follows.pure "").report ..)
  exact (Resolved.number (.int r.limit)).spares_written text h

theorem renderNodes_follows (r : Renderer) (c : Context) (depth : Nat) (ns : List Node) :
    Follows (r.renderNodes c depth ns) (r.fallbackNodes c depth ns) := by
  -- every step but the first node is the same
  have hcons : ∀ {depth : Nat} {n : Node} {ns : List Node},
      Follows (r.renderNode c depth n) (r.fallbackNode c depth n) →
      Follows (r.renderNodes c depth ns) (r.fallbackNodes c depth ns) →
      Follows (r.renderNodes c depth (n :: ns)) (r.fallbackNodes c depth (n :: ns)) := by
    intro depth n ns hn hns
    rw [renderNodes, fallbackNodes]
    exact hn.bind (hns.bind (.pure _))
  induction ns using Node.induct generalizing depth with
  | nil => rw [renderNodes, fallbackNodes]; exact .pure _
  | literal s ns ih => exact hcons (by rw [renderNode, fallbackNode]; exact .pure _) (ih depth)
  | value o ref ns ih =>
    refine hcons ?_ (ih depth)
    rw [renderNode, fallbackNode]
    exact (Follows.resolved c ref).bind (.text _)
  | formatted o ref f ns ih =>
    refine hcons ?_ (ih depth)
    rw [renderNode, fallbackNode]
    exact (Follows.resolved c ref).bind (format_follows ..)
  | choice o ref k yes no ns ihy ihn ih =>
    refine hcons ?_ (ih depth)
    rw [renderNode, fallbackNode]
    refine (Follows.resolved c ref).bind ((decides_follows ..).bind ?_)
    split
    · exact r.leaveOut_follows _
    · split
      · exact ihy (depth + 1)
      · exact ihn (depth + 1)

theorem render_follows (r : Renderer) (t : Template) (c : Context) :
    Follows (r.render t c) (r.fallback t c) :=
  r.renderNodes_follows c 0 t.nodes

end Renderer

end StreamLabel
