import StreamLabel.Proofs.Number.Float64
import StreamLabel.Proofs.Render.CanonicalText
import StreamLabel.Proofs.Render.Outcome

/-!
# Where built-in formatters fail

Every value that can be written has a text in each casing, and every value has a size, unless it is a
whole number that is rounded beyond the finite range. So a rendering with built-in formatters, of
values that can be written, reports a failed one exactly where it comes to a placeholder that asks for
the size of such a number (`builtIn_fails_at_oversized`).
-/

namespace StreamLabel

/-! ### Formatters -/

/-- The least whole number that is rounded beyond the finite range. -/
def Float64.intBound : ℤ := 2 ^ 1024 - 2 ^ 970

theorem Float64.intBound_nonneg : 0 ≤ intBound := by decide +kernel

theorem Float64.cast_intBound : (intBound : ℚ) = bound := by
  rw [intBound, bound, Int.cast_sub, Int.cast_pow, Int.cast_pow, Int.cast_ofNat]

/-- A whole number beyond the finite range of binary fractions. -/
def Number.isTooLarge : Number → Bool
  | .int n => Float64.intBound ≤ n
  | .float _ => false

/-- The numeric view, if there is one, is too large. -/
def Resolved.isTooLarge (v : Resolved) : Bool := v.asNumber?.any Number.isTooLarge

theorem Float64.exists_ofInt_eq_finite_iff {n : ℤ} (hn : 0 ≤ n) :
    (∃ x, ofInt n = .finite x) ↔ n < intBound := by
  obtain ⟨k, rfl⟩ := Int.eq_ofNat_of_zero_le hn
  have hbound : (k : ℚ) < bound ↔ (k : ℤ) < intBound := by
    rw [← cast_intBound]
    exact_mod_cast Iff.rfl
  rw [ofInt, Int.natAbs_natCast, ← hbound]
  rcases k.eq_zero_or_pos with rfl | hk
  · exact ⟨fun _ => by simpa using bound_pos, fun _ => ⟨_, rfl⟩⟩
  · have hkeeps := keeps_ofFraction (decide ((k : ℤ) < 0)) hk Nat.one_pos
    rw [Nat.cast_one, div_one] at hkeeps
    exact hkeeps.exists_finite_iff (by exact_mod_cast hk)

namespace Formatter

variable {f : Formatter} {v : Resolved}

theorem ofInt_eq_error {n : ℤ} (h : (Number.int n).isTooLarge = true) :
    Size.ofInt n = .error .tooLarge := by
  have hn : Float64.intBound ≤ n := by simpa [Number.isTooLarge] using h
  have hfinite := (Float64.exists_ofInt_eq_finite_iff (Float64.intBound_nonneg.trans hn)).not.2
    (not_lt.2 hn)
  rw [Size.ofInt]
  cases hx : Float64.ofInt n with
  | finite x => exact absurd ⟨x, hx⟩ hfinite
  | infinity negative | nan negative => rfl

theorem exists_ofNumber_eq_ok {n : Number} (h : n.isTooLarge = false) (hn : 0 ≤ n.toRat) :
    ∃ text, Size.ofNumber n = .ok text := by
  cases n with
  | float x => exact ⟨_, rfl⟩
  | int n =>
    have hn' : 0 ≤ n := Int.cast_nonneg_iff.1 hn
    have hlt : n < Float64.intBound := by simpa [Number.isTooLarge] using h
    obtain ⟨x, hx⟩ := (Float64.exists_ofInt_eq_finite_iff hn').2 hlt
    exact ⟨_, by rw [Size.ofNumber, Size.ofInt, hx]⟩

theorem size_eq_error (h : v.isTooLarge = true) : Size.format v = .error .tooLarge := by
  obtain ⟨n, hn, hlarge⟩ := (Option.any_eq_true ..).1 h
  cases n with
  | float x => simp [Number.isTooLarge] at hlarge
  | int n =>
    have hpos : ¬ (Number.int n).toRat < 0 := by
      have hle : Float64.intBound ≤ n := by simpa [Number.isTooLarge] using hlarge
      exact not_lt.2 (Int.cast_nonneg (Float64.intBound_nonneg.trans hle))
    rw [size_eq, Resolved.isAbsent_eq_false_of_asNumber? hn, hn]
    dsimp only
    rw [if_neg Bool.false_ne_true, if_neg hpos, Size.ofNumber, ofInt_eq_error hlarge]

theorem exists_size_eq_ok (h : v.isTooLarge = false) : ∃ text, Size.format v = .ok text := by
  rw [size_eq]
  cases hn : v.asNumber? with
  | none => split <;> exact ⟨_, rfl⟩
  | some n =>
    have hn' : n.isTooLarge = false := by simpa [Resolved.isTooLarge, hn] using h
    split
    · exact ⟨_, rfl⟩
    · dsimp only
      split
      · exact ⟨_, rfl⟩
      · rename_i hpos
        exact exists_ofNumber_eq_ok hn' (not_lt.1 hpos)

/-- A value with a text has one in each casing. -/
theorem ofText_eq_ok_iff {casing : List Char → List Char} :
    (∃ text, ofText casing v = .ok text) ↔ v.isWritable = true := by
  rw [ofText, Resolved.written_eq]
  cases v.isWritable <;> simp

/-- The size fails where the number is too large, whether or not it is written. -/
theorem run_eq_error (hf : f ∈ Registry.builtIn) (hname : f.name = "size")
    (h : v.isTooLarge = true) : f.run v = .error .tooLarge := by
  simp only [Registry.builtIn, List.mem_cons, List.not_mem_nil, or_false] at hf
  rcases hf with rfl | rfl | rfl | rfl
  · exact size_eq_error h
  · exact absurd hname (by decide)
  · exact absurd hname (by decide)
  · exact absurd hname (by decide)

/-- Of the built-in formatters, the size fails where the number is too large, and the casings where it
is not written. -/
theorem exists_run_eq_ok_iff (hf : f ∈ Registry.builtIn) : (∃ text, f.run v = .ok text) ↔
    if f.name = "size" then v.isTooLarge = false else v.isWritable = true := by
  have hsize : (∃ text, Size.format v = .ok text) ↔ v.isTooLarge = false := by
    refine ⟨fun ⟨text, htext⟩ => ?_, exists_size_eq_ok⟩
    by_contra hlarge
    rw [Bool.not_eq_false] at hlarge
    rw [size_eq_error hlarge] at htext
    cases htext
  simp only [Registry.builtIn, List.mem_cons, List.not_mem_nil, or_false] at hf
  rcases hf with rfl | rfl | rfl | rfl
  · exact hsize
  · exact ofText_eq_ok_iff
  · exact ofText_eq_ok_iff
  · exact ofText_eq_ok_iff

theorem exists_run_eq_ok (hf : f ∈ Registry.builtIn) (hv : v.isWritable = true)
    (h : ¬ (f.name = "size" ∧ v.isTooLarge = true)) : ∃ text, f.run v = .ok text := by
  rw [exists_run_eq_ok_iff hf]
  split
  · rename_i hname
    simpa [hname] using h
  · exact hv

end Formatter

/-! ### Failures in an outcome -/

def Diagnostic.isFailure (d : Diagnostic) : Bool := d.code == "formatter_failed"

def Outcome.failures {α : Type} (o : Outcome α) : List Diagnostic :=
  o.diagnostics.filter Diagnostic.isFailure

/-- The report of a size that there is not. -/
def Diagnostic.noSize (placeholder : Node) : Diagnostic :=
  ⟨.formatterFailed "size" Formatter.Failure.tooLarge.message, placeholder⟩

variable {α β : Type} {x : RenderM α} {f : α → RenderM β} {ds es : List Diagnostic}

/-- The failures of formatters are `ds`, or the first of them where something ends the rendering. -/
structure FailsAt (x : RenderM α) (ds : List Diagnostic) : Prop where
  exists_yields : ∃ o : Outcome α, Yields x o ∧ o.failures <+: ds ∧
    ∀ a, o.result = .ok a → o.failures = ds

namespace FailsAt

theorem pure (a : α) : FailsAt (Pure.pure a) [] :=
  ⟨_, .pure a, List.prefix_rfl, fun _ _ => rfl⟩

theorem ofWritten (w : Except Unwritable α) : FailsAt (RenderM.ofWritten w) [] :=
  ⟨_, .ofWritten w, List.prefix_rfl, fun _ _ => rfl⟩

theorem search (p : Pattern) (text : String) : FailsAt (RenderM.search p text) [] :=
  ⟨_, .search p text, List.prefix_rfl, fun _ _ => rfl⟩

theorem compile (text : String) : FailsAt (RenderM.compile text) [] :=
  ⟨_, .compile text, List.prefix_rfl, fun _ _ => rfl⟩

theorem report (placeholder : Node) (anomaly : Anomaly) :
    FailsAt (RenderM.report placeholder anomaly)
      ([⟨anomaly, placeholder⟩].filter Diagnostic.isFailure) :=
  ⟨_, .report placeholder anomaly, List.prefix_rfl, fun _ _ => rfl⟩

theorem bind (hx : FailsAt x ds) (hf : ∀ a cs, Yields x ⟨.ok a, cs⟩ → FailsAt (f a) es) :
    FailsAt (x >>= f) (ds ++ es) := by
  obtain ⟨⟨o, cs⟩, hx, hprefix, hall⟩ := hx
  cases o with
  | error e =>
    exact ⟨_, hx.bind_error, hprefix.trans (List.prefix_append ..), fun _ h => by simp at h⟩
  | ok a =>
    obtain ⟨p, hp, hprefix', hall'⟩ := hf a cs hx
    have hcs : cs.filter Diagnostic.isFailure = ds := hall a rfl
    have hfailures : Outcome.failures ⟨p.result, cs ++ p.diagnostics⟩ = ds ++ p.failures := by
      rw [Outcome.failures, List.filter_append, hcs, Outcome.failures]
    refine ⟨_, hx.bind_ok hp, ?_, fun b hb => ?_⟩
    · rw [hfailures]
      exact List.prefix_append_right_inj ds |>.2 hprefix'
    · rw [hfailures, hall' b hb]

end FailsAt

/-! ### Rendering -/

namespace Renderer

variable {r : Renderer} {c : Context}

/-- Whether the value has to be given a size, and is too large for it. -/
def isOversized (r : Renderer) (c : Context) (ref : Reference) (name : String) : Bool :=
  name == "size" && (r.formatters.find? name).isSome && (c.resolve ref).isTooLarge

mutual

/-- The placeholders that ask for the size of a number that is too large, as they are come to. -/
def oversizedNode (r : Renderer) (c : Context) (depth : Nat) : Node → List Node
  | .literal _ | .value _ _ => []
  | .formatted origin ref name =>
    if r.isOversized c ref name then [.formatted origin ref name] else []
  | .choice origin ref condition yes no =>
    if r.limit ≤ depth then []
    else if (fallbackDecides (.choice origin ref condition yes no) (c.resolve ref) condition).value then
      r.oversizedNodes c (depth + 1) yes
    else r.oversizedNodes c (depth + 1) no

def oversizedNodes (r : Renderer) (c : Context) (depth : Nat) : List Node → List Node
  | [] => []
  | n :: ns => r.oversizedNode c depth n ++ r.oversizedNodes c depth ns

end

def oversized (r : Renderer) (t : Template) (c : Context) : List Node := r.oversizedNodes c 0 t.nodes

theorem format_failsAt (hr : ∀ f ∈ r.formatters, f ∈ Registry.builtIn) (p : Node) {ref : Reference}
    (hw : (c.resolve ref).isWritable = true) (name : String) :
    FailsAt (r.format p name (c.resolve ref))
      (if r.isOversized c ref name then [.noSize p] else []) := by
  unfold format
  cases hf : r.formatters.find? name with
  | none =>
    have hover : r.isOversized c ref name = false := by simp [isOversized, hf]
    rw [if_neg (by simp [hover])]
    exact (FailsAt.report ..).bind fun _ _ _ => .ofWritten _
  | some f =>
    have hbuiltIn := hr f (List.mem_of_find?_eq_some hf)
    have hname : f.name = name := by simpa using List.find?_some hf
    have hover : r.isOversized c ref name = true ↔
        f.name = "size" ∧ (c.resolve ref).isTooLarge = true := by
      simp [isOversized, hf, hname]
    dsimp only
    by_cases h : f.name = "size" ∧ (c.resolve ref).isTooLarge = true
    · rw [if_pos (hover.2 h), Formatter.run_eq_error hbuiltIn h.1 h.2, ← hname, h.1]
      exact (FailsAt.report ..).bind fun _ _ _ => .ofWritten _
    · obtain ⟨text, htext⟩ := Formatter.exists_run_eq_ok hbuiltIn hw h
      rw [if_neg (hover.not.2 h), htext]
      exact .pure text

theorem decides_failsAt (p : Node) (v : Resolved) (k : Condition) : FailsAt (decides p v k) [] := by
  cases k with
  | compare op operand => exact .ofWritten _
  | regex pattern =>
    refine (FailsAt.compile pattern).bind fun compiled _ _ => ?_
    cases compiled with
    | malformed message => exact (FailsAt.report ..).bind fun _ _ _ => .pure _
    | usable q => exact (FailsAt.ofWritten _).bind fun _ _ _ => .search q _

theorem renderNodes_failsAt (hr : ∀ f ∈ r.formatters, f ∈ Registry.builtIn) (depth : Nat)
    {ns : List Node} (hw : ∀ ref ∈ Node.referencesAll ns, c.isWritableAt ref = true) :
    FailsAt (r.renderNodes c depth ns) ((r.oversizedNodes c depth ns).map .noSize) := by
  have hcons : ∀ {depth : Nat} {n : Node} {ns : List Node},
      FailsAt (r.renderNode c depth n) ((r.oversizedNode c depth n).map .noSize) →
      FailsAt (r.renderNodes c depth ns) ((r.oversizedNodes c depth ns).map .noSize) →
      FailsAt (r.renderNodes c depth (n :: ns)) ((r.oversizedNodes c depth (n :: ns)).map .noSize) := by
    intro depth n ns hn hns
    rw [renderNodes, oversizedNodes, List.map_append]
    refine hn.bind fun s _ _ => ?_
    simpa using hns.bind fun t _ _ => FailsAt.pure (s ++ t)
  induction ns using Node.induct generalizing depth with
  | nil => rw [renderNodes, oversizedNodes]; exact .pure _
  | literal s ns ih =>
    rw [Node.referencesAll, Node.references, List.nil_append] at hw
    exact hcons (by rw [renderNode, oversizedNode]; exact .pure _) (ih depth hw)
  | value o ref ns ih =>
    rw [Node.referencesAll, List.forall_mem_append] at hw
    refine hcons ?_ (ih depth hw.2)
    rw [renderNode, oversizedNode]
    exact (FailsAt.ofWritten _).bind fun _ _ _ => .ofWritten _
  | formatted o ref f ns ih =>
    rw [Node.referencesAll, Node.references, List.forall_mem_append] at hw
    have href := hw.1 ref (List.mem_singleton_self ref)
    refine hcons ?_ (ih depth hw.2)
    rw [renderNode, oversizedNode, apply_ite (List.map Diagnostic.noSize),
      Context.classify_of_isWritableAt href]
    exact format_failsAt hr _ (Context.isWritable_resolve href) f
  | choice o ref k yes no ns ihy ihn ih =>
    rw [Node.referencesAll, Node.references, List.forall_mem_append, List.forall_mem_cons,
      List.forall_mem_append] at hw
    obtain ⟨⟨href, hyes, hno⟩, hns⟩ := hw
    refine hcons ?_ (ih depth hns)
    rw [renderNode, oversizedNode, ← List.nil_append (List.map ..),
      Context.classify_of_isWritableAt href]
    refine (decides_failsAt _ (c.resolve ref) k).bind fun holds _ hholds => ?_
    obtain rfl := hholds.eq_of_follows (decides_follows ..)
    split
    · exact (FailsAt.ofWritten _).bind fun _ _ _ => (FailsAt.report ..).bind fun _ _ _ => .pure _
    · split
      · exact ihy (depth + 1) hyes
      · exact ihn (depth + 1) hno

/-- Where no value is too large, no size is missing. -/
theorem oversizedNodes_eq_nil (r : Renderer) {c : Context} (depth : Nat) {ns : List Node}
    (h : ∀ ref ∈ Node.referencesAll ns, (c.resolve ref).isTooLarge = false) :
    r.oversizedNodes c depth ns = [] := by
  induction ns using Node.induct generalizing depth with
  | nil => rw [oversizedNodes]
  | literal s ns ih =>
    rw [oversizedNodes, oversizedNode, List.nil_append]
    exact ih depth (by simpa [Node.referencesAll, Node.references] using h)
  | value o ref ns ih =>
    rw [oversizedNodes, oversizedNode, List.nil_append]
    rw [Node.referencesAll, Node.references, List.forall_mem_append] at h
    exact ih depth h.2
  | formatted o ref f ns ih =>
    rw [Node.referencesAll, Node.references, List.forall_mem_append] at h
    have hover : r.isOversized c ref f = false := by
      simp [isOversized, h.1 ref (List.mem_singleton_self _)]
    rw [oversizedNodes, oversizedNode, hover, ih depth h.2]
    rfl
  | choice o ref k yes no ns ihy ihn ih =>
    rw [Node.referencesAll, Node.references, List.forall_mem_append, List.forall_mem_cons,
      List.forall_mem_append] at h
    obtain ⟨⟨-, hyes, hno⟩, hns⟩ := h
    rw [oversizedNodes, oversizedNode, ihy _ hyes, ihn _ hno, ih depth hns]
    simp

end Renderer

/-- With built-in formatters, a value that can be written is without text only where its size is asked
for and it is too large. A rendering of such values reports just these, each with its placeholder, up
to a search that ends it. -/
theorem builtIn_fails_at_oversized (r : Renderer) (hr : ∀ f ∈ r.formatters, f ∈ Registry.builtIn)
    (t : Template) (c : Context) :
    (∀ f ∈ Registry.builtIn, ∀ v : Resolved, (∃ text, f.run v = .ok text) ↔
      if f.name = "size" then v.isTooLarge = false else v.isWritable = true) ∧
    ((∀ ref ∈ t.references, c.isWritableAt ref = true) →
      ∃ o : Outcome String, Yields (r.render t c) o ∧
        o.failures <+: (r.oversized t c).map .noSize ∧
        (∀ text, o.result = .ok text → o.failures = (r.oversized t c).map .noSize) ∧
        ((∀ ref ∈ t.references, (c.resolve ref).isTooLarge = false) → o.failures = [])) := by
  refine ⟨fun f hf v => Formatter.exists_run_eq_ok_iff hf, fun hc => ?_⟩
  obtain ⟨o, ho, hprefix, hall⟩ := (Renderer.renderNodes_failsAt hr 0 hc).exists_yields
  refine ⟨o, ho, hprefix, hall, fun hnone => ?_⟩
  rw [Renderer.oversizedNodes_eq_nil r 0 hnone] at hprefix
  exact List.prefix_nil.1 hprefix

/-- The least number that is too large, asked for in a branch; one less has a size. -/
theorem builtIn_fails_at_oversized_least :
    let size : Reference := ⟨.stream, "size"⟩
    let title : Reference := ⟨.stream, "title"⟩
    let placeholder : Node := .formatted {} size "size"
    let t : Template :=
      ⟨[.choice {} title (.compare .eq "a") [placeholder] [], .formatted {} title "size"], ""⟩
    let r : Renderer := ⟨Registry.builtIn, 1⟩
    let c (n : Int) : Context := { stream := [("size", .int n), ("title", .text "a")] }
    (∀ f ∈ r.formatters, f ∈ Registry.builtIn) ∧ Formatter.size ∈ Registry.builtIn ∧
      (∀ ref ∈ t.references, (c Float64.intBound).isWritableAt ref = true) ∧
      (∃ text, Formatter.size.run (.number (.int (Float64.intBound - 1))) = .ok text) ∧
      (∃ o, Yields (r.render t (c Float64.intBound)) o ∧
        ∀ text, o.result = .ok text → o.failures = [.noSize placeholder]) ∧
      ∃ o, Yields (r.render t (c (Float64.intBound - 1))) o ∧ o.failures = [] := by
  intro size title placeholder t r c
  have hr : ∀ f ∈ r.formatters, f ∈ Registry.builtIn := fun _ h => h
  have hsize : Formatter.size ∈ Registry.builtIn := List.mem_cons_self ..
  have hc : ∀ ref ∈ t.references, (c Float64.intBound).isWritableAt ref = true := by decide +kernel
  have hc' : ∀ ref ∈ t.references, (c (Float64.intBound - 1)).isWritableAt ref = true := by
    decide +kernel
  have hnone : ∀ ref ∈ t.references,
      ((c (Float64.intBound - 1)).resolve ref).isTooLarge = false := by decide +kernel
  have hdecides : (Renderer.fallbackDecides
      (.choice {} title (.compare .eq "a") [placeholder] []) ((c Float64.intBound).resolve title)
      (.compare .eq "a")).value = true := by decide +kernel
  have hlarge : r.isOversized (c Float64.intBound) size "size" = true := by decide +kernel
  have hsmall : r.isOversized (c Float64.intBound) title "size" = false := by decide +kernel
  have hone : r.oversized t (c Float64.intBound) = [placeholder] := by
    simp [Renderer.oversized, Renderer.oversizedNodes, Renderer.oversizedNode,
      t, r, placeholder, hdecides, hlarge, hsmall]
  obtain ⟨htotal, hfails⟩ := builtIn_fails_at_oversized r hr t (c Float64.intBound)
  obtain ⟨o, ho, -, hall, -⟩ := hfails hc
  obtain ⟨o', ho', -, -, hempty⟩ :=
    (builtIn_fails_at_oversized r hr t (c (Float64.intBound - 1))).2 hc'
  rw [hone] at hall
  exact ⟨hr, hsize, hc, (htotal _ hsize _).2 (by decide +kernel), ⟨o, ho, hall⟩, o', ho',
    hempty hnone⟩

/-- There are whole numbers of no more digits than a text may have that have no size. -/
theorem exists_size_not_ok :
    ¬ ∀ f ∈ Registry.builtIn, ∀ v : Value, v.isExact = true →
      ∃ text, f.run v.resolve = .ok text := by
  intro h
  have hexact : (Value.int (2 ^ 1024)).isExact = true := by decide +kernel
  obtain ⟨text, htext⟩ := h .size (List.mem_cons_self ..) (.int (2 ^ 1024)) hexact
  have hlarge : (Value.int (2 ^ 1024)).resolve.isTooLarge = true := by decide +kernel
  rw [Formatter.run_eq_error (List.mem_cons_self ..) rfl hlarge] at htext
  simp at htext

end StreamLabel
