import StreamLabel.Formatter.BuiltIn
import StreamLabel.Render.Basic
import StreamLabel.Proofs.Number.Whole
import StreamLabel.Proofs.Template.Tree
import StreamLabel.Proofs.Value.Written

/-!
# Values are seen through their texts

Comparisons and the size of a value look at its kind, but a whole number, a truth value and a sequence
show nothing there that their texts do not show: the number is the one that the text reads as
(`Value.readsBack_resolve`). So a template whose formatters are built in renders alike in two contexts
that show it the same texts (`render_eq_of_same_texts`). A fraction is left out, since its text has 15
digits and may read as another one. Where a value is neither compared nor shown as a size, nothing but
its text is seen at all (`Renderer.renderNodes_eq_of_examined`).
-/

namespace StreamLabel

/-! ### What is seen of a value -/

namespace Resolved

/-- Two values that are absent or present alike, with the same text. -/
structure SameText (v w : Resolved) : Prop where
  isAbsent_eq : v.isAbsent = w.isAbsent
  asText_eq : v.asText = w.asText

instance (v w : Resolved) : Decidable (SameText v w) :=
  decidable_of_iff (v.isAbsent = w.isAbsent ∧ v.asText = w.asText)
    ⟨fun h => ⟨h.1, h.2⟩, fun h => ⟨h.isAbsent_eq, h.asText_eq⟩⟩

/-- Two values that are not told apart: their numbers, too, are the same, and written alike. -/
structure Indistinct (v w : Resolved) : Prop extends SameText v w where
  asNumber?_eq : v.asNumber? = w.asNumber?
  isWritable_eq : v.isWritable = w.isWritable

/-- Two values with the same text, or with none. -/
def SameWritten (v w : Resolved) : Prop := v.written = w.written

variable {v w : Resolved}

theorem Indistinct.refl (v : Resolved) : Indistinct v v := ⟨⟨rfl, rfl⟩, rfl, rfl⟩

theorem Indistinct.sameWritten (h : Indistinct v w) : SameWritten v w := by
  rw [SameWritten, written_eq, written_eq, h.isWritable_eq, h.asText_eq]

/-- The number, if there is one, is the one that the text reads as. -/
def ReadsBack (v : Resolved) : Prop := v.asNumber? = Number.read? v.asText

instance (v : Resolved) : Decidable v.ReadsBack :=
  inferInstanceAs (Decidable (v.asNumber? = Number.read? v.asText))

theorem SameText.indistinct (h : SameText v w) (hv : v.ReadsBack) (hw : w.ReadsBack)
    (hv' : v.isWritable = true) (hw' : w.isWritable = true) : Indistinct v w := by
  refine ⟨h, ?_, hv'.trans hw'.symm⟩
  rw [hv, hw, h.asText_eq]

/-- What has a number is there. -/
theorem isAbsent_eq_false_of_asNumber? {m : Number} (h : v.asNumber? = some m) :
    v.isAbsent = false := by
  cases v with
  | absent | bool b => simp [asNumber?] at h
  | number m | text s => rfl

theorem satisfies_eq (v : Resolved) (op : CompareOp) (operand : String) :
    v.satisfies op operand =
      (!v.isAbsent &&
        match Number.read? operand with
        | some n => v.asNumber?.any fun m => op.holds (m.order n)
        | none => op.holds (textOrder v.asText operand)) := by
  cases v with
  | absent => rfl
  | bool b | number m | text s =>
    simp only [satisfies, isAbsent, Bool.not_false, Bool.true_and]
    cases Number.read? operand with
    | none => rfl
    | some n => dsimp only; cases asNumber? _ <;> rfl

theorem Indistinct.compare_eq (h : Indistinct v w) (op : CompareOp) (operand : String) :
    v.compare op operand = w.compare op operand := by
  rw [v.compare_eq, w.compare_eq, h.isWritable_eq, v.satisfies_eq, w.satisfies_eq, h.isAbsent_eq,
    h.asText_eq, h.asNumber?_eq]

end Resolved

namespace Formatter
open Resolved

variable {v w : Resolved}

/-- A truth value has no number, and so no size. -/
theorem size_eq (v : Resolved) :
    Size.format v =
      if v.isAbsent then .ok "0 B"
      else match v.asNumber? with
        | none => .ok ""
        | some n => if n.toRat < 0 then .ok "" else Size.ofNumber n := by
  cases v <;> rfl

/-- The casings see nothing but the text. -/
theorem run_eq_of_sameWritten {f : Formatter} (hf : f ∈ Registry.builtIn) (hname : f.name ≠ "size")
    (h : SameWritten v w) : f.run v = f.run w := by
  have hcasing : ∀ casing, ofText casing v = ofText casing w := by
    intro casing
    rw [ofText, ofText, h]
  simp only [Registry.builtIn, List.mem_cons, List.not_mem_nil, or_false] at hf
  rcases hf with rfl | rfl | rfl | rfl
  · exact absurd rfl hname
  · exact hcasing Unicode.upper
  · exact hcasing Unicode.lower
  · exact hcasing Unicode.title

theorem run_eq_of_indistinct {f : Formatter} (hf : f ∈ Registry.builtIn) (h : Indistinct v w) :
    f.run v = f.run w := by
  by_cases hname : f.name = "size"
  · obtain rfl : f = size := by
      simp only [Registry.builtIn, List.mem_cons, List.not_mem_nil, or_false] at hf
      rcases hf with rfl | rfl | rfl | rfl
      · rfl
      all_goals exact absurd hname (by decide)
    change Size.format v = Size.format w
    rw [size_eq, size_eq, h.isAbsent_eq, h.asNumber?_eq]
  · exact run_eq_of_sameWritten hf hname h.sameWritten

end Formatter

/-! ### Values without fractions -/

namespace Value

mutual

/-- Truth values, texts, whole numbers of no more digits than a text may have, nothing at all, and
sequences of these. -/
def isExact : Value → Bool
  | .null | .bool _ | .text _ | .bytes _ => true
  | .int n => (decimalDigits n.natAbs).length ≤ digitLimit
  | .list items => isExactAll items
  | .float _ | .table _ => false

def isExactAll : List Value → Bool
  | [] => true
  | v :: vs => isExact v && isExactAll vs

end

theorem readsBack_resolve {v : Value} (h : v.isExact = true) : v.resolve.ReadsBack := by
  cases v with
  | null => decide
  | bool b => cases b <;> decide
  | int n =>
    have hdigits : (decimalDigits n.natAbs).length ≤ digitLimit := by simpa [isExact] using h
    rw [resolve]
    exact (Number.read?_toString hdigits).symm
  | text s | bytes bs | list items => rfl
  | float x | table entries => simp [isExact] at h

mutual

theorem isWritable_of_isExact : (v : Value) → v.isExact = true → v.isWritable = true
  | .null, _ => by rw [isWritable]
  | .bool _, _ => by rw [isWritable]
  | .text _, _ => by rw [isWritable]
  | .bytes _, _ => by rw [isWritable]
  | .int n, h => by
    rw [isExact] at h
    rw [isWritable]
    exact h
  | .list items, h => by
    rw [isExact] at h
    rw [isWritable]
    exact isWritableAll_of_isExactAll items h
  | .float _, h => by
    simp [isExact] at h
  | .table _, h => by
    simp [isExact] at h

theorem isWritableAll_of_isExactAll : (vs : List Value) → isExactAll vs = true →
    isWritableAll vs = true
  | [], _ => by rw [isWritableAll]
  | v :: vs, h => by
    rw [isExactAll, Bool.and_eq_true] at h
    rw [isWritableAll, isWritable_of_isExact v h.1, isWritableAll_of_isExactAll vs h.2]
    rfl

end

end Value

namespace Context

def isExactAt (c : Context) (ref : Reference) : Bool := (c.value? ref).all Value.isExact

theorem isWritableAt_of_isExactAt {c : Context} {ref : Reference} (h : c.isExactAt ref = true) :
    c.isWritableAt ref = true := by
  rw [isExactAt, Option.all_eq_true] at h
  rw [isWritableAt, Option.all_eq_true]
  exact fun v hv => v.isWritable_of_isExact (h v hv)

theorem readsBack_resolve {c : Context} {ref : Reference} (h : c.isExactAt ref = true) :
    (c.resolve ref).ReadsBack := by
  rw [isExactAt] at h
  rw [resolve]
  cases hv : c.value? ref with
  | none => decide
  | some v =>
    rw [hv] at h
    exact Value.readsBack_resolve h

end Context

/-! ### Rendering -/

/-- The two contexts take a reference for values that `P` relates, or neither has a value for it, since
a number in it is not written. -/
inductive Context.AgreeAt (P : Resolved → Resolved → Prop) (c d : Context) (ref : Reference) : Prop
  | ok {v w : Resolved} (hc : c.classify ref = .ok v) (hd : d.classify ref = .ok w) (h : P v w)
  | error {u : Unwritable} (hc : c.classify ref = .error u) (hd : d.classify ref = .error u)

namespace Context.AgreeAt
variable {P Q : Resolved → Resolved → Prop} {c d : Context} {ref : Reference}

theorem of_eq (hP : ∀ v, P v v) (h : c.classify ref = d.classify ref) : AgreeAt P c d ref := by
  cases hd : d.classify ref with
  | ok v => exact .ok (h.trans hd) hd (hP v)
  | error u => exact .error (h.trans hd) hd

theorem mono (h : AgreeAt P c d ref) (hPQ : ∀ v w, P v w → Q v w) : AgreeAt Q c d ref := by
  cases h with
  | ok hc hd h => exact .ok hc hd (hPQ _ _ h)
  | error hc hd => exact .error hc hd

theorem bind_eq (h : AgreeAt P c d ref) {f g : Resolved → RenderM String}
    (hfg : ∀ v w, P v w → f v = g w) :
    (RenderM.ofWritten (c.classify ref) >>= f) = (RenderM.ofWritten (d.classify ref) >>= g) := by
  cases h with
  | ok hc hd h =>
    rw [hc, hd]
    exact hfg _ _ h
  | error hc hd =>
    rw [hc, hd]
    rfl

end Context.AgreeAt

namespace Node

mutual

/-- The formatters that a node and its branches name. -/
def formatters : Node → List String
  | .literal _ | .value _ _ => []
  | .formatted _ _ name => [name]
  | .choice _ _ _ yes no => formattersAll yes ++ formattersAll no

def formattersAll : List Node → List String
  | [] => []
  | n :: ns => formatters n ++ formattersAll ns

end

mutual

/-- The references of a node, and of its branches, that are compared or shown as a size. -/
def examined : Node → List Reference
  | .literal _ | .value _ _ => []
  | .formatted _ ref name => if name = "size" then [ref] else []
  | .choice _ _ (.regex _) yes no => examinedAll yes ++ examinedAll no
  | .choice _ ref (.compare _ _) yes no => ref :: (examinedAll yes ++ examinedAll no)

def examinedAll : List Node → List Reference
  | [] => []
  | n :: ns => examined n ++ examinedAll ns

end

theorem mem_referencesAll_of_examined {ref : Reference} {ns : List Node}
    (h : ref ∈ examinedAll ns) : ref ∈ referencesAll ns := by
  induction ns using Node.induct with
  | nil => exact h
  | literal s ns ih | value o ref' ns ih =>
    rw [examinedAll, List.mem_append] at h
    rw [referencesAll, List.mem_append]
    exact .inr (ih (h.resolve_left List.not_mem_nil))
  | formatted o ref' name ns ih =>
    simp only [examinedAll, examined, referencesAll, references, List.mem_append] at h ⊢
    refine h.imp (fun h => ?_) ih
    split at h
    · exact h
    · cases h
  | choice o ref' k yes no ns ihy ihn ih =>
    cases k with
    | compare op operand =>
      simp only [examinedAll, examined, referencesAll, references, List.mem_append,
        List.mem_cons] at h ⊢
      exact h.imp (Or.imp_right (Or.imp ihy ihn)) ih
    | regex pattern =>
      simp only [examinedAll, examined, referencesAll, references, List.mem_append,
        List.mem_cons] at h ⊢
      exact h.imp (fun hbranch => .inr (hbranch.imp ihy ihn)) ih

end Node

/-- The formatters that a template names, branches included. -/
def Template.formatters (t : Template) : List String := Node.formattersAll t.nodes

/-- The references of a template that are compared or shown as a size, branches included. -/
def Template.examined (t : Template) : List Reference := Node.examinedAll t.nodes

namespace Renderer
open Resolved

variable {r : Renderer} {c d : Context} {p : Node} {v w : Resolved}

/-- Of the formatters called by `names`, those that there are in `r` are built in. -/
def BuiltIn (r : Renderer) (names : List String) : Prop :=
  ∀ name ∈ names, ∀ f, r.formatters.find? name = some f → f ∈ Registry.builtIn

theorem format_eq {name : String} (hname : r.BuiltIn [name]) (htext : SameWritten v w)
    (h : name = "size" → Indistinct v w) : r.format p name v = r.format p name w := by
  rw [SameWritten] at htext
  unfold format
  cases hf : r.formatters.find? name with
  | none => simp only [htext]
  | some f =>
    have hbuilt : f ∈ Registry.builtIn := hname name (List.mem_singleton_self _) f hf
    have hfound : f.name = name := by simpa using List.find?_some hf
    have hrun : f.run v = f.run w := by
      by_cases hsize : name = "size"
      · exact Formatter.run_eq_of_indistinct hbuilt (h hsize)
      · exact Formatter.run_eq_of_sameWritten hbuilt (hfound ▸ hsize) htext
    simp only [hrun, htext]

theorem decides_compare_eq (h : Indistinct v w) (op : CompareOp) (operand : String) :
    decides p v (.compare op operand) = decides p w (.compare op operand) := by
  simp only [decides, h.compare_eq]

theorem decides_regex_eq (h : SameWritten v w) (pattern : String) :
    decides p v (.regex pattern) = decides p w (.regex pattern) := by
  rw [SameWritten] at h
  simp only [decides, h]

mutual

theorem renderNode_eq_of_examined (depth : Nat) : (n : Node) → r.BuiltIn n.formatters →
    (∀ ref ∈ n.references, c.AgreeAt SameWritten d ref) →
    (∀ ref ∈ n.examined, c.AgreeAt Indistinct d ref) →
    r.renderNode c depth n = r.renderNode d depth n
  | .literal s, _, _, _ => by rw [renderNode, renderNode]
  | .value o ref, _, htexts, _ => by
    rw [Node.references] at htexts
    rw [renderNode, renderNode]
    refine (htexts ref (List.mem_singleton_self _)).bind_eq fun v w h => ?_
    rw [h]
  | .formatted o ref name, hnames, htexts, hsame => by
    rw [Node.formatters] at hnames
    rw [Node.references] at htexts
    rw [Node.examined] at hsame
    rw [renderNode, renderNode]
    by_cases hsize : name = "size"
    · rw [if_pos hsize] at hsame
      exact (hsame ref (List.mem_singleton_self _)).bind_eq fun v w h =>
        format_eq hnames h.sameWritten fun _ => h
    · exact (htexts ref (List.mem_singleton_self _)).bind_eq fun v w h =>
        format_eq hnames h fun h => absurd h hsize
  | .choice o ref (.compare op operand) yes no, hnames, htexts, hsame => by
    rw [Node.formatters, BuiltIn, List.forall_mem_append] at hnames
    rw [Node.references, List.forall_mem_cons, List.forall_mem_append] at htexts
    rw [Node.examined, List.forall_mem_cons, List.forall_mem_append] at hsame
    rw [renderNode, renderNode,
      renderNodes_eq_of_examined (depth + 1) yes hnames.1 htexts.2.1 hsame.2.1,
      renderNodes_eq_of_examined (depth + 1) no hnames.2 htexts.2.2 hsame.2.2]
    refine hsame.1.bind_eq fun v w h => ?_
    rw [decides_compare_eq h]
  | .choice o ref (.regex pattern) yes no, hnames, htexts, hsame => by
    rw [Node.formatters, BuiltIn, List.forall_mem_append] at hnames
    rw [Node.references, List.forall_mem_cons, List.forall_mem_append] at htexts
    rw [Node.examined, List.forall_mem_append] at hsame
    rw [renderNode, renderNode,
      renderNodes_eq_of_examined (depth + 1) yes hnames.1 htexts.2.1 hsame.1,
      renderNodes_eq_of_examined (depth + 1) no hnames.2 htexts.2.2 hsame.2]
    refine htexts.1.bind_eq fun v w h => ?_
    rw [decides_regex_eq h]

/-- Two contexts that show the same texts, and the same to those who compare or ask for a size, give
the same rendering. -/
theorem renderNodes_eq_of_examined (depth : Nat) : (ns : List Node) →
    r.BuiltIn (Node.formattersAll ns) →
    (∀ ref ∈ Node.referencesAll ns, c.AgreeAt SameWritten d ref) →
    (∀ ref ∈ Node.examinedAll ns, c.AgreeAt Indistinct d ref) →
    r.renderNodes c depth ns = r.renderNodes d depth ns
  | [], _, _, _ => by rw [renderNodes, renderNodes]
  | n :: ns, hnames, htexts, hsame => by
    rw [Node.formattersAll, BuiltIn, List.forall_mem_append] at hnames
    rw [Node.referencesAll, List.forall_mem_append] at htexts
    rw [Node.examinedAll, List.forall_mem_append] at hsame
    rw [renderNodes, renderNodes, renderNode_eq_of_examined depth n hnames.1 htexts.1 hsame.1,
      renderNodes_eq_of_examined depth ns hnames.2 htexts.2 hsame.2]

end

theorem renderNodes_eq (depth : Nat) (ns : List Node) (hnames : r.BuiltIn (Node.formattersAll ns))
    (hsame : ∀ ref ∈ Node.referencesAll ns, c.AgreeAt Indistinct d ref) :
    r.renderNodes c depth ns = r.renderNodes d depth ns :=
  renderNodes_eq_of_examined depth ns hnames
    (fun ref href => (hsame ref href).mono fun _ _ h => h.sameWritten)
    fun ref href => hsame ref (Node.mem_referencesAll_of_examined href)

end Renderer

/-- Two contexts of exact values that show a template the same texts give it the same rendering: the
same text, or the same error, the same diagnostics, and the same store of patterns. The properties
that the template does not refer to may be any. -/
theorem render_eq_of_same_texts {r : Renderer} {t : Template} {c d : Context}
    (hnames : r.BuiltIn t.formatters)
    (hexact : ∀ ref ∈ t.references, c.isExactAt ref = true ∧ d.isExactAt ref = true)
    (htexts : ∀ ref ∈ t.references, (c.resolve ref).SameText (d.resolve ref)) :
    r.render t c = r.render t d := by
  refine Renderer.renderNodes_eq 0 t.nodes hnames fun ref href => ?_
  obtain ⟨hc, hd⟩ := hexact ref href
  have hcw := Context.isWritableAt_of_isExactAt hc
  have hdw := Context.isWritableAt_of_isExactAt hd
  refine .ok (Context.classify_of_isWritableAt hcw) (Context.classify_of_isWritableAt hdw) ?_
  exact (htexts ref href).indistinct (Context.readsBack_resolve hc) (Context.readsBack_resolve hd)
    (Context.isWritable_resolve hcw) (Context.isWritable_resolve hdw)

/-- Whole numbers, truth values and lists, some in lists, and on the other side their texts; only the
title, which is not asked for, differs. -/
theorem render_eq_of_same_texts_spelled :
    let r : Renderer := ⟨Registry.builtIn, 1⟩
    let size : Reference := ⟨.stream, "size"⟩
    let tags : Reference := ⟨.stream, "audioTags"⟩
    let cached : Reference := ⟨.provider, "cached"⟩
    let t : Template := ⟨[.formatted {} size "size", .formatted {} tags "kind",
      .choice {} size (.compare .ge "1e9")
        [.choice {} cached (.regex "^t(") [.literal "+"] [.literal "-"]]
        [.formatted {} cached "size"]], ""⟩
    let c : Context :=
      { stream := [("size", .int 2684354560), ("title", .text "a"),
          ("audioTags", .list [.list [.int (-5), .null], .bool true])]
        provider := [("cached", .bool true)] }
    let d : Context :=
      { stream := [("size", .text "2684354560"), ("audioTags", .text "-5 true"), ("year", .null)]
        provider := [("cached", .list [.text "", .text "true"])] }
    r.BuiltIn t.formatters ∧
      (∀ ref ∈ t.references, c.isExactAt ref = true ∧ d.isExactAt ref = true) ∧
      (∀ ref ∈ t.references, (c.resolve ref).SameText (d.resolve ref)) ∧
      r.render t c = r.render t d := by
  intro r size tags cached t c d
  have hnames : r.BuiltIn t.formatters := fun _ _ _ h => List.mem_of_find?_eq_some h
  have hexact : ∀ ref ∈ t.references, c.isExactAt ref = true ∧ d.isExactAt ref = true := by decide
  have htexts : ∀ ref ∈ t.references, (c.resolve ref).SameText (d.resolve ref) := by decide
  exact ⟨hnames, hexact, htexts, render_eq_of_same_texts hnames hexact htexts⟩

end StreamLabel
