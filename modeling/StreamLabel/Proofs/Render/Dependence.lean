import StreamLabel.Proofs.Render.Append

/-!
# What a rendering depends on

A rendering asks its context for the references of the template and for nothing else
(`renderNodes_congr`), and of a choice it shows the branch that is taken. The other branch may be any
(`Node.Untaken`); to put it there makes another placeholder, though, and others of those that it stands
in (`Node.Replaced`), and a diagnostic about one of these names it as it is now. So the text stays the
same, the diagnostics correspond, and they are the same where none is about such a placeholder
(`render_depends_on`).
-/

namespace StreamLabel

/-! ### Replaced placeholders -/

namespace Node

/-- The same choice with another branch in place of the one that is not taken. -/
inductive Untaken (c : Context) : Node → Node → Prop
  | yes {o o' : Origin} {ref : Reference} {k : Condition} {no : List Node} (yes yes' : List Node)
      (h : (c.resolve ref).fulfils k = false) :
      Untaken c (.choice o ref k yes no) (.choice o' ref k yes' no)
  | no {o o' : Origin} {ref : Reference} {k : Condition} {yes : List Node} (no no' : List Node)
      (h : (c.resolve ref).fulfils k = true) :
      Untaken c (.choice o ref k yes no) (.choice o' ref k yes no')

/-- Where `p` stands in the first list, `q` stands in the second. All the rest is the same, but for where
the placeholders around it were read. -/
inductive Replaced (p q : Node) : List Node → List Node → Prop
  | here (ns : List Node) : Replaced p q (p :: ns) (q :: ns)
  | there {ns ms : List Node} (n : Node) (h : Replaced p q ns ms) : Replaced p q (n :: ns) (n :: ms)
  | yes {yes yes' : List Node} (o o' : Origin) (ref : Reference) (k : Condition) (no ns : List Node)
      (h : Replaced p q yes yes') :
      Replaced p q (.choice o ref k yes no :: ns) (.choice o' ref k yes' no :: ns)
  | no {no no' : List Node} (o o' : Origin) (ref : Reference) (k : Condition) (yes ns : List Node)
      (h : Replaced p q no no') :
      Replaced p q (.choice o ref k yes no :: ns) (.choice o' ref k yes no' :: ns)

namespace Replaced
variable {p q : Node} {ns ms : List Node}

theorem within (h : Replaced p q ns ms) : p.Within ns := by
  induction h with
  | here ns => exact .here (List.mem_cons_self ..)
  | there n h ih => exact ih.mono (List.subset_cons_self ..)
  | yes o o' ref k no ns h ih => exact .yes (List.mem_cons_self ..) ih
  | no o o' ref k yes ns h ih => exact .no (List.mem_cons_self ..) ih

theorem append (front : List Node) (h : Replaced p q ns ms) :
    Replaced p q (front ++ ns) (front ++ ms) := by
  induction front with
  | nil => exact h
  | cons n front ih => exact .there n ih

end Replaced

/-- Every placeholder of a tree can be replaced. -/
theorem Within.exists_replaced {p : Node} {ns : List Node} (h : p.Within ns) (q : Node) :
    ∃ ms, Replaced p q ns ms := by
  induction h with
  | here h =>
    obtain ⟨front, rest, rfl⟩ := List.append_of_mem h
    exact ⟨_, .append front (.here rest)⟩
  | yes h hw ih =>
    obtain ⟨front, rest, rfl⟩ := List.append_of_mem h
    obtain ⟨ms, hms⟩ := ih
    exact ⟨_, .append front (.yes _ {} _ _ _ rest hms)⟩
  | no h hw ih =>
    obtain ⟨front, rest, rfl⟩ := List.append_of_mem h
    obtain ⟨ms, hms⟩ := ih
    exact ⟨_, .append front (.no _ {} _ _ _ rest hms)⟩

end Node

/-- The same diagnostic, or the same about a placeholder in which `p` was replaced by `q`. -/
def Diagnostic.Replaced (p q : Node) (d e : Diagnostic) : Prop :=
  e = d ∨ e.anomaly = d.anomaly ∧ Node.Replaced p q [d.placeholder] [e.placeholder]

theorem Diagnostic.Replaced.eq_of_not_within {p q : Node} {d e : Diagnostic}
    (h : Diagnostic.Replaced p q d e) (hd : ¬ p.Within [d.placeholder]) : e = d :=
  h.resolve_right fun h => hd h.2.within

/-! ### Renderings -/

namespace Renderer

/-- A rendering asks for the references of its nodes only. -/
theorem renderNodes_congr {r : Renderer} {c d : Context} (depth : Nat) {ns : List Node}
    (h : ∀ ref ∈ Node.referencesAll ns, c.classify ref = d.classify ref) :
    r.renderNodes c depth ns = r.renderNodes d depth ns := by
  induction ns using Node.induct generalizing depth with
  | nil => rw [renderNodes, renderNodes]
  | literal s ns ih =>
    rw [Node.referencesAll, Node.references, List.nil_append] at h
    rw [renderNodes, renderNodes, renderNode, renderNode, ih depth h]
  | value o ref ns ih =>
    rw [Node.referencesAll, Node.references, List.forall_mem_append] at h
    rw [renderNodes, renderNodes, renderNode, renderNode, h.1 ref (List.mem_singleton_self ref),
      ih depth h.2]
  | formatted o ref f ns ih =>
    rw [Node.referencesAll, Node.references, List.forall_mem_append] at h
    rw [renderNodes, renderNodes, renderNode, renderNode, h.1 ref (List.mem_singleton_self ref),
      ih depth h.2]
  | choice o ref k yes no ns ihy ihn ih =>
    rw [Node.referencesAll, Node.references, List.forall_mem_append, List.forall_mem_cons,
      List.forall_mem_append] at h
    obtain ⟨⟨href, hyes, hno⟩, hns⟩ := h
    rw [renderNodes, renderNodes, renderNode, renderNode, href, ihy _ hyes, ihn _ hno, ih depth hns]

section Replaced
variable {r : Renderer} {c : Context} {p q : Node}

theorem renderNodes_alike_self (r : Renderer) (c : Context) (depth : Nat) (ns : List Node) :
    Alike (Diagnostic.Replaced p q) (r.renderNodes c depth ns) (r.renderNodes c depth ns) :=
  .self (fun _ => .inl rfl) (r.exists_yields c depth ns)

theorem renderNodes_replaced (hpq : Node.Untaken c p q) (depth : Nat) {ns ms : List Node}
    (h : Node.Replaced p q ns ms) :
    Alike (Diagnostic.Replaced p q) (r.renderNodes c depth ns) (r.renderNodes c depth ms) := by
  have hreport : ∀ {n m : Node}, Node.Replaced p q [n] [m] →
      ∀ anomaly, Diagnostic.Replaced p q ⟨anomaly, n⟩ ⟨anomaly, m⟩ := fun h _ => .inr ⟨rfl, h⟩
  induction h generalizing depth with
  | here ns =>
    refine renderNodes_cons_alike ?_ (renderNodes_alike_self ..)
    -- the branch that was replaced is the one that the condition does not lead to
    cases hpq with
    | yes yes yes' h =>
      exact renderNode_choice_alike (hreport (.here [])) (fun h' => absurd (h.symm.trans h') (by simp))
        fun _ => renderNodes_alike_self ..
    | no no no' h =>
      exact renderNode_choice_alike (hreport (.here [])) (fun _ => renderNodes_alike_self ..)
        fun h' => absurd (h.symm.trans h') (by simp)
  | there n h ih =>
    exact renderNodes_cons_alike (.self (fun _ => .inl rfl) (r.exists_yields_node c depth n)) (ih depth)
  | yes o o' ref k no ns h ih =>
    exact renderNodes_cons_alike (renderNode_choice_alike (hreport (.yes o o' ref k no [] h))
      (fun _ => ih _) fun _ => renderNodes_alike_self ..) (renderNodes_alike_self ..)
  | no o o' ref k yes ns h ih =>
    exact renderNodes_cons_alike (renderNode_choice_alike (hreport (.no o o' ref k yes [] h))
      (fun _ => renderNodes_alike_self ..) fun _ => ih _) (renderNodes_alike_self ..)

end Replaced

end Renderer

/-- Contexts that give the same value to each reference of a template render it in the same way. At a
choice, the branch that is not taken may be any other: the text is the same, and so are the diagnostics,
but for the names of those placeholders in which the branch was replaced. Where none of them is
reported, all is the same. -/
theorem render_depends_on (r : Renderer) (t : Template) (c : Context) :
    (∀ d : Context, (∀ ref ∈ t.placeholders.filterMap Node.reference?, c.classify ref = d.classify ref) →
      r.render t c = r.render t d) ∧
    ∀ p ∈ t.placeholders, ∀ q, Node.Untaken c p q →
      (∃ ms, Node.Replaced p q t.nodes ms) ∧
      ∀ u : Template, Node.Replaced p q t.nodes u.nodes →
        ∃ o o' : Outcome String, Yields (r.render t c) o ∧ Yields (r.render u c) o' ∧
          o.Corresponds (Diagnostic.Replaced p q) o' ∧
          ((∀ d ∈ o.diagnostics, ¬ p.Within [d.placeholder]) → o' = o) := by
  refine ⟨fun d h => Renderer.renderNodes_congr 0 fun ref href => ?_, fun p hp q hpq => ⟨?_, ?_⟩⟩
  · rw [Node.referencesAll_eq_filterMap] at href
    exact h ref href
  · exact (Node.mem_placeholdersAll_iff.1 hp).2.exists_replaced q
  · intro u hu
    obtain ⟨o, o', ho, ho', hcorr⟩ := Renderer.renderNodes_replaced (r := r) hpq 0 hu
    refine ⟨o, o', ho, ho', hcorr, fun hnone => ?_⟩
    have hnamed : o.Corresponds
        (fun d e => ¬ p.Within [d.placeholder] ∧ Diagnostic.Replaced p q d e) o' :=
      ⟨hcorr.result, (List.forall₂_and_left _ _).2 ⟨hnone, hcorr.diagnostics⟩⟩
    exact hnamed.eq fun d e h => h.2.eq_of_not_within h.1

/-- An unknown formatter is reported in the branch that is taken, and nothing of what the other branch
holds. -/
theorem render_depends_on_title :
    let title : Reference := ⟨.stream, "title"⟩
    let unknown : Node := .formatted {} title "size"
    let p : Node := .choice {} title (.compare .eq "t") [unknown] [.literal "a"]
    let q : Node := .choice {} title (.compare .eq "t") [unknown] [.value {} ⟨.stream, "year"⟩]
    let r : Renderer := ⟨[], 1⟩
    let c : Context := { stream := [("title", .text "t"), ("year", .int 1)] }
    let d : Context := { stream := [("title", .text "t")], addon := [("name", .text "b")] }
    r.render ⟨[p], ""⟩ c = r.render ⟨[p], ""⟩ d ∧
      ∃ o : Outcome String, Yields (r.render ⟨[p], ""⟩ c) o ∧ Yields (r.render ⟨[q], ""⟩ c) o ∧
        o.result = .ok "t" ∧ o.diagnostics.map Diagnostic.code = ["unknown_formatter"] := by
  intro title unknown p q r c d
  have hp : p ∈ Template.placeholders ⟨[p], ""⟩ := List.mem_cons_self ..
  have hpq : Node.Untaken c p q := .no _ _ (by decide +kernel)
  have hsatisfied : (c.resolve title).satisfies .eq "t" = true := by decide +kernel
  have hdiagnostics : (r.fallback ⟨[p], ""⟩ c).diagnostics =
      [⟨.unknownFormatter "size" [], unknown⟩] := by
    simp [Renderer.fallback, Renderer.fallbackNodes, Renderer.fallbackNode, Renderer.fallbackDecides,
      Renderer.fallbackFormat, Registry.find?, Registry.names, Reported.bind, p, r, unknown, hsatisfied]
  have hunnamed : ¬ p.Within [unknown] := by
    rintro (h | h | h) <;> simp [p, unknown] at h
  obtain ⟨hcontexts, hbranches⟩ := render_depends_on r ⟨[p], ""⟩ c
  obtain ⟨-, hu⟩ := hbranches p hp q hpq
  obtain ⟨o, o', ho, ho', -, hsame⟩ := hu ⟨[q], ""⟩ (.here [])
  obtain rfl := ho.unique ((r.render_follows ⟨[p], ""⟩ c).yields (by decide +kernel))
  rw [hsame (by simpa [hdiagnostics] using hunnamed)] at ho'
  exact ⟨hcontexts d (by decide +kernel), _, ho, ho', by decide +kernel, by decide +kernel⟩

/-- A malformed pattern is reported with its placeholder, and so with both branches. -/
theorem exists_untaken_reported :
    ¬ ∀ (r : Renderer) (t u : Template) (c : Context) (p q : Node) (o o' : Outcome String),
      t.depth ≤ r.limit → u.depth ≤ r.limit → Node.Untaken c p q →
      Node.Replaced p q t.nodes u.nodes → Yields (r.render t c) o → Yields (r.render u c) o' →
      o'.diagnostics.map Diagnostic.text = o.diagnostics.map Diagnostic.text := by
  intro h
  let title : Reference := ⟨.stream, "title"⟩
  let p : Node := .choice {} title (.regex "*") [.literal "x"] [.literal "y"]
  let q : Node := .choice {} title (.regex "*") [.literal "z"] [.literal "y"]
  let r : Renderer := ⟨[], 1⟩
  let c : Context := { stream := [("title", .text "t")] }
  have ho := (r.render_follows ⟨[p], ""⟩ c).yields rfl
  have ho' := (r.render_follows ⟨[q], ""⟩ c).yields rfl
  have htexts := h r ⟨[p], ""⟩ ⟨[q], ""⟩ c p q _ _ (by decide) (by decide)
    (.yes _ _ (by decide +kernel)) (.here []) ho ho'
  revert htexts
  decide +kernel

end StreamLabel
