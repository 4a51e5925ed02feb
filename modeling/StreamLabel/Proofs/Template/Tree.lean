import StreamLabel.Proofs.Template.Layout

/-!
# Trees without origins

Two trees are the same when they agree once their origins are dropped (`sameAll_iff`). `Node.induct`
is the induction on the nodes of a tree: a node is added in front of a list, and a choice brings its
two branches. The tree that is read from a layout is the tree of the layout, of the same depth.
-/

namespace StreamLabel
open Layout

namespace Node

/-- Induction on a list of nodes, through the branches of its choices. -/
@[elab_as_elim]
theorem induct {P : List Node → Prop} (nil : P [])
    (literal : ∀ s ns, P ns → P (.literal s :: ns))
    (value : ∀ origin ref ns, P ns → P (.value origin ref :: ns))
    (formatted : ∀ origin ref formatter ns, P ns → P (.formatted origin ref formatter :: ns))
    (choice : ∀ origin ref condition yes no ns, P yes → P no → P ns →
      P (.choice origin ref condition yes no :: ns)) :
    ∀ ns, P ns
  | [] => nil
  | .literal s :: ns => literal s ns (induct nil literal value formatted choice ns)
  | .value o r :: ns => value o r ns (induct nil literal value formatted choice ns)
  | .formatted o r f :: ns => formatted o r f ns (induct nil literal value formatted choice ns)
  | .choice o r c yes no :: ns =>
    choice o r c yes no ns (induct nil literal value formatted choice yes)
      (induct nil literal value formatted choice no) (induct nil literal value formatted choice ns)

def IsLiteral : Node → Prop
  | .literal _ => True
  | _ => False

def BeginsWithLiteral : List Node → Prop
  | [] => False
  | n :: _ => n.IsLiteral

variable {node : Node} {ns ms : List Node}

/-! ### Placeholders -/

/-- The node stands in the list, or in a branch of a choice that does. -/
inductive Within (node : Node) : List Node → Prop
  | here {ns : List Node} (h : node ∈ ns) : Within node ns
  | yes {ns yes no : List Node} {origin : Origin} {ref : Reference} {condition : Condition}
      (h : .choice origin ref condition yes no ∈ ns) (hw : Within node yes) : Within node ns
  | no {ns yes no : List Node} {origin : Origin} {ref : Reference} {condition : Condition}
      (h : .choice origin ref condition yes no ∈ ns) (hw : Within node no) : Within node ns

theorem Within.mono (h : node.Within ns) (hns : ns ⊆ ms) : node.Within ms := by
  cases h with
  | here h => exact .here (hns h)
  | yes h hw => exact .yes (hns h) hw
  | no h hw => exact .no (hns h) hw

theorem mem_placeholdersAll : node ∈ placeholdersAll ns ↔ ∃ m ∈ ns, node ∈ placeholders m := by
  induction ns with
  | nil => simp [placeholdersAll]
  | cons m ns ih => simp [placeholdersAll, ih]

theorem within_of_mem_placeholdersAll (h : node ∈ placeholdersAll ns) :
    ¬ node.IsLiteral ∧ node.Within ns := by
  have hrest : ∀ {m ns}, ¬ node.IsLiteral ∧ node.Within ns →
      ¬ node.IsLiteral ∧ node.Within (m :: ns) :=
    fun ⟨hn, hw⟩ => ⟨hn, hw.mono (List.subset_cons_self ..)⟩
  induction ns using Node.induct with
  | nil => simp [placeholdersAll] at h
  | literal t ns ih => exact hrest (ih (by simpa [placeholdersAll, placeholders] using h))
  | value o ref ns ih =>
    simp only [placeholdersAll, placeholders, List.singleton_append, List.mem_cons] at h
    rcases h with rfl | h
    · exact ⟨id, .here (by simp)⟩
    · exact hrest (ih h)
  | formatted o ref name ns ih =>
    simp only [placeholdersAll, placeholders, List.singleton_append, List.mem_cons] at h
    rcases h with rfl | h
    · exact ⟨id, .here (by simp)⟩
    · exact hrest (ih h)
  | choice o ref k yes no ns ihy ihn ih =>
    simp only [placeholdersAll, placeholders, List.cons_append, List.mem_cons, List.mem_append] at h
    rcases h with rfl | (h | h) | h
    · exact ⟨id, .here (by simp)⟩
    · exact ⟨(ihy h).1, .yes (List.mem_cons_self ..) (ihy h).2⟩
    · exact ⟨(ihn h).1, .no (List.mem_cons_self ..) (ihn h).2⟩
    · exact hrest (ih h)

/-- All the placeholders of a tree are listed, and nothing else. -/
theorem mem_placeholdersAll_iff :
    node ∈ placeholdersAll ns ↔ ¬ node.IsLiteral ∧ node.Within ns := by
  refine ⟨within_of_mem_placeholdersAll, ?_⟩
  rintro ⟨hn, hw⟩
  induction hw with
  | here h =>
    refine mem_placeholdersAll.2 ⟨node, h, ?_⟩
    cases node with
    | literal t => exact absurd trivial hn
    | value | formatted | choice => simp [placeholders]
  | yes h _ ih => exact mem_placeholdersAll.2 ⟨_, h, by simp [placeholders, ih]⟩
  | no h _ ih => exact mem_placeholdersAll.2 ⟨_, h, by simp [placeholders, ih]⟩

def reference? : Node → Option Reference
  | .literal _ => none
  | .value _ ref | .formatted _ ref _ | .choice _ ref _ _ _ => some ref

theorem referencesAll_eq_filterMap (ns : List Node) :
    referencesAll ns = (placeholdersAll ns).filterMap reference? := by
  induction ns using Node.induct with
  | nil => simp [referencesAll, placeholdersAll]
  | literal t ns ih => simp [referencesAll, references, placeholdersAll, placeholders, ih]
  | value o ref ns ih =>
    simp [referencesAll, references, placeholdersAll, placeholders, reference?, ih]
  | formatted o ref name ns ih =>
    simp [referencesAll, references, placeholdersAll, placeholders, reference?, ih]
  | choice o ref k yes no ns ihy ihn ih =>
    simp [referencesAll, references, placeholdersAll, placeholders, reference?, ih, ihy, ihn]

/-! ### Equality -/

@[simp] theorem bareAll_nil : bareAll [] = [] := by simp [bareAll]

@[simp] theorem bareAll_cons (n : Node) : bareAll (n :: ns) = bare n :: bareAll ns := by
  simp [bareAll]

theorem sameAll_iff : sameAll ns ms = true ↔ bareAll ns = bareAll ms := by
  induction ns using Node.induct generalizing ms with
  | nil => cases ms <;> simp [sameAll]
  | literal s ns ih =>
    cases ms with
    | nil => simp [sameAll]
    | cons m ms => cases m <;> simp [sameAll, same, bare, ih]
  | value o r ns ih =>
    cases ms with
    | nil => simp [sameAll]
    | cons m ms => cases m <;> simp [sameAll, same, bare, ih]
  | formatted o r f ns ih =>
    cases ms with
    | nil => simp [sameAll]
    | cons m ms => cases m <;> simp [sameAll, same, bare, ih]
  | choice o r c yes no ns ihy ihn ih =>
    cases ms with
    | nil => simp [sameAll]
    | cons m ms => cases m <;> simp [sameAll, same, bare, ih, ihy, ihn, and_assoc]

@[simp] theorem bareAll_bareAll (ns : List Node) : bareAll (bareAll ns) = bareAll ns := by
  induction ns using Node.induct with
  | nil => simp
  | literal s ns ih => simp [bare, ih]
  | value o r ns ih => simp [bare, ih]
  | formatted o r f ns ih => simp [bare, ih]
  | choice o r c yes no ns ihy ihn ih => simp [bare, ih, ihy, ihn]

theorem depthAll_bareAll (ns : List Node) : depthAll (bareAll ns) = depthAll ns := by
  induction ns using Node.induct with
  | nil => simp
  | literal s ns ih => simp [bare, depthAll, depth, ih]
  | value o r ns ih => simp [bare, depthAll, depth, ih]
  | formatted o r f ns ih => simp [bare, depthAll, depth, ih]
  | choice o r c yes no ns ihy ihn ih => simp [bare, depthAll, depth, ih, ihy, ihn]

end Node

theorem Template.same_iff {t u : Template} :
    t.same u = true ↔ Node.bareAll t.nodes = Node.bareAll u.nodes :=
  Node.sameAll_iff

namespace Layout

@[simp] theorem bareAll_nodesAt (l : Layout) (pos : Nat) :
    Node.bareAll (l.nodesAt pos) = l.nodes := by
  induction l generalizing pos with
  | done => simp [nodesAt, nodes]
  | text us rest ih => simp [nodesAt, nodes, Node.bare, ih]
  | value ref b rest ih => simp [nodesAt, nodes, Node.bare, ih]
  | formatted ref b₁ b₂ name b₃ rest ih => simp [nodesAt, nodes, Node.bare, ih]
  | choice f yes no rest ihy ihn ih => simp [nodesAt, nodes, Node.bare, ih, ihy, ihn]

@[simp] theorem bareAll_nodes (l : Layout) : Node.bareAll l.nodes = l.nodes := by
  rw [← bareAll_nodesAt l 0, Node.bareAll_bareAll]

theorem depthAll_nodes (l : Layout) : Node.depthAll l.nodes = l.depth := by
  induction l with
  | done => simp [nodes, Node.depthAll, Layout.depth]
  | text us rest ih => simp [nodes, Node.depthAll, Node.depth, Layout.depth, ih]
  | value ref b rest ih => simp [nodes, Node.depthAll, Node.depth, Layout.depth, ih]
  | formatted ref b₁ b₂ name b₃ rest ih =>
    simp [nodes, Node.depthAll, Node.depth, Layout.depth, ih]
  | choice f yes no rest ihy ihn ih =>
    simp [nodes, Node.depthAll, Node.depth, Layout.depth, ih, ihy, ihn]

theorem depthAll_nodesAt (l : Layout) (pos : Nat) : Node.depthAll (l.nodesAt pos) = l.depth := by
  rw [← Node.depthAll_bareAll, bareAll_nodesAt, depthAll_nodes]

end Layout

end StreamLabel
