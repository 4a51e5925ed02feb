import StreamLabel.Proofs.Template.Tree

/-!
# Places in a tree

The place of a node is the way to it from the root: its number in a list of nodes, and for each
choice that it stands in the number of that and of the branch. Places in dictionary order are in
pre-order: a choice comes before its branches, the branch for yes before the other, and both before
what follows the choice. The placeholders of a tree are listed in this order (`exists_placed`).
-/

namespace StreamLabel

namespace Node

/-- The node stands at a place of the list. In a choice, zero leads to the branch for yes and one to
the other. -/
inductive StandsAt (node : Node) : List Nat → List Node → Prop
  | here {i : Nat} {ns : List Node} (h : ns[i]? = some node) : StandsAt node [i] ns
  | yes {i : Nat} {place : List Nat} {ns yes no : List Node} {origin : Origin} {ref : Reference}
      {condition : Condition} (h : ns[i]? = some (.choice origin ref condition yes no))
      (hy : StandsAt node place yes) : StandsAt node (i :: 0 :: place) ns
  | no {i : Nat} {place : List Nat} {ns yes no : List Node} {origin : Origin} {ref : Reference}
      {condition : Condition} (h : ns[i]? = some (.choice origin ref condition yes no))
      (hn : StandsAt node place no) : StandsAt node (i :: 1 :: place) ns

variable {node m : Node} {ns yes no : List Node} {place : List Nat}

theorem not_standsAt_nil : ¬ node.StandsAt place [] := by
  rintro (h | ⟨h, -⟩ | ⟨h, -⟩) <;> cases h

theorem StandsAt.exists_cons (h : node.StandsAt place ns) : ∃ i rest, place = i :: rest := by
  cases h <;> exact ⟨_, _, rfl⟩

/-- A place after the first node is one among the others, with the number raised. -/
theorem standsAt_succ_iff {i : Nat} :
    node.StandsAt ((i + 1) :: place) (m :: ns) ↔ node.StandsAt (i :: place) ns := by
  constructor
  · rintro (h | ⟨h, hw⟩ | ⟨h, hw⟩)
    · exact .here h
    · exact .yes h hw
    · exact .no h hw
  · rintro (h | ⟨h, hw⟩ | ⟨h, hw⟩)
    · exact .here h
    · exact .yes h hw
    · exact .no h hw

theorem standsAt_leaf_iff
    (hm : ∀ origin ref condition yes no, m ≠ .choice origin ref condition yes no) :
    node.StandsAt (0 :: place) (m :: ns) ↔ place = [] ∧ node = m := by
  constructor
  · rintro (h | ⟨h, -⟩ | ⟨h, -⟩)
    · exact ⟨rfl, (Option.some.inj h).symm⟩
    · exact absurd (Option.some.inj h) (hm _ _ _ _ _)
    · exact absurd (Option.some.inj h) (hm _ _ _ _ _)
  · rintro ⟨rfl, rfl⟩
    exact .here rfl

theorem standsAt_choice_iff {origin : Origin} {ref : Reference} {condition : Condition} :
    node.StandsAt (0 :: place) (.choice origin ref condition yes no :: ns) ↔
      place = [] ∧ node = .choice origin ref condition yes no ∨
      (∃ rest, place = 0 :: rest ∧ node.StandsAt rest yes) ∨
      ∃ rest, place = 1 :: rest ∧ node.StandsAt rest no := by
  constructor
  · rintro (h | ⟨h, hw⟩ | ⟨h, hw⟩)
    · exact .inl ⟨rfl, (Option.some.inj h).symm⟩
    · cases h
      exact .inr (.inl ⟨_, rfl, hw⟩)
    · cases h
      exact .inr (.inr ⟨_, rfl, hw⟩)
  · rintro (⟨rfl, rfl⟩ | ⟨rest, rfl, hw⟩ | ⟨rest, rfl, hw⟩)
    · exact .here rfl
    · exact .yes rfl hw
    · exact .no rfl hw

/-! ### Placeholders with their places -/

/-- The placeholders of the nodes in the order of their places, each beside its place. -/
structure Placed (ns : List Node) (placed : List (List Nat × Node)) : Prop where
  nodes : placed.map Prod.snd = placeholdersAll ns
  sorted : placed.Pairwise (·.1 < ·.1)
  mem_iff : ∀ place node, (place, node) ∈ placed ↔ ¬ node.IsLiteral ∧ node.StandsAt place ns

/-- The places among the nodes that stand after another one. -/
def later (place : List Nat) : List Nat := place.modifyHead (· + 1)

/-- The place within a branch. -/
def inBranch (branch : Nat) (place : List Nat) : List Nat := 0 :: branch :: place

namespace Placed
variable {placed placedYes placedNo : List (List Nat × Node)}

theorem nil : Placed [] [] :=
  ⟨rfl, .nil, fun place node => by simp [not_standsAt_nil]⟩

/-- A node and its branches come before what follows. -/
theorem cons (h : Placed ns placed) (first : List (List Nat × Node))
    (hnodes : first.map Prod.snd = placeholders m) (hsorted : first.Pairwise (·.1 < ·.1))
    (hmem : ∀ place node, (place, node) ∈ first ↔
      ¬ node.IsLiteral ∧ place.head? = some 0 ∧ node.StandsAt place (m :: ns)) :
    Placed (m :: ns) (first ++ placed.map (Prod.map later id)) := by
  -- the places in the first node begin with zero, and those after it with more
  have hhead : ∀ x ∈ first, ∃ place, x.1 = 0 :: place := by
    rintro ⟨place, node⟩ hx
    obtain ⟨-, hzero, -⟩ := (hmem _ _).1 hx
    exact List.head?_eq_some_iff.1 hzero
  have hlater : ∀ x ∈ placed, ∃ i place, x.1 = i :: place := by
    rintro ⟨place, node⟩ hx
    exact ((h.mem_iff _ _).1 hx).2.exists_cons
  refine ⟨?_, ?_, ?_⟩
  · rw [List.map_append, hnodes, List.map_map]
    exact congrArg _ h.nodes
  · refine List.pairwise_append.2 ⟨hsorted, List.pairwise_map.2 (h.sorted.imp_of_mem ?_), ?_⟩
    · intro x y hx hy hlt
      obtain ⟨i, p, hxi⟩ := hlater x hx
      obtain ⟨j, q, hyj⟩ := hlater y hy
      simpa [hxi, hyj, later, List.cons_lt_cons_iff] using hlt
    · intro x hx y hy
      obtain ⟨p, hxp⟩ := hhead x hx
      obtain ⟨z, hz, rfl⟩ := List.mem_map.1 hy
      obtain ⟨i, q, hzi⟩ := hlater z hz
      simp [hxp, hzi, later, List.cons_lt_cons_iff]
  · intro place node
    rw [List.mem_append, hmem, List.mem_map]
    constructor
    · rintro (⟨hn, -, hstands⟩ | ⟨⟨p, n⟩, hx, hxy⟩)
      · exact ⟨hn, hstands⟩
      · obtain ⟨hn, hstands⟩ := (h.mem_iff _ _).1 hx
        obtain ⟨i, q, hpi⟩ := hlater _ hx
        obtain rfl : p = i :: q := hpi
        obtain ⟨rfl, rfl⟩ : (i + 1) :: q = place ∧ n = node := by simpa [later] using hxy
        exact ⟨hn, standsAt_succ_iff.2 hstands⟩
    · rintro ⟨hn, hstands⟩
      obtain ⟨i, p, rfl⟩ := hstands.exists_cons
      cases i with
      | zero => exact .inl ⟨hn, rfl, hstands⟩
      | succ i =>
        exact .inr ⟨(i :: p, node), (h.mem_iff _ _).2 ⟨hn, standsAt_succ_iff.1 hstands⟩, rfl⟩

theorem literal (h : Placed ns placed) (s : String) :
    Placed (.literal s :: ns) (placed.map (Prod.map later id)) := by
  refine h.cons [] rfl .nil fun place node => ?_
  simp only [List.not_mem_nil, false_iff]
  rintro ⟨hn, hzero, hstands⟩
  obtain ⟨p, rfl⟩ := List.head?_eq_some_iff.1 hzero
  rw [standsAt_leaf_iff (by simp)] at hstands
  exact hn (hstands.2 ▸ trivial)

theorem leaf (h : Placed ns placed) (hm : placeholders m = [m]) (hl : ¬ m.IsLiteral)
    (hc : ∀ origin ref condition yes no, m ≠ .choice origin ref condition yes no) :
    Placed (m :: ns) (([0], m) :: placed.map (Prod.map later id)) := by
  refine h.cons [([0], m)] hm.symm (List.pairwise_singleton ..) fun place node => ?_
  rw [List.mem_singleton, Prod.mk.injEq]
  constructor
  · rintro ⟨rfl, rfl⟩
    exact ⟨hl, rfl, .here rfl⟩
  · rintro ⟨-, hzero, hstands⟩
    obtain ⟨p, rfl⟩ := List.head?_eq_some_iff.1 hzero
    obtain ⟨rfl, rfl⟩ := (standsAt_leaf_iff hc).1 hstands
    exact ⟨rfl, rfl⟩

theorem choice (hyes : Placed yes placedYes) (hno : Placed no placedNo) (h : Placed ns placed)
    (origin : Origin) (ref : Reference) (condition : Condition) :
    Placed (.choice origin ref condition yes no :: ns)
      (([0], .choice origin ref condition yes no) :: (placedYes.map (Prod.map (inBranch 0) id) ++
        placedNo.map (Prod.map (inBranch 1) id)) ++ placed.map (Prod.map later id)) := by
  refine h.cons _ ?_ ?_ fun place node => ?_
  · rw [List.map_cons, List.map_append, List.map_map, List.map_map, placeholders, ← hyes.nodes,
      ← hno.nodes]
    rfl
  · refine List.pairwise_cons.2 ⟨?_, List.pairwise_append.2 ⟨?_, ?_, ?_⟩⟩
    · rw [List.forall_mem_append, List.forall_mem_map, List.forall_mem_map]
      simp [inBranch]
    · exact List.pairwise_map.2 (hyes.sorted.imp (by simp [inBranch]))
    · exact List.pairwise_map.2 (hno.sorted.imp (by simp [inBranch]))
    · rw [List.forall_mem_map]
      intro x _
      rw [List.forall_mem_map]
      simp [inBranch, List.cons_lt_cons_iff]
  · simp only [List.mem_cons, Prod.mk.injEq, List.mem_append, List.mem_map, Prod.exists,
      Prod.map_apply, id_eq, hyes.mem_iff, hno.mem_iff, inBranch]
    constructor
    · rintro (⟨rfl, rfl⟩ | ⟨p, n, ⟨hn, hw⟩, rfl, rfl⟩ | ⟨p, n, ⟨hn, hw⟩, rfl, rfl⟩)
      · exact ⟨id, rfl, .here rfl⟩
      · exact ⟨hn, rfl, .yes rfl hw⟩
      · exact ⟨hn, rfl, .no rfl hw⟩
    · rintro ⟨hn, hzero, hstands⟩
      obtain ⟨p, rfl⟩ := List.head?_eq_some_iff.1 hzero
      rcases standsAt_choice_iff.1 hstands with ⟨rfl, rfl⟩ | ⟨q, rfl, hw⟩ | ⟨q, rfl, hw⟩
      · exact .inl ⟨rfl, rfl⟩
      · exact .inr (.inl ⟨q, node, ⟨hn, hw⟩, rfl, rfl⟩)
      · exact .inr (.inr ⟨q, node, ⟨hn, hw⟩, rfl, rfl⟩)

end Placed

/-- The placeholders of a tree are listed in pre-order. -/
theorem exists_placed (ns : List Node) : ∃ placed, Placed ns placed := by
  induction ns using Node.induct with
  | nil => exact ⟨_, .nil⟩
  | literal s ns ih =>
    obtain ⟨_, h⟩ := ih
    exact ⟨_, h.literal s⟩
  | value origin ref ns ih =>
    obtain ⟨_, h⟩ := ih
    exact ⟨_, h.leaf rfl id (by simp)⟩
  | formatted origin ref formatter ns ih =>
    obtain ⟨_, h⟩ := ih
    exact ⟨_, h.leaf rfl id (by simp)⟩
  | choice origin ref condition yes no ns ihy ihn ih =>
    obtain ⟨_, hyes⟩ := ihy
    obtain ⟨_, hno⟩ := ihn
    obtain ⟨_, h⟩ := ih
    exact ⟨_, hyes.choice hno h origin ref condition⟩

end Node

/-! ### References -/

/-- A placeholder with the reference stands at the place. -/
def Template.RefersAt (t : Template) (ref : Reference) (place : List Nat) : Prop :=
  ∃ node : Node, node.StandsAt place t.nodes ∧ node.reference? = some ref

/-- The references of a template are listed in the order of their places. -/
theorem Template.exists_placed_references (t : Template) :
    ∃ placed : List (List Nat × Reference), placed.map Prod.snd = t.references ∧
      placed.Pairwise (·.1 < ·.1) ∧ ∀ place ref, (place, ref) ∈ placed ↔ t.RefersAt ref place := by
  obtain ⟨placed, h⟩ := Node.exists_placed t.nodes
  refine ⟨placed.filterMap fun x => x.2.reference?.map (x.1, ·), ?_, ?_, fun place ref => ?_⟩
  · rw [Template.references, Node.referencesAll_eq_filterMap, ← h.nodes, List.map_filterMap,
      List.filterMap_map]
    congr 1
    funext x
    simp [Function.comp_def]
  · refine h.sorted.filterMap _ fun x y hlt => ?_
    simp only [Option.map_eq_some_iff]
    rintro _ ⟨_, -, rfl⟩ _ ⟨_, -, rfl⟩
    exact hlt
  · simp only [List.mem_filterMap, Prod.exists, Option.map_eq_some_iff, Prod.mk.injEq, h.mem_iff]
    constructor
    · rintro ⟨_, node, ⟨-, hstands⟩, _, href, rfl, rfl⟩
      exact ⟨node, hstands, href⟩
    · rintro ⟨node, hstands, href⟩
      refine ⟨place, node, ⟨?_, hstands⟩, ref, href, rfl, rfl⟩
      rintro hl
      cases node <;> first | exact hl | cases href

end StreamLabel
