import StreamLabel.Proofs.Template.Canonical
import Mathlib

/-!
# Reading canonical texts

The canonical text of a tree is read as the tree exactly if the tree is printable
(`parse_text_same_iff_printable`). A tree that was read from a text is printable up to conditions
that fuse, so its canonical text is always accepted, and it is read as the tree unless some
condition fuses (`parse_text_of_parse`).
-/

namespace StreamLabel
open Layout

variable {s : String} {limit : Nat} {t : Template}

/-- A tree that its canonical text shows: literals are not empty, hold no brace and are not adjacent,
names are names, operands and patterns end where they do, and no operand joins its operator. -/
def Template.Printable (t : Template) : Prop :=
  Node.RegularAll (fun k => k.Readable ∧ ¬ k.Fuses) t.nodes

theorem regularAll_of_parse (h : Template.parse s limit = .ok t) :
    Node.RegularAll Condition.Readable t.nodes := by
  obtain ⟨l, hl, rfl⟩ := parse_eq_ok_iff.1 h
  rw [← Node.regularAll_bareAll, bareAll_nodesAt]
  exact hl.ok.regularAll_nodes

theorem depth_le_of_parse (h : Template.parse s limit = .ok t) : t.depth ≤ limit := by
  obtain ⟨l, hl, rfl⟩ := parse_eq_ok_iff.1 h
  rw [Template.depth, depthAll_nodesAt]
  exact hl.depth_le

/-- The canonical text of a regular tree is accepted, and read with each condition as it is read
again. -/
theorem exists_parse_text (ht : Node.RegularAll Condition.Readable t.nodes) (hd : t.depth ≤ limit) :
    ∃ u, Template.parse t.text limit = .ok u ∧ Node.bareAll u.nodes = Node.rereadAll t.nodes := by
  obtain ⟨l, hok, hchars, hnodes, -⟩ := exists_canonical false ht
  have hdepth : l.depth ≤ limit := by
    rw [← depthAll_nodes, hnodes, Node.depthAll_rereadAll]
    exact hd
  refine ⟨_, parse_eq_ok_iff.2 ⟨l, ⟨hok, hdepth, hchars⟩, rfl⟩, ?_⟩
  rw [bareAll_nodesAt, hnodes]

theorem exists_parse_text_same_iff (ht : Node.RegularAll Condition.Readable t.nodes)
    (hd : t.depth ≤ limit) :
    (∃ u, Template.parse t.text limit = .ok u ∧ u.same t = true) ↔ Node.UnfusedAll t.nodes := by
  obtain ⟨u, hu, hnodes⟩ := exists_parse_text ht hd
  rw [← Node.rereadAll_eq_bareAll_iff, ← hnodes, ← Template.same_iff]
  constructor
  · rintro ⟨u', hu', hsame⟩
    rw [hu] at hu'
    exact Except.ok.inj hu' ▸ hsame
  · exact fun hsame => ⟨u, hu, hsame⟩

/-- The trees that their canonical texts give back are the printable ones. -/
theorem parse_text_same_iff_printable (t : Template) (limit : Nat) (hd : t.depth ≤ limit) :
    (∃ u, Template.parse t.text limit = .ok u ∧ u.same t = true) ↔ t.Printable := by
  rw [Template.Printable, ← Node.regularAll_and_unfusedAll]
  constructor
  · rintro ⟨u, hu, hsame⟩
    have ht : Node.RegularAll Condition.Readable t.nodes := by
      rw [← Node.regularAll_bareAll, ← Template.same_iff.1 hsame, Node.regularAll_bareAll]
      exact regularAll_of_parse hu
    exact ⟨ht, (exists_parse_text_same_iff ht hd).1 ⟨u, hu, hsame⟩⟩
  · rintro ⟨ht, hfuse⟩
    exact (exists_parse_text_same_iff ht hd).2 hfuse

/-- A pattern with an escaped slash and a bracket, and a branch in a branch that escapes a quote and
a backslash. -/
theorem parse_text_same_nested :
    let t : Template := ⟨[.literal "a\"", .choice {} ⟨.stream, "title"⟩ (.regex "x/\\/[b")
      [.choice {} ⟨.addon, "id"⟩ (.compare .gt "0 \"") [.literal "\\\""] []] []], ""⟩
    t.depth ≤ 2 ∧ t.Printable ∧
      ∃ u, Template.parse t.text (2 : Nat) = .ok u ∧ u.same t = true := by
  intro t
  have hd : t.depth ≤ 2 := by decide
  have hpattern : FirstClose ("x/\\/[b".toList ++ ['/', '[']) "x/\\/[b".toList :=
    firstClose_iff.2 ⟨by decide, by decide⟩
  have ht : t.Printable := by
    simp only [Template.Printable, t, Node.RegularAll, Node.Regular, Node.IsLiteral,
      Node.BeginsWithLiteral, Condition.Readable, Condition.Fuses, hpattern]
    decide +kernel
  exact ⟨hd, ht, (parse_text_same_iff_printable t 2 hd).2 ht⟩

/-- The canonical text of what was read is accepted again, and read as the same tree exactly if no
condition fuses. -/
theorem parse_text_of_parse (h : Template.parse s limit = .ok t) :
    (∃ u, Template.parse t.text limit = .ok u ∧
      Node.bareAll u.nodes = Node.rereadAll t.nodes) ∧
    ((∃ u, Template.parse t.text limit = .ok u ∧ u.same t = true) ↔ Node.UnfusedAll t.nodes) :=
  ⟨exists_parse_text (regularAll_of_parse h) (depth_le_of_parse h),
    exists_parse_text_same_iff (regularAll_of_parse h) (depth_le_of_parse h)⟩

theorem parse_text_of_parse_blanks :
    let s := "\x7b stream.season :: > 0 [ \"S\\\"\x7bstream.season\x7d\" || \"\"]\x7d"
    let t : Template := ⟨[.choice ⟨0, "S\\\"\x7bstream.season\x7d", ""⟩ ⟨.stream, "season"⟩
      (.compare .gt "0") [.literal "S\"", .value ⟨29, "", ""⟩ ⟨.stream, "season"⟩] []], s⟩
    Template.parse s (32 : Nat) = .ok t ∧
      ∃ u, Template.parse t.text (32 : Nat) = .ok u ∧ u.same t = true := by
  intro s t
  have h : Template.parse s (32 : Nat) = .ok t := by cbv
  refine ⟨h, (parse_text_of_parse h).2.2 ?_⟩
  simp [t, Node.UnfusedAll, Node.Unfused, Condition.Fuses]

/-- The blank in front of the operand `=0` is all that keeps it apart from its operator. -/
theorem exists_parse_text_not_same :
    ¬ ∀ (s : String) (limit : Nat) (t : Template), Template.parse s limit = .ok t →
      ∃ u, Template.parse t.text limit = .ok u ∧ u.same t = true := by
  intro h
  let s := "\x7bstream.season::> =0[\"a\"||\"b\"]\x7d"
  let t : Template := ⟨[.choice ⟨0, "a", "b"⟩ ⟨.stream, "season"⟩ (.compare .gt "=0")
    [.literal "a"] [.literal "b"]], s⟩
  have hparse : Template.parse s (32 : Nat) = .ok t := by cbv
  have hunfused : Node.UnfusedAll t.nodes :=
    (exists_parse_text_same_iff (regularAll_of_parse hparse) (depth_le_of_parse hparse)).1
      (h s 32 t hparse)
  exact hunfused.1.1 ⟨.inl rfl, by decide⟩

end StreamLabel
