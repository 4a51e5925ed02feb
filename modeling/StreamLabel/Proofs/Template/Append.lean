import StreamLabel.Proofs.Template.Sequence
import StreamLabel.Proofs.Template.Shift
import StreamLabel.Proofs.Template.Source

/-!
# Texts one after the other

What a layout says of a text does not change when more text follows, since a layout of the top level
never looks past its end: where the text of a layout has been read, reading goes on with the text
behind it, whatever that is (`readFrom_layout`). The two readings meet in one place only, where
literal text runs on from the first into the second (`Node.join`).
-/

namespace StreamLabel
open Unicode Reader Cursor Layout

namespace Node

/-- The nodes of one text and those of the next. Literals that meet become one. -/
def join : List Node → List Node → List Node
  | [], ms => ms
  | [.literal s], .literal t :: ms => .literal (s ++ t) :: ms
  | n :: ns, ms => n :: join ns ms

variable {n : Node} {ns ms : List Node} {text later : List Char}

theorem join_cons (hn : ∀ s, n ≠ .literal s) : join (n :: ns) ms = n :: join ns ms := by
  cases n with
  | literal s => exact absurd rfl (hn s)
  | value o ref => rfl
  | formatted o ref f => rfl
  | choice o ref k yes no => rfl

theorem join_flush_cons (hn : ∀ s, n ≠ .literal s) :
    join (flush text (n :: ns)) ms = flush text (n :: join ns ms) := by
  unfold flush
  split
  · exact join_cons hn
  · rw [← join_cons hn]; rfl

/-- Text that was left over becomes the front of the next literal. -/
theorem join_flush_flush (hms : ∀ s ms', ms ≠ .literal s :: ms') :
    join (flush text []) (flush later ms) = flush (later ++ text) ms := by
  cases text with
  | nil => rw [List.append_nil]; rfl
  | cons t ts =>
    cases later with
    | nil =>
      cases ms with
      | nil => rfl
      | cons m ms =>
        cases m with
        | literal s => exact absurd rfl (hms s ms)
        | value o ref => rfl
        | formatted o ref f => rfl
        | choice o ref k yes no => rfl
    | cons l ls => simp [flush, join, ← String.ofList_append]

end Node

variable {c d : Cursor} {n : Nat} {ph : Reader Node} {text later : List Char}

theorem Slot.ne_literal {node : Node} (h : Slot n c d node) (s : String) : node ≠ .literal s := by
  cases h <;> simp

/-- Literal text in front of the place where the reading goes on is put in front of its result. -/
theorem readFrom_append (hph : ReadsSlots ph n) (c : Cursor) (later text : List Char) :
    readFrom ph none c (later ++ text) = (do
      let (ns, stop) ← readFrom ph none c later
      .ok (Node.join (flush text []) ns, stop)) := by
  obtain ⟨pos, rest⟩ := c
  induction rest generalizing pos later with
  | nil =>
    have hend : AtEnd none ⟨pos, []⟩ := rfl
    rw [readFrom_end hend, readFrom_end hend, ← Node.join_flush_flush (by simp)]
    rfl
  | cons x cs ih =>
    have hx : Cursor.Spans ⟨pos, x :: cs⟩ [x] ⟨pos + 1, cs⟩ := Spans.of_cons rfl
    by_cases hbrace : x = '\x7b'
    · subst hbrace
      rw [readFrom_brace hx, readFrom_brace hx]
      cases hnode : ph ⟨pos, '\x7b' :: cs⟩ with
      | error f => rfl
      | ok out =>
        obtain ⟨node, next⟩ := out
        have hne := ((hph hx).1 hnode).ne_literal
        simp only [bind, Except.bind]
        rcases sequence ph none (pos + 1) cs (next.pos - pos - 1) [] with f | ⟨ns, stop⟩
        · rfl
        · dsimp only
          rw [← Node.join_flush_flush fun s ms h => hne s (List.cons.inj h).1]
    · have hplain : ∀ text, readFrom ph none ⟨pos, x :: cs⟩ text =
          readFrom ph none ⟨pos + 1, cs⟩ (x :: text) := by
        intro text
        rw [readFrom_unit (.plain x) hx ⟨hbrace, by simp⟩]
        rfl
      rw [hplain, hplain]
      exact ih (x :: later) (pos + 1)

/-- By induction along the layout: each run of text and each placeholder of it is read as if nothing
followed, and text at its end is left over. -/
theorem readFrom_layout (hph : ReadsSlots ph n) {l : Layout} (hok : l.Ok false) (hl : l.depth ≤ n)
    (htext : text ≠ [] → ¬ l.IsText) (h : c.Spans l.chars d) :
    readFrom ph none c text = (do
      let (ns, stop) ← readFrom ph none d []
      .ok (Node.join (flush text (l.nodesAt c.pos)) ns, stop)) := by
  refine Layout.induct_along
    (P := fun l c => ∀ text, (text ≠ [] → ¬ l.IsText) →
      readFrom ph none c text = (do
        let (ns, stop) ← readFrom ph none d []
        .ok (Node.join (flush text (l.nodesAt c.pos)) ns, stop)))
    (fun text _ => readFrom_append hph d [] text) ?_ ?_ hok hl h text htext
  · intro us rest c₀ c₁ hne hus hrest h₁ h₂ ih text htext
    obtain rfl : text = [] := Classical.byContradiction fun ht => htext ht trivial
    have hus' : TextUnit.AllOk (Option.isSome (none : Option Nat)) c₁.rest us :=
      hus.congr (by simp)
    rw [readFrom_units h₁ hus', List.append_nil, ih _ fun _ => hrest, nodesAt, h₁.pos]
    simp [flush, TextUnit.allValues, hne]
  · intro l rest c₀ c₁ node hslot hnodes ih text _
    rw [readFrom_slot hph hslot, ih [] (by simp), hnodes]
    rcases readFrom ph none d [] with f | ⟨ms, stop⟩
    · rfl
    · simp only [bind, Except.bind, Node.join_flush_cons hslot.ne_literal]
      rfl

theorem template_append {limit : Int} {as : List Char} {ns : List Node} {stop : Cursor}
    (h : Reader.template limit as = .ok (ns, stop)) (bs : List Char) :
    Reader.template limit (as ++ bs) = (do
      let (ms, stop) ← shifted as.length (Node.shiftAll as.length) (Reader.template limit bs)
      .ok (Node.join ns ms, stop)) := by
  obtain ⟨l, hok, hdepth, rfl, rfl, -⟩ := template_eq_ok_iff.1 h
  have hph : ReadsSlots (placeholder (branch limit limit.toNat)) limit.toNat :=
    ReadsBranches.readsSlots (readsBranches limit limit.toNat)
  have hspans : Cursor.Spans ⟨0, l.chars ++ bs⟩ l.chars ⟨l.chars.length, bs⟩ := ⟨rfl, by simp⟩
  have htext : ([] : List Char) ≠ [] → ¬ l.IsText := by simp
  have hread := readFrom_layout hph hok hdepth htext hspans
  have hshift := sequence_shift none
    (placeholder_later (branch_later (k := l.chars.length) limit limit.toNat)) 0 bs 0 []
  rw [Nat.zero_add, Option.map_none] at hshift
  exact hread.trans (by rw [readFrom, hshift]; rfl)

theorem parse_append_eq {a : String} {limit : Int} {t : Template}
    (h : Template.parse a limit = .ok t) (b : String) :
    Template.parse (a ++ b) limit =
      match Template.parse b limit with
      | .ok u => .ok ⟨Node.join t.nodes (Node.shiftAll a.length u.nodes), a ++ b⟩
      | .error e => .error ⟨e.cause, a.length + e.position, a.utf8ByteSize + e.byteOffset⟩ := by
  obtain ⟨stop, hread⟩ : ∃ stop, Reader.template limit a.toList = .ok (t.nodes, stop) := by
    rw [Template.parse] at h
    split at h
    · rename_i ns stop hns
      cases h
      exact ⟨stop, hns⟩
    · simp at h
  rw [Template.parse, Template.parse, String.toList_append, template_append hread]
  rcases Reader.template limit b.toList with f | ⟨ms, stop'⟩
  · simp only [shifted, bind, Except.bind, Fault.shift, String.length_toList]
    rw [Nat.add_comm f.position, ← String.length_toList, List.take_length_add_append,
      utf8Length_append, utf8Length_toList]
  · simp only [shifted, bind, Except.bind, String.length_toList]

end StreamLabel
