import StreamLabel.Proofs.Template.Sequence

/-!
# Where reading breaks off

A reading that fails has come to a place between two parts of a sequence: it has passed units of text,
whole placeholders, and the quotes of the branches that are still open (`Reaches`). There the next
part cannot be read (`Breaks`, with one rule for each kind of fault). The rules keep all of the text
from the place on that has been read, so what stands at the position of a fault, and what is open
there, can be read off them.
-/

namespace StreamLabel
open Unicode Reader Cursor Layout

variable {c d e : Cursor} {start n : Nat} {f : Fault}

/-! ### Places and faults -/

/-- From its brace at `c`, a placeholder has been read to the bracket `b` of its branches. -/
structure BracketAt (p : Front) (k : Cond) (c b : Cursor) : Prop where
  spans : c.Spans (p.chars ++ k.chars) b
  bracket : b.startsWith "[" = true

/-- From its brace at `c`, a placeholder has been read to the quote `d` of one of its branches. -/
inductive EntersBranch (n : Nat) (c d : Cursor) : Prop
  | intro (p : Front) (k : Cond) {b : Cursor} {part : ListPart} (h : BracketAt p k c b)
      (hl : ListTo n b part d) (hpart : part.next = "\"") (hd : d.startsWith "\"" = true)

/-- All of a placeholder but its closing brace stands between `c` and `d`. -/
inductive Unbraced (n : Nat) (c d : Cursor) : Prop
  | value (r : Ref) (b : Blanks) (h : c.Spans ('\x7b' :: (r.chars ++ b.chars)) d)
  | formatted (p : Front) (name : Name) (b : Blanks)
      (h : c.Spans (p.chars ++ (name.chars ++ b.chars)) d)
  | choice (p : Front) (k : Cond) (blanks : Blanks) {b e : Cursor} (h : BracketAt p k c b)
      (hl : ListTo n b .no e) (hd : e.Spans (']' :: blanks.chars) d)

/-- A placeholder that cannot be read from its brace at `c` on, while the faults of its branches are
left aside. -/
inductive SlotBreaks (n : Nat) (c : Cursor) : Fault → Prop
  | reference {d : Cursor} {f : Fault} (h : c.Spans ['\x7b'] d) (hf : ReferenceBreaks c.pos d f) :
      SlotBreaks n c f
  | modifier (p : Front) {d : Cursor} {f : Fault} (h : c.Spans p.chars d) (hd : Stops isBlank d.rest)
      (hf : ModifierBreaks c.pos d f) : SlotBreaks n c f
  | list (p : Front) (k : Cond) {b d : Cursor} {part : ListPart} (h : BracketAt p k c b)
      (hl : ListTo n b part d) (hd : Stops isBlank d.rest) (hm : d.startsWith part.next = false) :
      SlotBreaks n c (branchesFault b.pos part.cause d)
  | brace {d : Cursor} (h : Unbraced n c d) (hd : Stops isBlank d.rest)
      (hm : d.startsWith "\x7d" = false) : SlotBreaks n c (placeholderFault c.pos .brace d)

/-- Reading from `c` on comes to `d`: from a sequence whose branches may have `n` levels, ended as
`quote` says, into one whose branches may have `m` levels, ended as `quote'` says. -/
inductive Reaches : (n : Nat) → (quote : Option Nat) → (c : Cursor) →
    (m : Nat) → (quote' : Option Nat) → (d : Cursor) → Prop
  | here {n : Nat} {quote : Option Nat} {c : Cursor} : Reaches n quote c n quote c
  | unit {n m : Nat} {quote quote' : Option Nat} {c d e : Cursor} {u : TextUnit}
      (h : c.Spans u.chars d) (hu : u.Ok quote.isSome d.rest) (hr : Reaches n quote d m quote' e) :
      Reaches n quote c m quote' e
  | slot {n m : Nat} {quote quote' : Option Nat} {c d e : Cursor} {node : Node}
      (h : Slot n c d node) (hr : Reaches n quote d m quote' e) : Reaches n quote c m quote' e
  | branch {n m : Nat} {quote quote' : Option Nat} {c d d' e : Cursor}
      (h : EntersBranch (n + 1) c d) (hd : d.Spans ['"'] d')
      (hr : Reaches n (some d.pos) d' m quote' e) : Reaches (n + 1) quote c m quote' e

/-- What follows `c` in a sequence is neither its end nor a part of it. -/
inductive Breaks (limit : Int) (n : Nat) (quote : Option Nat) (c : Cursor) : Fault → Prop
  | openBranch {q : Nat} (hq : quote = some q) (hc : c.rest = []) :
      Breaks limit n quote c ⟨.openBranch, q⟩
  | slot {f : Fault} (h : SlotBreaks n c f) : Breaks limit n quote c f
  | tooDeep {d : Cursor} (hn : n = 0) (h : EntersBranch n c d) :
      Breaks limit n quote c ⟨.tooDeep limit, d.pos⟩

/-! ### Placeholders -/

variable {branch : Reader (List Node × String)}

theorem closing_breaks {ref : Reference} {found : Reader.Modifier} {node : Node}
    (hnode : found.build start ref = .ok node) (h : closing start ref found c = .error f) :
    ∃ (b : Blanks) (d : Cursor), c.Spans b.chars d ∧ Stops isBlank d.rest ∧
      d.startsWith "\x7d" = false ∧ f = placeholderFault start .brace d := by
  obtain ⟨b, hb⟩ := exists_blanks c
  rw [closing, hnode] at h
  split at h
  · cases h
  · rename_i hm
    cases h
    exact ⟨b, _, hb, stops_skipWhile isBlank c, by simpa using hm, rfl⟩

/-- A placeholder that cannot be read breaks off outside its branches, or in one of them. -/
theorem placeholder_breaks (hb : ReadsBranches branch n) (hc : c.Spans ['\x7b'] e)
    (h : placeholder branch c = .error f) :
    SlotBreaks n c f ∨ ∃ d, EntersBranch n c d ∧ branch d = .error f := by
  rcases placeholder_cases branch hc with
    ⟨f', hf, heq⟩ | ⟨r, b, d, h₁, heq⟩ | ⟨p, d, h₁, hd, heq⟩
  · obtain rfl : f' = f := Except.error.inj (heq.symm.trans h)
    exact .inl (.reference hc hf)
  · obtain ⟨b', e, h₂, he, hm, rfl⟩ := closing_breaks rfl (heq ▸ h)
    exact .inl (.brace (.value r (b.append b') (by simpa using h₁.trans h₂)) he hm)
  rcases bind_eq_error.1 (heq ▸ h) with h | ⟨⟨m, c₄⟩, hm, h⟩
  · rcases modifier_breaks hb h with hf | ⟨k, b, hk, hbracket, hf⟩
    · exact .inl (.modifier p h₁ hd hf)
    have hlist : BracketAt p k c b := ⟨h₁.trans hk, hbracket⟩
    cases hf with
    | part hl hd hm => exact .inl (.list p k hlist hl hd hm)
    | branch hl hpart hd hf => exact .inr ⟨_, .intro p k hlist hl hpart hd, hf⟩
  have hmodifier := modifier_sound hb hm
  obtain ⟨node, hnode⟩ := hmodifier.exists_build c.pos p.ref.reference
  obtain ⟨b₃, e, h₂, he, hmiss, rfl⟩ := closing_breaks hnode h
  refine .inl (.brace ?_ he hmiss)
  cases hmodifier with
  | format name b h₃ =>
    exact .formatted p name (b.append b₃) (by simpa using h₁.trans (h₃.trans h₂))
  | choice k h₃ h₄ hy h₅ hn h₆ =>
    obtain ⟨a₀, ha₀, -⟩ := spans_cons_iff.1 h₄
    obtain ⟨a₁, ha₁, ha₂⟩ := spans_append_iff.1 h₅
    obtain ⟨a₃, ha₃, ha₄⟩ := spans_append_iff.1 h₆
    exact .choice p k b₃ ⟨h₁.trans h₃, startsWith_iff.2 ⟨a₀, ha₀⟩⟩
      (.no (.bars (.yes (.bracket _ h₄) hy _ ha₁) _ ha₂) hn _ ha₃) (ha₄.cons h₂)

/-! ### Sequences -/

variable {quote : Option Nat} {text : List Char}

theorem Reaches.trans {m k : Nat} {quote' quote'' : Option Nat} (h : Reaches n quote c m quote' d)
    (h' : Reaches m quote' d k quote'' e) : Reaches n quote c k quote'' e := by
  induction h with
  | here => exact h'
  | unit hc hu _ ih => exact .unit hc hu (ih h')
  | slot hc _ ih => exact .slot hc (ih h')
  | branch hc hd _ ih => exact .branch hc hd (ih h')

/-- A sequence that cannot be read breaks off behind some of its parts: at the end of the text, at a
placeholder, or in a branch of a placeholder. -/
theorem readFrom_breaks (hb : ReadsBranches branch n)
    (h : readFrom (placeholder branch) quote c text = .error f) :
    ∃ d, Reaches n quote c n quote d ∧
      ((∃ q, quote = some q ∧ d.rest = [] ∧ f = ⟨.openBranch, q⟩) ∨ SlotBreaks n d f ∨
        ∃ e, EntersBranch n d e ∧ branch e = .error f) := by
  -- every unit and every placeholder leaves less text
  induction hm : c.rest.length using Nat.strong_induction_on generalizing c text with
  | _ m ih =>
    rcases exists_next quote c with hend | ⟨q, rfl, hnil⟩ | ⟨u, d, hu, hok⟩ | ⟨d, hbrace⟩
    · rw [readFrom_end hend] at h
      simp at h
    · rw [readFrom, hnil] at h
      cases h
      exact ⟨c, .here, .inl ⟨q, rfl, hnil, rfl⟩⟩
    · have hlt : d.rest.length < m := by
        have := List.length_pos_iff.2 u.chars_ne_nil
        rw [← hm, hu.rest, List.length_append]
        omega
      rw [readFrom_unit u hu hok] at h
      obtain ⟨e, he, hf⟩ := ih _ hlt h rfl
      exact ⟨e, .unit hu hok he, hf⟩
    · rw [readFrom_brace hbrace] at h
      rcases bind_eq_error.1 h with h | ⟨⟨node, next⟩, hnode, h⟩
      · exact ⟨c, .here, .inr (placeholder_breaks hb hbrace h)⟩
      have hslot := (placeholder_eq_ok_iff hb hbrace).1 hnode
      rcases bind_eq_error.1 h with h | ⟨_, _, h⟩
      · rw [sequence_slot hslot hbrace] at h
        obtain ⟨e, he, hf⟩ := ih _ (hm ▸ hslot.rest_lt) h rfl
        exact ⟨e, .slot hslot he, hf⟩
      · simp at h

theorem EntersBranch.startsWith (h : EntersBranch n c d) : d.startsWith "\"" = true := by
  obtain ⟨-, -, -, -, -, hd⟩ := h
  exact hd

theorem branch_eq_error_iff {limit : Int} (h : d.Spans ['"'] e) :
    Reader.branch limit (n + 1) d = .error f ↔
      readFrom (placeholder (Reader.branch limit n)) (some d.pos) e [] = .error f := by
  have hrest : d.rest.drop 1 = e.rest := by rw [h.rest]; rfl
  have hpos : d.pos + 1 = e.pos := h.pos.symm
  simp only [Reader.branch, hrest, hpos, bind_eq_error, readFrom]
  simp

/-- Every fault of a sequence is one of those that `Breaks` lists, at a place that is reached. By
induction on the levels that branches may have. -/
theorem exists_breaks (limit : Int)
    (h : readFrom (placeholder (Reader.branch limit n)) quote c text = .error f) :
    ∃ (m : Nat) (quote' : Option Nat) (d : Cursor),
      Reaches n quote c m quote' d ∧ Breaks limit m quote' d f := by
  induction n generalizing quote c text with
  | zero =>
    obtain ⟨d, hd, ⟨q, hq, hnil, rfl⟩ | hslot | ⟨e, he, h⟩⟩ := readFrom_breaks (readsBranches limit 0) h
    · exact ⟨0, quote, d, hd, .openBranch hq hnil⟩
    · exact ⟨0, quote, d, hd, .slot hslot⟩
    · cases h
      exact ⟨0, quote, d, hd, .tooDeep rfl he⟩
  | succ n ih =>
    obtain ⟨d, hd, ⟨q, hq, hnil, rfl⟩ | hslot | ⟨e, he, h⟩⟩ :=
      readFrom_breaks (readsBranches limit (n + 1)) h
    · exact ⟨n + 1, quote, d, hd, .openBranch hq hnil⟩
    · exact ⟨n + 1, quote, d, hd, .slot hslot⟩
    · obtain ⟨e', he'⟩ := startsWith_iff.1 he.startsWith
      obtain ⟨m, quote', d', hd', hf⟩ := ih ((branch_eq_error_iff he').1 h)
      exact ⟨m, quote', d', hd.trans (.branch he he' hd'), hf⟩

end StreamLabel
