import StreamLabel.Proofs.Template.Placeholder

/-!
# Reading sequences

`Reader.sequence` reads the text of a layout, unit by unit and placeholder by placeholder, up to the
end of the text or the quote that closes the branch (`readFrom_eq`), and reads nothing else
(`exists_layout`). By induction on the levels left, so does `Reader.branch`, and `parse` accepts the
texts that a layout derives and returns the tree of the layout (`parse_eq_ok_iff`).
-/

namespace StreamLabel
open Unicode Reader Cursor Layout

variable {c d e : Cursor} {n : Nat} {ph : Reader Node} {quote : Option Nat} {text : List Char}

namespace TextUnit
variable {inBranch : Bool} {us : List TextUnit} {next next' : List Char}

@[simp] theorem allChars_nil : allChars [] = [] := rfl

@[simp] theorem allChars_cons (u : TextUnit) : allChars (u :: us) = u.chars ++ allChars us := rfl

@[simp] theorem allValues_cons (u : TextUnit) : allValues (u :: us) = u.value :: allValues us := rfl

/-- Of the text behind it, a unit sees the first character, and inside a branch only. -/
theorem Ok.congr {u : TextUnit} (h : inBranch = true → next.head? = next'.head?)
    (hu : u.Ok inBranch next) : u.Ok inBranch next' := by
  cases u with
  | plain x =>
    refine ⟨hu.1, fun hb => ⟨(hu.2 hb).1, fun hx => ?_⟩⟩
    have := (hu.2 hb).2 hx
    rwa [Stops, h hb] at this
  | escaped x => exact hu

theorem AllOk.congr (h : inBranch = true → next.head? = next'.head?)
    (hus : AllOk inBranch next us) : AllOk inBranch next' us := by
  induction us with
  | nil => trivial
  | cons u us ih =>
    refine ⟨hus.1.congr fun hb => ?_, ih hus.2⟩
    simp [List.head?_append, h hb]

end TextUnit

/-! ### Steps -/

/-- Reading on from a cursor, with `text` since the last placeholder. -/
def readFrom (ph : Reader Node) (quote : Option Nat) (c : Cursor) (text : List Char) :
    Except Fault (List Node × Cursor) :=
  sequence ph quote c.pos c.rest 0 text

/-- Nothing is left, or the quote that closes the branch comes next. -/
def AtEnd (quote : Option Nat) (d : Cursor) : Prop :=
  if quote.isSome then d.startsWith "\"" = true else d.rest = []

/-- From a brace on, `ph` reads the placeholders whose branches have less than `n` levels. -/
def ReadsSlots (ph : Reader Node) (n : Nat) : Prop :=
  ∀ {c d e : Cursor} {node : Node}, c.Spans ['\x7b'] e →
    (ph c = .ok (node, d) ↔ Slot n c d node)

theorem sequence_skip {xs : List Char} (h : c.Spans xs d) :
    sequence ph quote c.pos c.rest xs.length text = readFrom ph quote d text := by
  induction xs generalizing c with
  | nil => rw [spans_nil_iff.1 h]; rfl
  | cons x xs ih =>
    obtain ⟨c₁, h₁, h₂⟩ := spans_cons_iff.1 h
    rw [h₁.rest, List.length_cons, List.singleton_append, Reader.sequence, ← ih h₂, h₁.pos]
    rfl

theorem escaped?_eq_some_iff {cs : List Char} {y : Char} :
    escaped? cs = some y ↔ ∃ r, cs = '\\' :: y :: r ∧ isEscapable y = true := by
  unfold escaped?
  split
  · rename_i z r
    split
    · rename_i hz
      constructor
      · rintro h
        obtain rfl := Option.some.inj h
        exact ⟨r, rfl, hz⟩
      · rintro ⟨r', h, -⟩
        cases h
        rfl
    · rename_i hz
      constructor
      · simp
      · rintro ⟨r', h, hy⟩
        cases h
        exact absurd hy hz
  · rename_i hne
    constructor
    · simp
    · rintro ⟨r, rfl, -⟩
      exact (hne y r rfl).elim

/-- One step at a character: an escape, the closing quote, a placeholder or literal text. -/
theorem readFrom_cons {x : Char} (h : c.Spans [x] d) :
    readFrom ph quote c text =
      match (if quote.isSome then escaped? c.rest else none) with
      | some y => sequence ph quote d.pos d.rest 1 (y :: text)
      | none =>
        if quote.isSome ∧ x = '"' then .ok (flush text [], c)
        else if x = '\x7b' then do
          let (node, next) ← ph c
          let (nodes, stop) ← sequence ph quote d.pos d.rest (next.pos - c.pos - 1) []
          .ok (flush text (node :: nodes), stop)
        else readFrom ph quote d (x :: text) := by
  obtain ⟨pos, rest⟩ := c
  obtain ⟨pos', rest'⟩ := d
  obtain rfl : rest = x :: rest' := h.rest
  obtain rfl : pos' = pos + 1 := h.pos
  rfl

theorem readFrom_end (h : AtEnd quote d) : readFrom ph quote d text = .ok (flush text [], d) := by
  cases quote with
  | none =>
    obtain ⟨pos, rest⟩ := d
    obtain rfl : rest = [] := h
    rfl
  | some q =>
    obtain ⟨e, he⟩ := startsWith_iff.1 h
    have hnone : escaped? d.rest = none := by
      rw [he.rest]; rfl
    rw [readFrom_cons (x := '"') he, Option.isSome_some, if_pos rfl, hnone]
    rfl

theorem readFrom_unit (u : TextUnit) (h : c.Spans u.chars d) (hu : u.Ok quote.isSome d.rest) :
    readFrom ph quote c text = readFrom ph quote d (u.value :: text) := by
  cases u with
  | plain x =>
    have hnone : (if quote.isSome then escaped? c.rest else none) = none := by
      split
      · rename_i hq
        rw [Option.eq_none_iff_forall_ne_some]
        intro y hy
        obtain ⟨r, hr, hesc⟩ := escaped?_eq_some_iff.1 hy
        obtain ⟨rfl, hd⟩ := List.cons.inj (h.rest.symm.trans hr)
        replace hd : d.rest = y :: r := hd
        have := (hu.2 hq).2 rfl
        rw [hd, Stops.cons_iff, hesc] at this
        simp at this
      · rfl
    have hquote : ¬ (quote.isSome = true ∧ x = '"') := fun ⟨hq, hx⟩ => (hu.2 hq).1 hx
    rw [readFrom_cons h, hnone]
    simp only [hquote, hu.1, ↓reduceIte]
    rfl
  | escaped x =>
    obtain ⟨hq, hx⟩ := hu
    obtain ⟨c₁, h₁, h₂⟩ := spans_cons_iff.1 h
    have hsome : escaped? c.rest = some x := escaped?_eq_some_iff.2 ⟨_, h.rest, hx⟩
    rw [readFrom_cons h₁, if_pos hq, hsome]
    exact sequence_skip h₂

theorem readFrom_units {us : List TextUnit} (h : c.Spans (TextUnit.allChars us) d)
    (hus : TextUnit.AllOk quote.isSome d.rest us) :
    readFrom ph quote c text = readFrom ph quote d ((TextUnit.allValues us).reverse ++ text) := by
  induction us generalizing c text with
  | nil => rw [spans_nil_iff.1 h]; rfl
  | cons u us ih =>
    obtain ⟨c₁, h₁, h₂⟩ := spans_append_iff.1 h
    rw [readFrom_unit u h₁ (by rw [h₂.rest]; exact hus.1), ih h₂ hus.2]
    simp

theorem Slot.exists_spans {node : Node} (h : Slot n c d node) :
    ∃ xs e, c.Spans ['\x7b'] e ∧ e.Spans xs d := by
  cases h with
  | value ref b h =>
    obtain ⟨e, h₁, h₂⟩ := spans_cons_iff.1 h
    exact ⟨_, e, h₁, h₂⟩
  | formatted ref b₁ b₂ name b₃ h =>
    obtain ⟨e, h₁, h₂⟩ := spans_cons_iff.1 h
    exact ⟨_, e, h₁, h₂⟩
  | choice f h hy h₃ hn h₄ =>
    obtain ⟨e, h₁, h₂⟩ := spans_cons_iff.1 h
    exact ⟨_, e, h₁, h₂.trans (hy.spans.trans (h₃.trans (hn.spans.trans h₄)))⟩

/-- A brace is neither an escape nor a quote. -/
theorem readFrom_brace (h : c.Spans ['\x7b'] e) :
    readFrom ph quote c text = (do
      let (node, next) ← ph c
      let (nodes, stop) ← sequence ph quote e.pos e.rest (next.pos - c.pos - 1) []
      .ok (flush text (node :: nodes), stop)) := by
  have hnone : (if quote.isSome then escaped? c.rest else none) = none := by
    rw [h.rest]
    cases quote <;> rfl
  rw [readFrom_cons h, hnone]
  simp

theorem sequence_behind {x : Char} {xs : List Char} (he : c.Spans [x] e) (h : e.Spans xs d) :
    sequence ph quote e.pos e.rest (d.pos - c.pos - 1) text = readFrom ph quote d text := by
  have hlen : d.pos - c.pos - 1 = xs.length := by
    rw [h.pos, he.pos]; simp; omega
  rw [hlen, sequence_skip h]

theorem sequence_slot {node : Node} (h : Slot n c d node) (he : c.Spans ['\x7b'] e) :
    sequence ph quote e.pos e.rest (d.pos - c.pos - 1) text = readFrom ph quote d text := by
  obtain ⟨xs, e', h₁, h₂⟩ := h.exists_spans
  obtain rfl := h₁.eq_right he
  exact sequence_behind h₁ h₂

/-- A placeholder is one node, and the text before it a literal of its own. -/
theorem readFrom_slot (hph : ReadsSlots ph n) {node : Node} (h : Slot n c d node) :
    readFrom ph quote c text = (do
      let (ns, stop) ← readFrom ph quote d []
      .ok (flush text (node :: ns), stop)) := by
  obtain ⟨xs, e, he, -⟩ := h.exists_spans
  rw [readFrom_brace he, (hph he).2 h]
  simp only [bind, Except.bind, sequence_slot h he]

/-- What can stand at a place in a sequence: its end, the end of the text inside a branch, a unit of
literal text, or a brace. -/
theorem exists_next (quote : Option Nat) (c : Cursor) :
    AtEnd quote c ∨ (∃ q, quote = some q ∧ c.rest = []) ∨
      (∃ (u : TextUnit) (d : Cursor), c.Spans u.chars d ∧ u.Ok quote.isSome d.rest) ∨
      ∃ d, c.Spans ['\x7b'] d := by
  cases hrest : c.rest with
  | nil =>
    cases quote with
    | none => exact .inl hrest
    | some q => exact .inr (.inl ⟨q, rfl, rfl⟩)
  | cons x r =>
    have hx : c.Spans [x] ⟨c.pos + 1, r⟩ := Spans.of_cons hrest
    by_cases hbrace : x = '\x7b'
    · subst hbrace
      exact .inr (.inr (.inr ⟨_, hx⟩))
    by_cases hquote : quote.isSome = true ∧ x = '"'
    · obtain ⟨hq, rfl⟩ := hquote
      refine .inl ?_
      rw [AtEnd, if_pos hq]
      exact startsWith_iff.2 ⟨_, hx⟩
    by_cases hescape : quote.isSome = true ∧ ∃ y, escaped? c.rest = some y
    · obtain ⟨hq, y, hy⟩ := hescape
      obtain ⟨r', hr', hesc⟩ := escaped?_eq_some_iff.1 hy
      exact .inr (.inr (.inl ⟨.escaped y, _, Spans.of_rest hr', hq, hesc⟩))
    · refine .inr (.inr (.inl ⟨.plain x, _, hx, hbrace, fun hq => ⟨fun h => hquote ⟨hq, h⟩, ?_⟩⟩))
      rintro rfl y hy
      obtain ⟨r', rfl⟩ := List.head?_eq_some_iff.1 hy
      rw [Bool.eq_false_iff]
      exact fun hesc => hescape ⟨hq, y, escaped?_eq_some_iff.2 ⟨r', hrest, hesc⟩⟩

/-- How reading on can end well. -/
theorem readFrom_sound (hph : ReadsSlots ph n) {ns : List Node} {stop : Cursor}
    (h : readFrom ph quote c text = .ok (ns, stop)) :
    (AtEnd quote c ∧ stop = c ∧ ns = flush text []) ∨
    (∃ (u : TextUnit) (d : Cursor), c.Spans u.chars d ∧ u.Ok quote.isSome d.rest ∧
      readFrom ph quote d (u.value :: text) = .ok (ns, stop)) ∨
    (∃ (node : Node) (d : Cursor) (ns' : List Node), Slot n c d node ∧
      readFrom ph quote d [] = .ok (ns', stop) ∧ ns = flush text (node :: ns')) := by
  rcases exists_next quote c with hend | ⟨q, rfl, hnil⟩ | ⟨u, d, hu, hok⟩ | ⟨d, hbrace⟩
  · rw [readFrom_end hend] at h
    simp only [Except.ok.injEq, Prod.mk.injEq] at h
    exact .inl ⟨hend, h.2.symm, h.1.symm⟩
  · rw [readFrom, hnil] at h
    simp [Reader.sequence] at h
  · rw [readFrom_unit u hu hok] at h
    exact .inr (.inl ⟨u, d, hu, hok, h⟩)
  · rw [readFrom_brace hbrace] at h
    obtain ⟨⟨node, e⟩, hnode, h⟩ := bind_eq_ok.1 h
    obtain ⟨⟨ns', stop'⟩, hns, h⟩ := bind_eq_ok.1 h
    have hslot := (hph hbrace).1 hnode
    rw [sequence_slot hslot hbrace] at hns
    simp only [Except.ok.injEq, Prod.mk.injEq] at h
    obtain ⟨rfl, rfl⟩ := h
    exact .inr (.inr ⟨node, e, ns', hslot, hns, rfl⟩)

/-! ### Layouts -/

theorem Slot.cons {inBranch : Bool} {node : Node} {l : Layout} (h : Slot n c d node)
    (hok : l.Ok inBranch) (hl : l.depth ≤ n) :
    ∃ l' : Layout, l'.Ok inBranch ∧ ¬ l'.IsText ∧ l'.depth ≤ n ∧
      (∀ e, d.Spans l.chars e → c.Spans l'.chars e) ∧
      l'.nodesAt c.pos = node :: l.nodesAt d.pos := by
  cases h with
  | value ref b h =>
    exact ⟨.value ref b l, hok, id, hl, fun e he => h.trans he, by rw [nodesAt, h.pos]⟩
  | formatted ref b₁ b₂ name b₃ h =>
    exact ⟨.formatted ref b₁ b₂ name b₃ l, hok, id, hl, fun e he => h.trans he,
      by rw [nodesAt, h.pos]⟩
  | @choice f c₁ c₂ c₃ c₄ yes no h₁ hy h₂ hn h₃ =>
    refine ⟨.choice f yes no l, ⟨hy.ok, hn.ok, hok⟩, id, ?_, fun e he => ?_, ?_⟩
    · have := hy.depth_lt
      have := hn.depth_lt
      simp only [Layout.depth]
      omega
    · exact h₁.trans (hy.spans.trans (h₂.trans (hn.spans.trans (h₃.trans he))))
    · simp only [nodesAt, Layout.readAt, h₃.pos, hn.spans.pos, h₂.pos, hy.spans.pos, h₁.pos]

/-- Induction along a layout from the cursor `c` where its text begins to the cursor `e` where it
ends: a run of text, or a placeholder, and then the rest of the layout from the cursor behind it. -/
theorem Layout.induct_along {inBranch : Bool} {P : Layout → Cursor → Prop} (done : P .done e)
    (text : ∀ {us : List TextUnit} {rest : Layout} {c d : Cursor}, us ≠ [] →
      TextUnit.AllOk inBranch (rest.chars ++ ['"']) us → ¬ rest.IsText →
      c.Spans (TextUnit.allChars us) d → d.Spans rest.chars e → P rest d → P (.text us rest) c)
    (slot : ∀ {l rest : Layout} {c d : Cursor} {node : Node}, Slot n c d node →
      l.nodesAt c.pos = node :: rest.nodesAt d.pos → P rest d → P l c)
    {l : Layout} (hok : l.Ok inBranch) (hl : l.depth ≤ n) (h : c.Spans l.chars e) : P l c := by
  induction l generalizing c with
  | done => rwa [← spans_nil_iff.1 h]
  | text us rest ih =>
    obtain ⟨hne, hus, hrest, hok⟩ := hok
    obtain ⟨d, h₁, h₂⟩ := spans_append_iff.1 h
    exact text hne hus hrest h₁ h₂ (ih hok hl h₂)
  | value ref b rest ih =>
    obtain ⟨d, h₁, h₂⟩ := spans_append_iff.1 h
    exact slot (.value ref b h₁) (by rw [nodesAt, h₁.pos]) (ih hok hl h₂)
  | formatted ref b₁ b₂ name b₃ rest ih =>
    obtain ⟨d, h₁, h₂⟩ := spans_append_iff.1 h
    exact slot (.formatted ref b₁ b₂ name b₃ h₁) (by rw [nodesAt, h₁.pos]) (ih hok hl h₂)
  | choice f yes no rest _ _ ih =>
    obtain ⟨hyes, hno, hok⟩ := hok
    obtain ⟨c₁, h₁, h⟩ := spans_append_iff.1 h
    obtain ⟨c₂, h₂, h⟩ := spans_append_iff.1 h
    obtain ⟨c₃, h₃, h⟩ := spans_append_iff.1 h
    obtain ⟨c₄, h₄, h⟩ := spans_append_iff.1 h
    obtain ⟨d, h₅, h₆⟩ := spans_append_iff.1 h
    simp only [Layout.depth] at hl
    refine slot (.choice f h₁ ⟨hyes, by omega, h₂⟩ h₃ ⟨hno, by omega, h₄⟩ h₅) ?_
      (ih hok (by omega) h₆)
    simp only [nodesAt, Layout.readAt, h₅.pos, h₄.pos, h₃.pos, h₂.pos, h₁.pos]

theorem readFrom_eq (hph : ReadsSlots ph n) {l : Layout} (hok : l.Ok quote.isSome)
    (hl : l.depth ≤ n) (htext : text ≠ [] → ¬ l.IsText) (h : c.Spans l.chars d)
    (hd : AtEnd quote d) :
    readFrom ph quote c text = .ok (flush text (l.nodesAt c.pos), d) := by
  refine Layout.induct_along
    (P := fun l c => ∀ text, (text ≠ [] → ¬ l.IsText) →
      readFrom ph quote c text = .ok (flush text (l.nodesAt c.pos), d))
    (fun _ _ => readFrom_end hd) ?_ ?_ hok hl h text htext
  · intro us rest c₀ c₁ hne hus hrest h₁ h₂ ih text htext
    obtain rfl : text = [] := Classical.byContradiction fun ht => htext ht trivial
    have hus' : TextUnit.AllOk quote.isSome c₁.rest us := by
      refine hus.congr fun hq => ?_
      rw [AtEnd, if_pos hq] at hd
      obtain ⟨e, he⟩ := startsWith_iff.1 hd
      rw [h₂.rest, he.rest]
      simp
    rw [readFrom_units h₁ hus', List.append_nil, ih _ fun _ => hrest, nodesAt, h₁.pos]
    simp [flush, TextUnit.allValues, hne]
  · intro l rest c₀ c₁ node hslot hnodes ih text _
    rw [readFrom_slot hph hslot, ih [] (by simp), hnodes]
    rfl

/-- Units in front of a layout that does not begin with text. -/
theorem exists_text {inBranch : Bool} {us : List TextUnit} {l : Layout}
    (hus : TextUnit.AllOk inBranch (l.chars ++ ['"']) us) (hok : l.Ok inBranch) (hl : ¬ l.IsText) :
    ∃ l' : Layout, l'.Ok inBranch ∧ l'.depth = l.depth ∧
      l'.chars = TextUnit.allChars us ++ l.chars ∧
      ∀ pos, l'.nodesAt pos =
        flush (TextUnit.allValues us).reverse (l.nodesAt (pos + (TextUnit.allChars us).length)) := by
  cases us with
  | nil => exact ⟨l, hok, rfl, rfl, fun pos => by simp [flush, TextUnit.allValues]⟩
  | cons u us =>
    refine ⟨.text (u :: us) l, ⟨by simp, hus, hl, hok⟩, rfl, rfl, fun pos => ?_⟩
    simp [nodesAt, flush]

theorem Slot.rest_lt {node : Node} (h : Slot n c d node) : d.rest.length < c.rest.length := by
  obtain ⟨xs, e, h₁, h₂⟩ := h.exists_spans
  rw [h₁.rest, h₂.rest]
  simp only [List.length_append, List.length_cons, List.length_nil]
  omega

theorem TextUnit.chars_ne_nil (u : TextUnit) : u.chars ≠ [] := by cases u <;> simp [TextUnit.chars]

/-- The text that follows a layout and the quote that is said to follow it begin alike. -/
theorem AtEnd.head?_append (h : AtEnd quote d) (xs : List Char) (hq : quote.isSome = true) :
    (xs ++ d.rest).head? = (xs ++ ['"']).head? := by
  rw [AtEnd, if_pos hq] at h
  obtain ⟨e, he⟩ := startsWith_iff.1 h
  rw [he.rest]
  simp

/-- What is read up to the end is units, and then a layout that does not begin with text. -/
theorem exists_units (hph : ReadsSlots ph n) {ns : List Node} {stop : Cursor}
    (h : readFrom ph quote c text = .ok (ns, stop)) :
    ∃ (us : List TextUnit) (l : Layout), TextUnit.AllOk quote.isSome (l.chars ++ ['"']) us ∧
      l.Ok quote.isSome ∧ ¬ l.IsText ∧ l.depth ≤ n ∧
      c.Spans (TextUnit.allChars us ++ l.chars) stop ∧ AtEnd quote stop ∧
      ns = flush ((TextUnit.allValues us).reverse ++ text)
        (l.nodesAt (c.pos + (TextUnit.allChars us).length)) := by
  -- every unit and every placeholder leaves less text
  induction hm : c.rest.length using Nat.strong_induction_on generalizing c text ns with
  | _ m ih =>
    rcases readFrom_sound hph h with
      ⟨hend, rfl, rfl⟩ | ⟨u, d, hu, hok, h⟩ | ⟨node, d, ns', hslot, hns, rfl⟩
    · exact ⟨[], .done, trivial, trivial, id, Nat.zero_le _, Spans.refl _, hend, rfl⟩
    · have hlt : d.rest.length < m := by
        have := List.length_pos_iff.2 u.chars_ne_nil
        rw [← hm, hu.rest, List.length_append]
        omega
      obtain ⟨us, l, hus, hl, htext, hdepth, hspans, hend, rfl⟩ := ih _ hlt h rfl
      refine ⟨u :: us, l, ⟨hok.congr fun hq => ?_, hus⟩, hl, htext, hdepth, ?_, hend, ?_⟩
      · rw [hspans.rest, ← List.append_assoc]
        exact hend.head?_append _ hq
      · rw [TextUnit.allChars_cons, List.append_assoc]
        exact hu.trans hspans
      · simp [hu.pos, Nat.add_assoc]
    · obtain ⟨us, l, hus, hl, htext, hdepth, hspans, hend, rfl⟩ :=
        ih _ (hm ▸ hslot.rest_lt) hns rfl
      obtain ⟨l₁, hl₁, hdepth₁, hchars, hnodes⟩ := exists_text hus hl htext
      obtain ⟨l₂, hl₂, htext₂, hdepth₂, hspans₂, hnodes₂⟩ := hslot.cons hl₁ (hdepth₁ ▸ hdepth)
      refine ⟨[], l₂, trivial, hl₂, htext₂, hdepth₂, hspans₂ _ (hchars ▸ hspans), hend, ?_⟩
      simp only [TextUnit.allValues, TextUnit.allChars, List.map_nil, List.reverse_nil,
        List.nil_append, List.flatMap_nil, List.length_nil, Nat.add_zero, List.append_nil, hnodes₂,
        hnodes]

theorem exists_layout (hph : ReadsSlots ph n) {ns : List Node} {stop : Cursor}
    (h : readFrom ph quote c [] = .ok (ns, stop)) :
    ∃ l : Layout, l.Ok quote.isSome ∧ l.depth ≤ n ∧ c.Spans l.chars stop ∧ AtEnd quote stop ∧
      ns = l.nodesAt c.pos := by
  obtain ⟨us, l, hus, hl, htext, hdepth, hspans, hend, rfl⟩ := exists_units hph h
  obtain ⟨l', hl', hdepth', hchars, hnodes⟩ := exists_text hus hl htext
  exact ⟨l', hl', hdepth' ▸ hdepth, hchars ▸ hspans, hend, by rw [hnodes, List.append_nil]⟩

/-! ### Branches -/

theorem ReadsBranches.readsSlots {branch : Reader (List Node × String)} (hb : ReadsBranches branch n) :
    ReadsSlots (placeholder branch) n :=
  fun hc => placeholder_eq_ok_iff hb hc

theorem readsBranches (limit : Int) (m : Nat) : ReadsBranches (branch limit m) m := by
  induction m with
  | zero =>
    intro c d out hc
    constructor
    · intro h
      simp [branch] at h
    · rintro ⟨l, hl, -⟩
      exact absurd hl.depth_lt (Nat.not_lt_zero _)
  | succ m ih =>
    intro c d out hc
    obtain ⟨c₁, h₁⟩ := startsWith_iff.1 hc
    have hpos : c.pos + 1 = c₁.pos := h₁.pos.symm
    have hrest : c.rest.drop 1 = c₁.rest := by rw [h₁.rest]; rfl
    simp only [branch, hpos, hrest]
    have hsource : ∀ {l : Layout} {stop : Cursor}, c₁.Spans l.chars stop →
        c₁.rest.take (stop.pos - c.pos - 1) = l.chars := by
      intro l stop hl
      have hlen : stop.pos - c.pos - 1 = l.chars.length := by
        rw [hl.pos, ← hpos]; omega
      rw [hlen, hl.rest, List.take_left]
    constructor
    · intro h
      obtain ⟨⟨ns, stop⟩, hseq, h⟩ := bind_eq_ok.1 h
      obtain ⟨l, hok, hdepth, hspans, hend, rfl⟩ := exists_layout ih.readsSlots hseq
      obtain ⟨e, he⟩ := startsWith_iff.1 hend
      have hskip : stop.skip 1 = e := he.skip_eq
      simp only [hsource hspans, hskip, Except.ok.injEq, Prod.mk.injEq] at h
      obtain ⟨rfl, rfl⟩ := h
      refine ⟨l, ⟨hok, Nat.lt_succ_of_le hdepth, h₁.cons (hspans.trans he)⟩, ?_⟩
      rw [Layout.readAt, hpos]
    · rintro ⟨l, ⟨hok, hdepth, hspans⟩, rfl⟩
      obtain ⟨c₁', h₁', h₂⟩ := spans_cons_iff.1 hspans
      obtain rfl := h₁.eq_right h₁'
      obtain ⟨stop, hl, he⟩ := spans_append_iff.1 h₂
      have hend : AtEnd (some c.pos) stop := startsWith_iff.2 ⟨d, he⟩
      have hseq : readFrom (placeholder (branch limit m)) (some c.pos) c₁ [] =
          .ok (l.nodesAt c₁.pos, stop) :=
        readFrom_eq ih.readsSlots hok (Nat.le_of_lt_succ hdepth) (by simp) hl hend
      have hskip : stop.skip 1 = d := he.skip_eq
      simp only [readFrom] at hseq
      simp only [hseq, bind, Except.bind, hsource hl, hskip, Layout.readAt, hpos]

/-! ### Templates -/

/-- A whole text is read when it is the text of a layout, and its nodes are those of the layout. -/
theorem template_eq_ok_iff {cs : List Char} {limit : Int} {ns : List Node} {stop : Cursor} :
    Reader.template limit cs = .ok (ns, stop) ↔
      ∃ l : Layout, l.Ok false ∧ l.depth ≤ limit.toNat ∧ l.chars = cs ∧
        ns = l.nodesAt 0 ∧ stop = ⟨cs.length, []⟩ := by
  have hph : ReadsSlots (placeholder (branch limit limit.toNat)) limit.toNat :=
    ReadsBranches.readsSlots (readsBranches limit limit.toNat)
  have hread : Reader.template limit cs =
      readFrom (placeholder (branch limit limit.toNat)) none ⟨0, cs⟩ [] := rfl
  rw [hread]
  constructor
  · intro h
    obtain ⟨l, hok, hdepth, hspans, hend, rfl⟩ := exists_layout hph h
    have hend' : stop.rest = [] := hend
    obtain rfl : cs = l.chars := by simpa [hend'] using hspans.rest
    refine ⟨l, hok, hdepth, rfl, rfl, hspans.eq_right ⟨by simp, by simp⟩⟩
  · rintro ⟨l, hok, hdepth, rfl, rfl, rfl⟩
    exact readFrom_eq hph hok hdepth (by simp) ⟨by simp, by simp⟩ rfl

/-- The templates that `parse` accepts are the texts of layouts, with the trees of these. -/
theorem parse_eq_ok_iff_toNat {s : String} {limit : Int} {t : Template} :
    Template.parse s limit = .ok t ↔
      ∃ l : Layout, l.Derives limit.toNat s ∧ t = ⟨l.nodesAt 0, s⟩ := by
  rw [Template.parse]
  constructor
  · intro h
    split at h
    · rename_i ns stop hread
      obtain ⟨l, hok, hdepth, hchars, rfl, -⟩ := template_eq_ok_iff.1 hread
      exact ⟨l, ⟨hok, hdepth, hchars⟩, (Except.ok.inj h).symm⟩
    · simp at h
  · rintro ⟨l, ⟨hok, hdepth, hchars⟩, rfl⟩
    rw [template_eq_ok_iff.2 ⟨l, hok, hdepth, hchars, rfl, rfl⟩]

theorem parse_eq_ok_iff {s : String} {limit : Nat} {t : Template} :
    Template.parse s limit = .ok t ↔
      ∃ l : Layout, l.Derives limit s ∧ t = ⟨l.nodesAt 0, s⟩ :=
  parse_eq_ok_iff_toNat

theorem parse_ok_of_le {s : String} {limit : Int} {n : Nat} {t : Template} (h : limit.toNat ≤ n)
    (ht : Template.parse s limit = .ok t) : Template.parse s n = .ok t := by
  obtain ⟨l, ⟨hok, hdepth, hchars⟩, rfl⟩ := parse_eq_ok_iff_toNat.1 ht
  exact parse_eq_ok_iff.2 ⟨l, ⟨hok, hdepth.trans h, hchars⟩, rfl⟩

/-- The limit decides whether a text parses, and not what it parses to. -/
theorem parse_ok_unique {s : String} {limit limit' : Int} {t u : Template}
    (ht : Template.parse s limit = .ok t) (hu : Template.parse s limit' = .ok u) : t = u := by
  have ht' := parse_ok_of_le (le_max_left limit.toNat limit'.toNat) ht
  have hu' := parse_ok_of_le (le_max_right limit.toNat limit'.toNat) hu
  exact Except.ok.inj (ht'.symm.trans hu')

end StreamLabel
