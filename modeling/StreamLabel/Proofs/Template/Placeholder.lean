import StreamLabel.Proofs.Template.Modifier

/-!
# Reading placeholders

A reader of branches that takes the quoted layouts of less than `n` levels (`ReadsBranches`) makes
`Reader.placeholder` a reader of exactly the placeholders whose branches are such layouts
(`placeholder_eq_ok_iff`). Each part is read up to a character that cannot belong to it, so the
blanks between the parts and the names are the longest ones.
-/

namespace StreamLabel
open Unicode Reader Cursor Layout

variable {c d e : Cursor} {start n : Nat} {branch : Reader (List Node × String)}

/-- What a placeholder between two cursors is read as. Its branches have less than `n` levels. -/
inductive Slot (n : Nat) (c d : Cursor) : Node → Prop
  | value (ref : Ref) (b : Blanks) (h : c.Spans (valueChars ref b) d) :
      Slot n c d (.value ⟨c.pos, "", ""⟩ ref.reference)
  | formatted (ref : Ref) (b₁ b₂ : Blanks) (name : Name) (b₃ : Blanks)
      (h : c.Spans (formattedChars ref b₁ b₂ name b₃) d) :
      Slot n c d (.formatted ⟨c.pos, "", ""⟩ ref.reference (String.ofList name.chars))
  | choice (f : Frame) {c₁ c₂ c₃ c₄ : Cursor} {yes no : Layout} (h₁ : c.Spans f.opening c₁)
      (hy : QuotedAt n yes c₁ c₂) (h₂ : c₂.Spans f.middle c₃) (hn : QuotedAt n no c₃ c₄)
      (h₃ : c₄.Spans f.closing d) :
      Slot n c d (.choice ⟨c.pos, (yes.readAt c₁.pos).2, (no.readAt c₃.pos).2⟩ f.ref.reference
        f.condition.condition (yes.readAt c₁.pos).1 (no.readAt c₃.pos).1)

variable {node : Node}

/-- A placeholder up to its modifier. -/
structure Layout.Front where
  ref : Ref
  beforeColons : Blanks
  beforeModifier : Blanks

def Layout.Front.chars (p : Front) : List Char :=
  '\x7b' :: (p.ref.chars ++ (p.beforeColons.chars ++ ':' :: ':' :: p.beforeModifier.chars))

theorem Layout.Front.exists_brace {p : Front} (h : c.Spans p.chars d) : ∃ e, c.Spans ['\x7b'] e := by
  obtain ⟨e, he, -⟩ := spans_cons_iff.1 h
  exact ⟨e, he⟩

/-- Reads what may stand behind the reference of the placeholder that opens at `start`. -/
def modification (branch : Reader (List Node × String)) (start : Nat) :
    Reader Reader.Modifier := fun c =>
  if c.skipBlanks.startsWith "::" then modifier branch start (c.skipBlanks.skip 2).skipBlanks
  else .ok (.absent, c.skipBlanks)

/-- Reads the end of the placeholder that opens at `start`: blanks and a brace. -/
def closing (start : Nat) (ref : Reference) (found : Reader.Modifier) : Reader Node := fun c =>
  if c.skipBlanks.startsWith "\x7d" then do
    let node ← found.build start ref
    .ok (node, c.skipBlanks.skip 1)
  else .error (placeholderFault start .brace c.skipBlanks)

theorem placeholder_eq_closing (c : Cursor) :
    placeholder branch c = (do
      let (ref, d) ← reference c.pos (c.skip 1)
      let (found, e) ← modification branch c.pos d
      closing c.pos ref found e) := by
  rw [placeholder]
  rcases reference c.pos (c.skip 1) with f | ⟨ref, d⟩
  · rfl
  · by_cases hcolons : d.skipBlanks.startsWith "::" = true
    · simp only [bind, Except.bind, modification, hcolons, ↓reduceIte]
      rfl
    · simp only [bind, Except.bind, modification, hcolons]
      rfl

theorem reference_blanks_eq (start : Nat) (ref : Ref) (b : Blanks)
    (h : c.Spans ('\x7b' :: (ref.chars ++ b.chars)) d) (hd : Stops isBlank d.rest)
    (hd' : Stops isAsciiNamePart d.rest) :
    ∃ c₁, reference start (c.skip 1) = .ok (ref.reference, c₁) ∧ c₁.skipBlanks = d := by
  obtain ⟨c₀, h₀, h⟩ := spans_cons_iff.1 h
  obtain ⟨c₁, h₁, h₂⟩ := spans_append_iff.1 h
  have hskip : c.skip 1 = c₀ := h₀.skip_eq
  have hstops : Stops isAsciiNamePart c₁.rest :=
    h₂.stops_append (fun x hx => isAsciiNamePart_of_isBlank (b.blank x hx)) hd'
  exact ⟨c₁, by rw [hskip, reference_eq ref h₁ hstops], skipBlanks_eq b h₂ hd⟩

/-- A placeholder up to its modifier leaves the modifier and the brace to be read. -/
theorem placeholder_front_eq (p : Front) (h : c.Spans p.chars d) (hd : Stops isBlank d.rest) :
    placeholder branch c = (do
      let (found, e) ← modifier branch c.pos d
      closing c.pos p.ref.reference found e) := by
  obtain ⟨ref, b₁, b₂⟩ := p
  have h' : c.Spans ('\x7b' :: (ref.chars ++ b₁.chars) ++ ([':', ':'] ++ b₂.chars)) d := by
    simpa [Front.chars] using h
  obtain ⟨a₁, h₁, h'⟩ := spans_append_iff.1 h'
  obtain ⟨a₂, hcolons, h₂⟩ := spans_append_iff.1 h'
  obtain ⟨a₀, href, hblanks⟩ :=
    reference_blanks_eq c.pos ref b₁ h₁ (hcolons.stops rfl) (hcolons.stops rfl)
  have hstarts : a₁.startsWith "::" = true := startsWith_iff.2 ⟨a₂, hcolons⟩
  have hskip : a₁.skip 2 = a₂ := hcolons.skip_eq
  have hk₂ := skipBlanks_eq b₂ h₂ hd
  simp only [placeholder_eq_closing, href, bind, Except.bind, modification, hblanks, hstarts,
    ↓reduceIte, hskip, hk₂]

theorem placeholder_eq_built (p : Front) (b : Blanks) {c₁ c₂ c₃ : Cursor} {m : Reader.Modifier}
    (h : c.Spans p.chars c₁) (hc₁ : Stops isBlank c₁.rest)
    (hm : modifier branch c.pos c₁ = .ok (m, c₂)) (h₃ : c₂.Spans b.chars c₃)
    (h₄ : c₃.Spans ['\x7d'] d) (hnode : m.build c.pos p.ref.reference = .ok node) :
    placeholder branch c = .ok (node, d) := by
  have hk₃ := skipBlanks_eq b h₃ (h₄.stops rfl)
  have hbrace : c₃.startsWith "\x7d" = true := startsWith_iff.2 ⟨d, h₄⟩
  have hend : c₃.skip 1 = d := h₄.skip_eq
  simp only [placeholder_front_eq p h hc₁, hm, bind, Except.bind, closing, hk₃, hbrace,
    ↓reduceIte, hend, hnode]

theorem placeholder_eq (hb : ReadsBranches branch n) (h : Slot n c d node) :
    placeholder branch c = .ok (node, d) := by
  cases h with
  | value ref b h =>
    have h' : c.Spans ('\x7b' :: (ref.chars ++ b.chars) ++ ['\x7d']) d := by
      simpa [valueChars] using h
    obtain ⟨c₁, h₁, h₂⟩ := spans_append_iff.1 h'
    obtain ⟨c₀, href, hblanks⟩ :=
      reference_blanks_eq c.pos ref b h₁ (h₂.stops rfl) (h₂.stops rfl)
    have hcolons : c₁.startsWith "::" = false :=
      startsWith_eq_false_of_stops ':' [':'] rfl (h₂.stops rfl)
    have hbrace : c₁.startsWith "\x7d" = true := startsWith_iff.2 ⟨d, h₂⟩
    have hend : c₁.skip 1 = d := h₂.skip_eq
    have hstay : c₁.skipBlanks = c₁ := (Spans.refl c₁).skipWhile_eq (by simp) (h₂.stops rfl)
    simp only [placeholder, href, bind, Except.bind, hblanks, hcolons, Bool.false_eq_true,
      ↓reduceIte, hstay, hbrace, hend]
    rfl
  | formatted ref b₁ b₂ name b₃ h =>
    let p : Front := ⟨ref, b₁, b₂⟩
    have h' : c.Spans (p.chars ++ ((name.chars ++ b₃.chars) ++ ['\x7d'])) d := by
      simpa [formattedChars, Front.chars, p] using h
    obtain ⟨c₁, h₁, h'⟩ := spans_append_iff.1 h'
    obtain ⟨c₂, h₂, h₃⟩ := spans_append_iff.1 h'
    have hm : modifier branch c.pos c₁ = .ok (.format (String.ofList name.chars), c₂) :=
      modifier_eq_format name b₃ h₂ h₃
    obtain ⟨c₃, hname, -⟩ := spans_append_iff.1 h₂
    exact placeholder_eq_built p .none h₁ (name.stops_isBlank hname) hm (Spans.refl c₂) h₃ rfl
  | @choice f c₁ c₂ c₃ c₄ yes no h₁ hy h₂ hn h₃ =>
    let p : Front := ⟨f.ref, f.beforeColons, f.beforeCondition⟩
    have h' : c.Spans (p.chars ++ (f.condition.chars ++ '[' :: f.beforeYes.chars)) c₁ := by
      simpa [Frame.opening, Front.chars, p] using h₁
    obtain ⟨a₁, h₄, h'⟩ := spans_append_iff.1 h'
    obtain ⟨a₂, h₅, h₆⟩ := spans_append_iff.1 h'
    have h'' : c₄.Spans ((f.afterNo.chars ++ [']']) ++ (f.beforeBrace.chars ++ ['\x7d'])) d := by
      simpa [Frame.closing] using h₃
    obtain ⟨a₃, h₇, h''⟩ := spans_append_iff.1 h''
    obtain ⟨a₄, h₈, h₉⟩ := spans_append_iff.1 h''
    have hstops : Stops isBlank a₁.rest := f.condition.stops_isBlank h₅
    exact placeholder_eq_built p f.beforeBrace h₄ hstops
      (modifier_eq_choice hb f.condition h₅ h₆ hy h₂ hn h₇) h₈ h₉ rfl

theorem closing_sound {ref : Reference} {found : Reader.Modifier}
    (h : closing start ref found c = .ok (node, d)) :
    ∃ b : Blanks, c.Spans (b.chars ++ ['\x7d']) d ∧ found.build start ref = .ok node := by
  obtain ⟨b, hb⟩ := exists_blanks c
  unfold closing at h
  split at h
  · rename_i hbrace
    obtain ⟨e, he⟩ := startsWith_iff.1 hbrace
    have hskip : c.skipBlanks.skip 1 = e := he.skip_eq
    rw [hskip] at h
    obtain ⟨built, hbuilt, h⟩ := bind_eq_ok.1 h
    obtain ⟨rfl, rfl⟩ := Prod.mk.inj (Except.ok.inj h)
    exact ⟨b, hb.trans he, hbuilt⟩
  · simp at h

/-- How a placeholder begins: with a reference that cannot be read, or with one that the closing brace
is to follow, or with one that two colons and a modifier follow. -/
theorem placeholder_cases (branch : Reader (List Node × String)) (hc : c.Spans ['\x7b'] e) :
    (∃ f, ReferenceBreaks c.pos e f ∧ placeholder branch c = .error f) ∨
    (∃ (r : Ref) (b : Blanks) (d : Cursor), c.Spans ('\x7b' :: (r.chars ++ b.chars)) d ∧
      placeholder branch c = closing c.pos r.reference .absent d) ∨
    ∃ (p : Front) (d : Cursor), c.Spans p.chars d ∧ Stops isBlank d.rest ∧
      placeholder branch c = (do
        let (found, e) ← modifier branch c.pos d
        closing c.pos p.ref.reference found e) := by
  have hskip : c.skip 1 = e := hc.skip_eq
  rw [placeholder_eq_closing, hskip]
  obtain ⟨f, hf, href⟩ | ⟨r, c₁, h₁, href⟩ := reference_cases c.pos e
  · exact .inl ⟨f, hf, by rw [href]; rfl⟩
  rw [href]
  obtain ⟨b₁, h₂⟩ := exists_blanks c₁
  by_cases hcolons : c₁.skipBlanks.startsWith "::" = true
  · obtain ⟨c₃, h₃⟩ := startsWith_iff.1 hcolons
    have hskip₂ : c₁.skipBlanks.skip 2 = c₃ := h₃.skip_eq
    obtain ⟨b₂, h₄⟩ := exists_blanks c₃
    refine .inr (.inr ⟨⟨r, b₁, b₂⟩, c₃.skipBlanks, ?_, stops_skipWhile isBlank c₃, ?_⟩)
    · simpa [Front.chars] using hc.trans (h₁.trans (h₂.trans (h₃.trans h₄)))
    · simp only [bind, Except.bind, modification, hcolons, ↓reduceIte, hskip₂]
  · refine .inr (.inl ⟨r, b₁, c₁.skipBlanks, hc.trans (h₁.trans h₂), ?_⟩)
    simp only [bind, Except.bind, modification, hcolons, Bool.false_eq_true, ↓reduceIte]

theorem placeholder_sound (hb : ReadsBranches branch n) (hc : c.Spans ['\x7b'] e)
    (h : placeholder branch c = .ok (node, d)) : Slot n c d node := by
  rcases placeholder_cases branch hc with ⟨f, -, hf⟩ | ⟨r, b, d', h₁, heq⟩ | ⟨p, d', h₁, -, heq⟩
  · simp [hf] at h
  · obtain ⟨b', h₂, hbuilt⟩ := closing_sound (heq ▸ h)
    obtain rfl := Except.ok.inj hbuilt
    exact .value r (b.append b') (by simpa [valueChars] using h₁.trans h₂)
  · obtain ⟨⟨m, c₄⟩, hm, h⟩ := bind_eq_ok.1 (heq ▸ h)
    obtain ⟨b₃, h₂, hbuilt⟩ := closing_sound h
    cases modifier_sound hb hm with
    | format name b h₃ =>
      obtain rfl := Except.ok.inj hbuilt
      -- the blanks behind the name are passed before those in front of the brace are looked for
      refine .formatted p.ref p.beforeColons p.beforeModifier name (b.append b₃) ?_
      simpa [formattedChars, Front.chars] using h₁.trans (h₃.trans h₂)
    | @choice k _ _ _ _ _ yes no a₁ a₂ a₃ a₄ h₃ h₄ hy h₅ hn h₆ =>
      obtain rfl := Except.ok.inj hbuilt
      let f : Frame := ⟨p.ref, p.beforeColons, p.beforeModifier, k, a₁, a₂, a₃, a₄, b₃⟩
      refine .choice f ?_ hy h₅ hn ?_
      · simpa [Frame.opening, Front.chars, f] using h₁.trans (h₃.trans h₄)
      · simpa [Frame.closing, f] using h₆.trans h₂

theorem placeholder_eq_ok_iff (hb : ReadsBranches branch n) (hc : c.Spans ['\x7b'] e) :
    placeholder branch c = .ok (node, d) ↔ Slot n c d node :=
  ⟨placeholder_sound hb hc, placeholder_eq hb⟩

end StreamLabel
