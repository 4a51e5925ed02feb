import StreamLabel.Proofs.Template.Reference

/-!
# Reading branches and modifiers

A reader of branches that takes the quoted layouts of less than `n` levels (`ReadsBranches`) makes
`Reader.branches` a reader of two such layouts in brackets, and `Reader.modifier` one of what may stand
behind the colons of a placeholder. `branches_cases` and `modifier_cases` say what a reading comes to:
what was read, or the part that is missing.
-/

namespace StreamLabel
open Unicode Reader Cursor Layout

variable {c d e : Cursor} {start n : Nat}

/-! ### Branches -/

/-- The quoted branch `l`, of less than `n` levels, stands between `c` and `d`. -/
structure QuotedAt (n : Nat) (l : Layout) (c d : Cursor) : Prop where
  ok : l.Ok true
  depth_lt : l.depth < n
  spans : c.Spans (inQuotes l.chars) d

/-- What a branch whose quote stands at `pos` is read as. -/
def Layout.readAt (l : Layout) (pos : Nat) : List Node × String :=
  (l.nodesAt (pos + 1), String.ofList l.chars)

/-- From a quote on, `branch` reads the quoted branches of less than `n` levels, and nothing else. -/
def ReadsBranches (branch : Reader (List Node × String)) (n : Nat) : Prop :=
  ∀ {c d : Cursor} {out : List Node × String}, c.startsWith "\"" = true →
    (branch c = .ok (out, d) ↔ ∃ l, QuotedAt n l c d ∧ out = l.readAt c.pos)

variable {branch : Reader (List Node × String)} {out : List Node × String}

theorem QuotedAt.startsWith {l : Layout} (h : QuotedAt n l c d) : c.startsWith "\"" = true := by
  obtain ⟨c₁, h₁, -⟩ := spans_cons_iff.1 h.spans
  exact startsWith_iff.2 ⟨c₁, h₁⟩

theorem QuotedAt.stops_isBlank {l : Layout} (h : QuotedAt n l c d) : Stops isBlank c.rest :=
  h.spans.stops rfl

theorem quotedBranch_eq_ok_iff (hb : ReadsBranches branch n) :
    quotedBranch branch start c = .ok (out, d) ↔ ∃ l, QuotedAt n l c d ∧ out = l.readAt c.pos := by
  unfold quotedBranch
  constructor
  · intro h
    split at h
    · rename_i hc
      exact (hb hc).1 h
    · simp at h
  · rintro ⟨l, hl, rfl⟩
    rw [if_pos hl.startsWith]
    exact (hb hl.startsWith).2 ⟨l, hl, rfl⟩

/-- Two branches in brackets stand between `c` and `d`, and this is what they are read as. -/
inductive BranchesAt (n : Nat) (c d : Cursor) : (List Node × String) × (List Node × String) → Prop
  | intro {c₁ c₂ c₃ c₄ : Cursor} {yes no : Layout} {b₁ b₂ b₃ b₄ : Blanks}
      (h₁ : c.Spans ('[' :: b₁.chars) c₁) (hy : QuotedAt n yes c₁ c₂)
      (h₂ : c₂.Spans (b₂.chars ++ '|' :: '|' :: b₃.chars) c₃) (hn : QuotedAt n no c₃ c₄)
      (h₃ : c₄.Spans (b₄.chars ++ [']']) d) :
      BranchesAt n c d (yes.readAt c₁.pos, no.readAt c₃.pos)

theorem branches_eq (hb : ReadsBranches branch n) {r : (List Node × String) × (List Node × String)}
    (h : BranchesAt n c d r) : branches branch c = .ok (r, d) := by
  obtain @⟨c₁, c₂, c₃, c₄, yes, no, b₁, b₂, b₃, b₄, h₁, hy, h₂, hn, h₃⟩ := h
  obtain ⟨a₁, ha₁, hb₁⟩ := spans_cons_iff.1 h₁
  obtain ⟨a₂, hb₂, ha₂⟩ := spans_append_iff.1 h₂
  have ha₂' : a₂.Spans (['|', '|'] ++ b₃.chars) c₃ := ha₂
  obtain ⟨a₃, ha₃, hb₃⟩ := spans_append_iff.1 ha₂'
  obtain ⟨a₄, hb₄, ha₄⟩ := spans_append_iff.1 h₃
  have hs₁ : c.skip 1 = a₁ := ha₁.skip_eq
  have hs₂ : a₂.skip 2 = a₃ := ha₃.skip_eq
  have hs₃ : a₄.skip 1 = d := ha₄.skip_eq
  have hbars : a₂.startsWith "||" = true := startsWith_iff.2 ⟨a₃, ha₃⟩
  have hbracket : a₄.startsWith "]" = true := startsWith_iff.2 ⟨d, ha₄⟩
  have hk₁ := skipBlanks_eq b₁ hb₁ hy.stops_isBlank
  have hk₂ := skipBlanks_eq b₂ hb₂ (ha₂.stops rfl)
  have hk₃ := skipBlanks_eq b₃ hb₃ hn.stops_isBlank
  have hk₄ := skipBlanks_eq b₄ hb₄ (ha₄.stops rfl)
  have hq₁ : quotedBranch branch c.pos c₁ = .ok (yes.readAt c₁.pos, c₂) :=
    (quotedBranch_eq_ok_iff hb).2 ⟨yes, hy, rfl⟩
  have hq₂ : quotedBranch branch c.pos c₃ = .ok (no.readAt c₃.pos, c₄) :=
    (quotedBranch_eq_ok_iff hb).2 ⟨no, hn, rfl⟩
  simp only [branches, hs₁, hk₁, hq₁, bind, Except.bind, hk₂, hbars, ↓reduceIte, hs₂, hk₃, hq₂, hk₄,
    hbracket, hs₃]

/-- What has been read last of a list of branches. -/
inductive ListPart where
  | bracket
  | yes
  | bars
  | no
deriving DecidableEq

namespace ListPart

/-- What must follow. -/
def next : ListPart → String
  | bracket | bars => "\""
  | yes => "||"
  | no => "]"

/-- The cause if it does not. -/
def cause : ListPart → Cause
  | bracket | bars => .expectedQuote
  | yes => .expectedBars
  | no => .expectedBracket

end ListPart

/-- From its bracket at `b`, a list of branches has been read to `d`: what is in quotes is closed, the
list is not. -/
inductive ListTo (n : Nat) (b : Cursor) : ListPart → Cursor → Prop
  | bracket (blanks : Blanks) {d : Cursor} (h : b.Spans ('[' :: blanks.chars) d) :
      ListTo n b .bracket d
  | yes {l : Layout} {c c' d : Cursor} (h : ListTo n b .bracket c) (hl : QuotedAt n l c c')
      (blanks : Blanks) (hd : c'.Spans blanks.chars d) : ListTo n b .yes d
  | bars {c d : Cursor} (h : ListTo n b .yes c) (blanks : Blanks)
      (hd : c.Spans ('|' :: '|' :: blanks.chars) d) : ListTo n b .bars d
  | no {l : Layout} {c c' d : Cursor} (h : ListTo n b .bars c) (hl : QuotedAt n l c c')
      (blanks : Blanks) (hd : c'.Spans blanks.chars d) : ListTo n b .no d

/-- From their bracket at `b` branches cannot be read: behind what has been read of them the next part
is missing, or it is a branch that `branch` cannot read. -/
inductive ListBreaks (branch : Reader (List Node × String)) (n : Nat) (b : Cursor) : Fault → Prop
  | part {part : ListPart} {d : Cursor} (h : ListTo n b part d) (hd : Stops isBlank d.rest)
      (hm : d.startsWith part.next = false) : ListBreaks branch n b (branchesFault b.pos part.cause d)
  | branch {part : ListPart} {d : Cursor} {f : Fault} (h : ListTo n b part d)
      (hpart : part.next = "\"") (hd : d.startsWith "\"" = true) (hf : branch d = .error f) :
      ListBreaks branch n b f

theorem quotedBranch_cases (hb : ReadsBranches branch n) {b : Cursor} {part : ListPart}
    (h : ListTo n b part c) (hpart : part.next = "\"") (hc : Stops isBlank c.rest) :
    (∃ f, ListBreaks branch n b f ∧ quotedBranch branch b.pos c = .error f) ∨
      ∃ (l : Layout) (d : Cursor), QuotedAt n l c d ∧
        quotedBranch branch b.pos c = .ok (l.readAt c.pos, d) := by
  unfold quotedBranch
  by_cases hq : c.startsWith "\"" = true
  · rw [if_pos hq]
    cases hread : branch c with
    | error f => exact .inl ⟨f, .branch h hpart hq hread, rfl⟩
    | ok out =>
      obtain ⟨l, hl, hout⟩ := (hb hq).1 hread
      exact .inr ⟨l, _, hl, by rw [← hout]⟩
  · have hcause : part.cause = .expectedQuote := by
      cases part <;> first | rfl | simp [ListPart.next] at hpart
    rw [if_neg hq, ← hcause]
    exact .inl ⟨_, .part h hc (by simpa [hpart] using hq), rfl⟩

/-- What reading branches from their bracket on comes to. -/
theorem branches_cases (hb : ReadsBranches branch n) (hc : c.Spans ['['] e) :
    (∃ f, ListBreaks branch n c f ∧ branches branch c = .error f) ∨
      ∃ r d, BranchesAt n c d r ∧ branches branch c = .ok (r, d) := by
  have hskip₁ : c.skip 1 = e := hc.skip_eq
  obtain ⟨b₁, hb₁⟩ := exists_blanks e
  have hlist₁ : ListTo n c .bracket e.skipBlanks := .bracket b₁ (hc.cons hb₁)
  rw [branches, hskip₁]
  obtain ⟨f, hf, heq⟩ | ⟨yes, c₂, hy, heq⟩ := quotedBranch_cases hb hlist₁ rfl (stops_skipWhile _ _)
  · exact .inl ⟨f, hf, by rw [heq]; rfl⟩
  rw [heq]
  obtain ⟨b₂, hb₂⟩ := exists_blanks c₂
  have hlist₂ : ListTo n c .yes c₂.skipBlanks := .yes hlist₁ hy b₂ hb₂
  simp only [bind, Except.bind]
  by_cases hbars : ¬c₂.skipBlanks.startsWith "||" = true
  · rw [if_neg hbars]
    exact .inl ⟨_, .part hlist₂ (stops_skipWhile _ _) (by simpa [ListPart.next] using hbars), rfl⟩
  rw [not_not] at hbars
  obtain ⟨a₃, ha₃⟩ := startsWith_iff.1 hbars
  have hskip₂ : c₂.skipBlanks.skip 2 = a₃ := ha₃.skip_eq
  obtain ⟨b₃, hb₃⟩ := exists_blanks a₃
  have hlist₃ : ListTo n c .bars a₃.skipBlanks := .bars hlist₂ b₃ (ha₃.trans hb₃)
  rw [if_pos hbars, hskip₂]
  obtain ⟨f, hf, heq⟩ | ⟨no, c₄, hn, heq⟩ := quotedBranch_cases hb hlist₃ rfl (stops_skipWhile _ _)
  · exact .inl ⟨f, hf, by rw [heq]⟩
  rw [heq]
  obtain ⟨b₄, hb₄⟩ := exists_blanks c₄
  dsimp only
  by_cases hbracket : c₄.skipBlanks.startsWith "]" = true
  · obtain ⟨d, hd⟩ := startsWith_iff.1 hbracket
    have hskip₃ : c₄.skipBlanks.skip 1 = d := hd.skip_eq
    rw [if_pos hbracket, hskip₃]
    exact .inr ⟨_, d, .intro (hc.cons hb₁) hy (hb₂.trans (ha₃.trans hb₃)) hn (hb₄.trans hd), rfl⟩
  · rw [if_neg hbracket]
    refine .inl ⟨_, .part (.no hlist₃ hn b₄ hb₄) (stops_skipWhile _ _) ?_, rfl⟩
    simpa [ListPart.next] using hbracket

/-! ### Modifiers -/

/-- What stands between the colons and the brace of a placeholder, from `c` to `d`. -/
inductive ModifierAt (n : Nat) (c d : Cursor) : Reader.Modifier → Prop
  | format (name : Name) (b : Blanks) (h : c.Spans (name.chars ++ b.chars) d) :
      ModifierAt n c d (.format (String.ofList name.chars))
  | choice (k : Cond) {c₁ c₂ c₃ c₄ c₅ : Cursor} {yes no : Layout} {b₁ b₂ b₃ b₄ : Blanks}
      (h₁ : c.Spans k.chars c₁) (h₂ : c₁.Spans ('[' :: b₁.chars) c₂) (hy : QuotedAt n yes c₂ c₃)
      (h₃ : c₃.Spans (b₂.chars ++ '|' :: '|' :: b₃.chars) c₄) (hn : QuotedAt n no c₄ c₅)
      (h₄ : c₅.Spans (b₄.chars ++ [']']) d) :
      ModifierAt n c d (.choice k.condition (yes.readAt c₂.pos) (no.readAt c₄.pos))

/-- A placeholder can be built of what was read, since that has the branches it asks for. -/
theorem ModifierAt.exists_build {m : Reader.Modifier} (h : ModifierAt n c d m) (start : Nat)
    (ref : Reference) : ∃ node, m.build start ref = .ok node := by
  cases h with
  | format name b h => exact ⟨_, rfl⟩
  | choice k h₁ h₂ hy h₃ hn h₄ => exact ⟨_, rfl⟩

/-- A modifier that cannot be read from `c` on, up to its bracket if it has one. -/
inductive ModifierBreaks (start : Nat) (c : Cursor) : Fault → Prop
  | missing (h : c.rest = []) : ModifierBreaks start c ⟨.openPlaceholder, start⟩
  | regexWithoutBranches {d : Cursor} (h : c.Spans ['/'] d) (hd : patternLength? d.rest = none)
      (hs : hasSlash d.rest = true) : ModifierBreaks start c ⟨.regexWithoutBranches, c.pos⟩
  | unclosedRegex {d : Cursor} (h : c.Spans ['/'] d) (hd : hasSlash d.rest = false)
      (hb : '\x7d' ∈ d.rest) : ModifierBreaks start c ⟨.unclosedRegex, c.pos⟩
  | openRegex {d : Cursor} (h : c.Spans ['/'] d) (hd : hasSlash d.rest = false)
      (hb : '\x7d' ∉ d.rest) : ModifierBreaks start c ⟨.openRegex, start⟩
  | openOperand (op : CompareOp) {raw : List Char} {d : Cursor} (hop : LongestOperator op c.rest)
      (h : c.Spans (op.symbol.toList ++ raw) d) (hraw : ∀ x ∈ raw, x ≠ '[' ∧ x ≠ '\x7d')
      (hd : d.rest = []) : ModifierBreaks start c ⟨.openPlaceholder, start⟩
  | comparisonWithoutBranches (op : CompareOp) {raw : List Char} {d e : Cursor}
      (hop : LongestOperator op c.rest) (h : c.Spans (op.symbol.toList ++ raw) d)
      (hraw : ∀ x ∈ raw, x ≠ '[' ∧ x ≠ '\x7d') (hd : d.Spans ['\x7d'] e) :
      ModifierBreaks start c ⟨.comparisonWithoutBranches, c.pos⟩
  | invalid {x : Char} {d : Cursor} (h : c.Spans [x] d) (hx : isAsciiNameStart x = false)
      (hk : condition start c = none) : ModifierBreaks start c ⟨.invalidModifier x, c.pos⟩
  | formatterWithBranches (name : Name) (b : Blanks) {d e : Cursor}
      (h : c.Spans (name.chars ++ b.chars) d) (hd : d.Spans ['['] e) :
      ModifierBreaks start c ⟨.formatterWithBranches (String.ofList name.chars), c.pos⟩

variable {m : Reader.Modifier} {f : Fault}

theorem modifier_eq_format (name : Name) (b : Blanks) (h : c.Spans (name.chars ++ b.chars) d)
    (hd : d.Spans ['\x7d'] e) :
    modifier branch start c = .ok (.format (String.ofList name.chars), d) := by
  obtain ⟨c₁, h₁, h₂⟩ := spans_append_iff.1 h
  obtain ⟨x, xs, hx, -⟩ := name.exists_cons
  have hrest : c.rest = x :: (xs ++ c₁.rest) := by rw [h₁.rest, hx]; rfl
  have hcond : condition start c = none := condition_eq_none name h₁
  have hstops : Stops isAsciiNamePart c₁.rest :=
    h₂.stops_append (fun x hx => isAsciiNamePart_of_isBlank (b.blank x hx)) (hd.stops rfl)
  have hname := name_eq name h₁ hstops
  have hblanks := skipBlanks_eq b h₂ (hd.stops rfl)
  have hbracket : d.startsWith "[" = false := startsWith_eq_false_of_stops '[' [] rfl (hd.stops rfl)
  unfold modifier
  split
  · simp_all
  · simp only [hcond, hname, name.ofList_ne_empty, ↓reduceIte, hblanks, hbracket, Bool.false_eq_true]

theorem Layout.Cond.exists_cons (k : Cond) : ∃ x xs, k.chars = x :: xs ∧ isBlank x = false := by
  cases k with
  | compare op raw => cases op <;> exact ⟨_, _, rfl, rfl⟩
  | regex => exact ⟨_, _, rfl, rfl⟩

theorem Layout.Cond.stops_append (k : Cond) (cs : List Char) : Stops isBlank (k.chars ++ cs) := by
  obtain ⟨x, xs, hk, hx⟩ := k.exists_cons
  rw [hk]
  exact Stops.cons_iff.2 hx

theorem Layout.Cond.stops_isBlank (k : Cond) (h : c.Spans k.chars d) : Stops isBlank c.rest := by
  rw [h.rest]
  exact k.stops_append _

/-- A condition that a bracket follows leaves the branches to be read. -/
theorem modifier_cond_eq (k : Cond) (h : c.Spans k.chars d) (hd : d.Spans ['['] e) :
    modifier branch start c = (do
      let ((yes, no), e) ← branches branch d
      .ok (.choice k.condition yes no, e)) := by
  obtain ⟨x, xs, hx, -⟩ := k.exists_cons
  have hrest : c.rest = x :: (xs ++ d.rest) := by rw [h.rest, hx]; rfl
  obtain ⟨c', hcond, hskip⟩ := condition_eq start k h hd
  have hstarts : d.startsWith "[" = true := startsWith_iff.2 ⟨e, hd⟩
  unfold modifier
  split
  · simp_all
  · simp only [hcond, bind, Except.bind, hskip, hstarts, ↓reduceIte]

theorem modifier_eq_choice (hb : ReadsBranches branch n) (k : Cond) {c₁ c₂ c₃ c₄ c₅ : Cursor}
    {yes no : Layout} {b₁ b₂ b₃ b₄ : Blanks} (h₁ : c.Spans k.chars c₁)
    (h₂ : c₁.Spans ('[' :: b₁.chars) c₂) (hy : QuotedAt n yes c₂ c₃)
    (h₃ : c₃.Spans (b₂.chars ++ '|' :: '|' :: b₃.chars) c₄) (hn : QuotedAt n no c₄ c₅)
    (h₄ : c₅.Spans (b₄.chars ++ [']']) d) :
    modifier branch start c =
      .ok (.choice k.condition (yes.readAt c₂.pos) (no.readAt c₄.pos), d) := by
  obtain ⟨c₆, hbracket, -⟩ := spans_cons_iff.1 h₂
  rw [modifier_cond_eq k h₁ hbracket, branches_eq hb (.intro h₂ hy h₃ hn h₄)]
  rfl

theorem condition_breaks (h : condition start c = some (.error f)) : ModifierBreaks start c f := by
  unfold condition at h
  split at h
  · rename_i hslash
    obtain ⟨d, hd⟩ := startsWith_iff.1 hslash
    replace hd : c.Spans ['/'] d := hd
    have hbody : c.rest.drop 1 = d.rest := by rw [hd.rest]; rfl
    have hbrace : c.rest.contains '\x7d' = true ↔ '\x7d' ∈ d.rest := by
      rw [hd.rest, List.contains_iff_mem]; simp
    simp only [regex, hbody, Option.some.injEq] at h
    split at h
    · simp at h
    rename_i hlength
    split at h
    · rename_i hs
      cases h
      exact .regexWithoutBranches hd hlength hs
    rename_i hs
    split at h
    · rename_i hb
      cases h
      exact .unclosedRegex hd (by simpa using hs) (hbrace.1 hb)
    · rename_i hb
      cases h
      exact .openRegex hd (by simpa using hs) fun hmem => hb (hbrace.2 hmem)
  · obtain ⟨op, hop, h⟩ := Option.map_eq_some_iff.1 h
    have hlongest := operator?_eq_some_iff.1 hop
    obtain ⟨cs, hcs⟩ := hlongest.begins
    have h₁ : c.Spans op.symbol.toList (c.skip op.symbol.length) := by
      rw [← String.length_toList]; exact spans_skip hcs.symm
    split at h
    · simp at h
    rename_i f' hoperand
    obtain rfl : f' = f := by simpa using h
    let run := fun x => !endsOperand x
    have h₂ := h₁.trans (spans_skipWhile run (c.skip op.symbol.length))
    have hraw : ∀ x ∈ (c.skip op.symbol.length).rest.takeWhile run, x ≠ '[' ∧ x ≠ '\x7d' :=
      fun x hx => endsOperand_eq_false.1 (List.mem_takeWhile_imp (p := run) hx)
    have hstops := stops_skipWhile run (c.skip op.symbol.length)
    simp only [operand] at hoperand
    split at hoperand
    · rename_i hend
      cases hoperand
      exact .openOperand op hlongest h₂ hraw hend
    · rename_i x r hend
      split at hoperand
      · simp at hoperand
      rename_i hx
      cases hoperand
      replace hend : ((c.skip op.symbol.length).skipWhile run).rest = x :: r := hend
      obtain rfl : x = '\x7d' := by
        rw [hend, Stops.cons_iff] at hstops
        simpa [run, endsOperand, hx] using hstops
      exact .comparisonWithoutBranches op hlongest h₂ hraw (Spans.of_cons hend)

/-- What reading a modifier comes to, up to its bracket if it has one. -/
theorem modifier_cases (branch : Reader (List Node × String)) (start : Nat) (c : Cursor) :
    (∃ f, ModifierBreaks start c f ∧ modifier branch start c = .error f) ∨
    (∃ (name : Name) (b : Blanks) (d : Cursor), c.Spans (name.chars ++ b.chars) d ∧
      modifier branch start c = .ok (.format (String.ofList name.chars), d)) ∨
    ∃ (k : Cond) (d e : Cursor), c.Spans k.chars d ∧ d.Spans ['['] e ∧
      modifier branch start c = (do
        let ((yes, no), e) ← branches branch d
        .ok (.choice k.condition yes no, e)) := by
  cases hrest : c.rest with
  | nil => exact .inl ⟨_, .missing hrest, by rw [modifier, hrest]⟩
  | cons x r =>
    have hx : c.Spans [x] _ := Spans.of_cons hrest
    cases hcond : condition start c with
    | some result =>
      cases result with
      | error f => exact .inl ⟨f, condition_breaks hcond, by rw [modifier, hrest, hcond]; rfl⟩
      | ok out =>
        obtain ⟨k, e, -, h₁, hbracket⟩ := condition_sound hcond
        exact .inr (.inr ⟨k, _, e, h₁, hbracket, modifier_cond_eq k h₁ hbracket⟩)
    | none =>
      have heq : modifier branch start c =
          if (name c).1 = "" then .error ⟨.invalidModifier x, c.pos⟩
          else if (name c).2.skipBlanks.startsWith "[" then
            .error ⟨.formatterWithBranches (name c).1, c.pos⟩
          else .ok (.format (name c).1, (name c).2.skipBlanks) := by
        rw [modifier, hrest, hcond]
      by_cases hname : (name c).1 = ""
      · obtain ⟨-, hstart⟩ := name_eq_empty hname
        rw [hrest, Stops.cons_iff] at hstart
        exact .inl ⟨_, .invalid hx hstart hcond, by rw [heq, if_pos hname]⟩
      obtain ⟨n, hn, h₁⟩ := exists_name hname
      obtain ⟨b, h₂⟩ := exists_blanks (name c).2
      by_cases hbracket : (name c).2.skipBlanks.startsWith "[" = true
      · obtain ⟨e, he⟩ := startsWith_iff.1 hbracket
        refine .inl ⟨_, .formatterWithBranches n b (h₁.trans h₂) he, ?_⟩
        rw [heq, if_neg hname, if_pos hbracket, hn]
      · refine .inr (.inl ⟨n, b, _, h₁.trans h₂, ?_⟩)
        rw [heq, if_neg hname, if_neg hbracket, hn]

theorem modifier_sound (hb : ReadsBranches branch n) (h : modifier branch start c = .ok (m, d)) :
    ModifierAt n c d m := by
  rcases modifier_cases branch start c with
    ⟨f, -, hf⟩ | ⟨name, b, d', h₁, heq⟩ | ⟨k, d', e, h₁, hbracket, heq⟩
  · simp [hf] at h
  · obtain ⟨rfl, rfl⟩ := Prod.mk.inj (Except.ok.inj (heq.symm.trans h))
    exact .format name b h₁
  · obtain ⟨⟨r, c₂⟩, hbranches, h⟩ := bind_eq_ok.1 (heq ▸ h)
    rcases branches_cases hb hbracket with ⟨f, -, hf⟩ | ⟨r', c₂', hr, hread⟩
    · simp [hf] at hbranches
    obtain ⟨rfl, rfl⟩ := Prod.mk.inj (Except.ok.inj (hread.symm.trans hbranches))
    obtain ⟨h₂, hy, h₃, hn, h₄⟩ := hr
    simp only [Except.ok.injEq, Prod.mk.injEq] at h
    obtain ⟨rfl, rfl⟩ := h
    exact .choice k h₁ h₂ hy h₃ hn h₄

/-- A modifier that cannot be read has a fault of its own, or branches that cannot be read. -/
theorem modifier_breaks (hb : ReadsBranches branch n) (h : modifier branch start c = .error f) :
    ModifierBreaks start c f ∨ ∃ (k : Cond) (b : Cursor), c.Spans k.chars b ∧
      b.startsWith "[" = true ∧ ListBreaks branch n b f := by
  rcases modifier_cases branch start c with
    ⟨f', hf, heq⟩ | ⟨name, b, d, -, heq⟩ | ⟨k, d, e, h₁, hbracket, heq⟩
  · obtain rfl : f' = f := Except.error.inj (heq.symm.trans h)
    exact .inl hf
  · simp [heq] at h
  · refine .inr ⟨k, d, h₁, startsWith_iff.2 ⟨e, hbracket⟩, ?_⟩
    rcases bind_eq_error.1 (heq ▸ h) with h | ⟨a, -, h⟩
    · rcases branches_cases hb hbracket with ⟨f', hf, hread⟩ | ⟨r, c₂, -, hread⟩
      · obtain rfl : f' = f := Except.error.inj (hread.symm.trans h)
        exact hf
      · simp [hread] at h
    · simp at h

end StreamLabel
