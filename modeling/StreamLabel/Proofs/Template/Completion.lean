import StreamLabel.Proofs.Template.Fault
import Mathlib

/-!
# Texts that are not finished

Where reading breaks off in an open placeholder, or in an open branch at the end of the text, nothing
that has been read is wrong: some text behind it closes what is open (`Breaks.completable`). It closes
the branches around it too, from the inside out, and what was read in front of it stays a part of what
is read then (`Reaches.completable`). So every text that is said to be unterminated begins one that is
a template (`exists_completion`). One more level of branches is asked for, since a condition may be open
at the last level that the limit allows, and only branches close it.
-/

namespace StreamLabel
open Unicode Reader Cursor Layout

variable {c d e : Cursor} {n m : Nat} {inBranch : Bool} {quote quote' : Option Nat}

/-- The text ends inside a placeholder or a branch. -/
def Cause.IsOpen (k : Cause) : Prop :=
  k.kind = .unterminatedPlaceholder ∨ k.kind = .unterminatedBranch

/-- With more text behind it, what is left at `c` is a layout whose branches nest at most `n` deep. If
nothing is left, a backslash in front of `c` escapes nothing of it. -/
def Completable (inBranch : Bool) (n : Nat) (c : Cursor) : Prop :=
  ∃ (l : Layout) (more : List Char), l.Ok inBranch ∧ l.depth ≤ n ∧ l.chars = c.rest ++ more ∧
    (c.rest = [] → Stops isEscapable (more ++ ['"']))

/-! ### More text -/

/-- The same place with `more` behind the text. -/
def Cursor.extend (more : List Char) (c : Cursor) : Cursor := ⟨c.pos, c.rest ++ more⟩

theorem Cursor.Spans.extend {xs : List Char} (h : c.Spans xs d) (more : List Char) :
    (c.extend more).Spans xs (d.extend more) :=
  ⟨by simp [Cursor.extend, h.rest], h.pos⟩

theorem QuotedAt.extend {l : Layout} (h : QuotedAt n l c d) (hn : n ≤ m) (more : List Char) :
    QuotedAt m l (c.extend more) (d.extend more) :=
  ⟨h.ok, h.depth_lt.trans_le hn, h.spans.extend more⟩

theorem Slot.exists_extend {node : Node} (h : Slot n c d node) (hn : n ≤ m) (more : List Char) :
    ∃ node', Slot m (c.extend more) (d.extend more) node' := by
  cases h with
  | value ref b h => exact ⟨_, .value ref b (h.extend more)⟩
  | formatted ref b₁ b₂ name b₃ h => exact ⟨_, .formatted ref b₁ b₂ name b₃ (h.extend more)⟩
  | choice f h₁ hy h₂ hn' h₃ =>
    exact ⟨_, .choice f (h₁.extend more) (hy.extend hn more) (h₂.extend more) (hn'.extend hn more)
      (h₃.extend more)⟩

/-! ### Parts in front -/

/-- A unit in front of a layout belongs to its first run of text, or is a run of its own. -/
theorem Layout.Ok.exists_unit {u : TextUnit} {l : Layout} (hu : u.Ok inBranch (l.chars ++ ['"']))
    (hl : l.Ok inBranch) :
    ∃ l' : Layout, l'.Ok inBranch ∧ l'.depth = l.depth ∧ l'.chars = u.chars ++ l.chars := by
  have hrun : ¬ l.IsText → ∃ l' : Layout, l'.Ok inBranch ∧ l'.depth = l.depth ∧
      l'.chars = u.chars ++ l.chars := by
    intro htext
    have hus : TextUnit.AllOk inBranch (l.chars ++ ['"']) [u] := ⟨hu, trivial⟩
    obtain ⟨l', hl', hdepth, hchars, -⟩ := exists_text hus hl htext
    exact ⟨l', hl', hdepth, by simpa using hchars⟩
  cases l with
  | text us rest =>
    obtain ⟨-, hus, hrest, hok⟩ := hl
    rw [Layout.chars, List.append_assoc] at hu
    exact ⟨.text (u :: us) rest, ⟨by simp, ⟨hu, hus⟩, hrest, hok⟩, rfl, by simp [Layout.chars]⟩
  | done | value _ _ _ | formatted _ _ _ _ _ _ | choice _ _ _ _ => exact hrun id

namespace Completable

theorem unit {u : TextUnit} (h : Completable inBranch n d) (hc : c.Spans u.chars d)
    (hu : u.Ok inBranch d.rest) : Completable inBranch n c := by
  obtain ⟨l, more, hok, hl, hchars, hmore⟩ := h
  have hu' : u.Ok inBranch (l.chars ++ ['"']) := by
    rw [hchars, List.append_assoc]
    cases hrest : d.rest with
    | cons x r => exact hu.congr fun _ => by simp [hrest]
    | nil =>
      cases u with
      | plain x => exact ⟨hu.1, fun hb => ⟨(hu.2 hb).1, fun _ => hmore hrest⟩⟩
      | escaped x => exact hu
  obtain ⟨l', hok', hdepth, hchars'⟩ := Layout.Ok.exists_unit hu' hok
  refine ⟨l', more, hok', hdepth ▸ hl, by rw [hchars', hchars, hc.rest, List.append_assoc], ?_⟩
  rw [hc.rest]
  exact fun h => absurd (List.append_eq_nil_iff.1 h).1 u.chars_ne_nil

theorem slot {node : Node} (h : Completable inBranch m d) (hc : Slot n c d node) (hn : n ≤ m) :
    Completable inBranch m c := by
  obtain ⟨l, more, hok, hl, hchars, -⟩ := h
  obtain ⟨node', hslot⟩ := hc.exists_extend hn more
  obtain ⟨l', hok', -, hl', hspans, -⟩ := hslot.cons hok hl
  have hd : (d.extend more).Spans l.chars ⟨d.pos + l.chars.length, []⟩ :=
    ⟨by simp [Cursor.extend, hchars], rfl⟩
  refine ⟨l', more, hok', hl', by simpa [Cursor.extend] using (hspans _ hd).rest.symm, ?_⟩
  obtain ⟨xs, e, he, -⟩ := hc.exists_spans
  rw [he.rest]
  exact fun h => absurd h (by simp)

/-- A layout of which nothing but `more` is missing. -/
theorem of_layout {l : Layout} (more : List Char) (hok : l.Ok inBranch) (hl : l.depth ≤ n)
    (hbrace : c.Spans ['\x7b'] e) (h : l.chars = c.rest ++ more) : Completable inBranch n c :=
  ⟨l, more, hok, hl, h, by rw [hbrace.rest]; exact fun h => absurd h (by simp)⟩

end Completable

/-! ### Branches -/

theorem BracketAt.exists_brace {b : Cursor} {p : Front} {k : Cond} (h : BracketAt p k c b) :
    ∃ e, c.Spans ['\x7b'] e := by
  obtain ⟨a, hp, -⟩ := spans_append_iff.1 h.spans
  exact p.exists_brace hp

/-- A list of branches up to its second quote. -/
theorem ListTo.exists_bars {b : Cursor} (h : ListTo n b .bars d) :
    ∃ (b₁ b₂ b₃ : Blanks) (yes : Layout), yes.Ok true ∧ yes.depth < n ∧
      b.Spans ('[' :: (b₁.chars ++ (inQuotes yes.chars ++ (b₂.chars ++ '|' :: '|' :: b₃.chars)))) d := by
  cases h with
  | bars h₂ b₃ h₃ =>
    cases h₂ with
    | yes h₁ hy b₂ h₂ =>
      cases h₁ with
      | bracket b₁ h₁ =>
        exact ⟨b₁, b₂, b₃, _, hy.ok, hy.depth_lt, h₁.trans (hy.spans.trans (h₂.trans h₃))⟩

/-- A list of branches up to its closing bracket. -/
theorem ListTo.exists_no {b : Cursor} (h : ListTo n b .no d) :
    ∃ (b₁ b₂ b₃ b₄ : Blanks) (yes no : Layout), yes.Ok true ∧ yes.depth < n ∧ no.Ok true ∧
      no.depth < n ∧
      b.Spans ('[' :: (b₁.chars ++ (inQuotes yes.chars ++ (b₂.chars ++ '|' :: '|' :: (b₃.chars ++
        (inQuotes no.chars ++ b₄.chars)))))) d := by
  cases h with
  | no h₃ hn b₄ h₄ =>
    obtain ⟨b₁, b₂, b₃, yes, hyes, hdepth, h₁⟩ := h₃.exists_bars
    refine ⟨b₁, b₂, b₃, b₄, yes, _, hyes, hdepth, hn.ok, hn.depth_lt, ?_⟩
    simpa using h₁.trans (hn.spans.trans h₄)

namespace Completable

/-- A placeholder with branches of which nothing but `more` is missing. -/
theorem of_choice (f : Frame) (yes no : Layout) (more : List Char) (hy : yes.Ok true)
    (hn : no.Ok true) (hyn : yes.depth ≤ n) (hnn : no.depth ≤ n) (hbrace : c.Spans ['\x7b'] e)
    (h : f.opening ++ (inQuotes yes.chars ++ (f.middle ++ (inQuotes no.chars ++ f.closing))) =
      c.rest ++ more) : Completable inBranch (n + 1) c := by
  refine .of_layout (l := .choice f yes no .done) more ⟨hy, hn, trivial⟩ ?_ hbrace ?_
  · simp only [Layout.depth]; omega
  · simpa [Layout.chars] using h

/-- A branch is completed together with its placeholder. -/
theorem branch (h : Completable true n e) (hc : EntersBranch m c d) (hd : d.Spans ['"'] e)
    (hm : m ≤ n + 1) : Completable inBranch (n + 1) c := by
  obtain ⟨l, more, hok, hl, hchars, -⟩ := h
  obtain ⟨p, k, hb, hlist, hpart, -⟩ := hc
  obtain ⟨e', hbrace⟩ := hb.exists_brace
  cases hlist with
  | bracket b₁ h₁ =>
    let f : Frame := ⟨p.ref, p.beforeColons, p.beforeModifier, k, b₁, .none, .none, .none, .none⟩
    refine .of_choice f l .done (more ++ "\"||\"\"]\x7d".toList) hok trivial hl (Nat.zero_le _)
      hbrace ?_
    simp [f, Frame.opening, Frame.middle, Frame.closing, inQuotes, hchars, Layout.chars, Blanks.none,
      hb.spans.rest, Front.chars, h₁.rest, hd.rest]
  | bars h₂ b₃ h₃ =>
    obtain ⟨b₁, b₂, b₃, yes, hyes, hdepth, hrest⟩ := (ListTo.bars h₂ b₃ h₃).exists_bars
    let f : Frame := ⟨p.ref, p.beforeColons, p.beforeModifier, k, b₁, b₂, b₃, .none, .none⟩
    refine .of_choice f yes l (more ++ "\"]\x7d".toList) hyes hok
      (Nat.le_of_lt_succ (hdepth.trans_le hm)) hl hbrace ?_
    simp [f, Frame.opening, Frame.middle, Frame.closing, inQuotes, hchars, Blanks.none,
      hb.spans.rest, Front.chars, hrest.rest, hd.rest]
  | yes | no => simp [ListPart.next] at hpart

end Completable

/-! ### Placeholders -/

/-- The name of one letter. -/
def Layout.shortName : Name := ⟨['x'], by decide⟩

namespace Completable

/-- A condition that lacks `more` lacks its branches too. -/
theorem of_condition {p : Front} {k : Cond} (more : List Char) (hp : c.Spans p.chars d)
    (hk : k.chars = d.rest ++ more) : Completable inBranch (n + 1) c := by
  obtain ⟨e, hbrace⟩ := p.exists_brace hp
  let f : Frame := ⟨p.ref, p.beforeColons, p.beforeModifier, k, .none, .none, .none, .none, .none⟩
  refine .of_choice f .done .done (more ++ "[\"\"||\"\"]\x7d".toList) trivial trivial
    (Nat.zero_le _) (Nat.zero_le _) hbrace ?_
  simp [f, Frame.opening, Frame.middle, Frame.closing, inQuotes, Layout.chars, Blanks.none,
    Front.chars, hp.rest, hk]

end Completable

/-- A pattern without a slash is closed by one, behind a backslash that escapes the last one if need
be. -/
theorem exists_firstClose {cs : List Char} (h : hasSlash cs = false) :
    ∃ more, FirstClose ((cs ++ more) ++ '/' :: ['[']) (cs ++ more) := by
  have hlength : ∃ more, patternLength? ((cs ++ more) ++ '/' :: ['[']) = some (cs ++ more).length := by
    fun_induction hasSlash cs with
    | case1 => exact ⟨[], by decide⟩
    | case2 => exact ⟨['\\'], by decide⟩
    | case3 c cs ih =>
      obtain ⟨more, hmore⟩ := ih h
      exact ⟨more, by simpa using hmore⟩
    | case4 c cs h₁ h₂ ih =>
      simp only [Bool.or_eq_false_iff, beq_eq_false_iff_ne] at h
      obtain ⟨more, hmore⟩ := ih h.2
      refine ⟨more, ?_⟩
      rw [List.cons_append, List.cons_append, patternLength?_cons (ne_backslash h₁ h₂),
        if_neg fun hslash => h.1 hslash.1, hmore]
      rfl
  obtain ⟨more, hmore⟩ := hlength
  exact ⟨more, firstClose_iff.2 ⟨hmore, List.prefix_append ..⟩⟩

theorem rest_eq_nil_of_placeholderFault {start : Nat} {part : Expected}
    (h : (placeholderFault start part c).cause.IsOpen) : c.rest = [] := by
  unfold placeholderFault at h
  split at h
  · rename_i hnil
    exact List.isEmpty_iff.1 hnil
  · simp [Cause.IsOpen, Cause.kind] at h

variable {f : Fault}

theorem ReferenceBreaks.completable {start : Nat} (hc : c.Spans ['\x7b'] d)
    (h : ReferenceBreaks start d f) (hopen : f.cause.IsOpen) : Completable inBranch n c := by
  cases h with
  | space b h =>
    have hnil := rest_eq_nil_of_placeholderFault hopen
    refine .of_layout (l := .value ⟨b, .stream, .none, .none, shortName⟩ .none .done)
      "stream.x\x7d".toList trivial (Nat.zero_le _) hc ?_
    simp [Layout.chars, valueChars, Ref.chars, Namespace.name, Blanks.none, shortName, hc.rest, h.rest,
      hnil]
  | dot b₁ s b₂ h =>
    have hnil := rest_eq_nil_of_placeholderFault hopen
    refine .of_layout (l := .value ⟨b₁, s, b₂, .none, shortName⟩ .none .done)
      ".x\x7d".toList trivial (Nat.zero_le _) hc ?_
    simp [Layout.chars, valueChars, Ref.chars, Blanks.none, shortName, hc.rest, h.rest, hnil]
  | property b₁ s b₂ b₃ h =>
    have hnil := rest_eq_nil_of_placeholderFault hopen
    refine .of_layout (l := .value ⟨b₁, s, b₂, b₃, shortName⟩ .none .done)
      "x\x7d".toList trivial (Nat.zero_le _) hc ?_
    simp [Layout.chars, valueChars, Ref.chars, Blanks.none, shortName, hc.rest, h.rest, hnil]
  | unknown => simp [Cause.IsOpen, Cause.kind] at hopen

theorem ModifierBreaks.completable {start : Nat} {p : Front} (hp : c.Spans p.chars d)
    (h : ModifierBreaks start d f) (hopen : f.cause.IsOpen) :
    Completable inBranch (n + 1) c := by
  obtain ⟨e, hbrace⟩ := p.exists_brace hp
  cases h with
  | missing hnil =>
    refine .of_layout (l := .formatted p.ref p.beforeColons p.beforeModifier shortName .none .done)
      "x\x7d".toList trivial (Nat.zero_le _) hbrace ?_
    simp [Layout.chars, formattedChars, Blanks.none, shortName, hp.rest, Front.chars, hnil]
  | @openRegex k hk hslash _ =>
    obtain ⟨more, hmore⟩ := exists_firstClose hslash
    refine .of_condition (k := .regex (k.rest ++ more) .none hmore) (more ++ ['/']) hp ?_
    simp [Cond.chars, Blanks.none, hk.rest]
  | @openOperand op raw k hop hk hraw hnil =>
    have hrest : d.rest = op.symbol.toList ++ raw := by rw [hk.rest, hnil, List.append_nil]
    refine .of_condition (k := .compare op raw (hrest ▸ hop) hraw) [] hp ?_
    simp [Cond.chars, hrest]
  | regexWithoutBranches | unclosedRegex | comparisonWithoutBranches | invalid
    | formatterWithBranches => simp [Cause.IsOpen, Cause.kind] at hopen

theorem Unbraced.completable (h : Unbraced n c d) (hnil : d.rest = []) :
    Completable inBranch (n + 1) c := by
  cases h with
  | value r b h =>
    obtain ⟨e, hbrace, -⟩ := spans_cons_iff.1 h
    refine .of_layout (l := .value r b .done) ['\x7d'] trivial (Nat.zero_le _) hbrace ?_
    simp [Layout.chars, valueChars, h.rest, hnil]
  | formatted p name b h =>
    obtain ⟨a, hp, -⟩ := spans_append_iff.1 h
    obtain ⟨e, hbrace⟩ := p.exists_brace hp
    refine .of_layout (l := .formatted p.ref p.beforeColons p.beforeModifier name b .done) ['\x7d']
      trivial (Nat.zero_le _) hbrace ?_
    simp [Layout.chars, formattedChars, h.rest, Front.chars, hnil]
  | choice p k b₅ hb hlist hd =>
    obtain ⟨e, hbrace⟩ := hb.exists_brace
    obtain ⟨b₁, b₂, b₃, b₄, yes, no, hyes, hyn, hno, hnn, hrest⟩ := hlist.exists_no
    let f : Frame := ⟨p.ref, p.beforeColons, p.beforeModifier, k, b₁, b₂, b₃, b₄, b₅⟩
    refine .of_choice f yes no ['\x7d'] hyes hno hyn.le hnn.le hbrace ?_
    simp [f, Frame.opening, Frame.middle, Frame.closing, inQuotes, hb.spans.rest, Front.chars,
      hrest.rest, hd.rest, hnil]

theorem SlotBreaks.completable (h : SlotBreaks n c f) (hopen : f.cause.IsOpen) :
    Completable inBranch (n + 1) c := by
  cases h with
  | reference hc hf => exact hf.completable hc hopen
  | modifier p hp _ hf => exact hf.completable hp hopen
  | brace h _ _ => exact h.completable (rest_eq_nil_of_placeholderFault hopen)
  | @list p k b d part _ _ _ _ =>
    -- a list of branches that is open at the end of the text counts as malformed
    unfold branchesFault at hopen
    split at hopen
    · simp [Cause.IsOpen, Cause.kind] at hopen
    · cases part <;> simp [ListPart.cause, Cause.IsOpen, Cause.kind] at hopen

/-! ### Sequences -/

theorem Breaks.completable {limit : Int} (h : Breaks limit n quote c f) (hopen : f.cause.IsOpen) :
    Completable quote.isSome (n + 1) c := by
  cases h with
  | openBranch hq hnil =>
    -- a letter, so that a backslash at the end of the text does not escape the quote
    refine ⟨.text [.plain 'x'] .done, ['x'], ?_, Nat.zero_le _, ?_, fun _ => by decide⟩
    · exact ⟨by simp, ⟨⟨by decide, fun _ => ⟨by decide, by decide⟩⟩, trivial⟩, id, trivial⟩
    · simp [Layout.chars, hnil, TextUnit.chars]
  | tooDeep => simp [Cause.IsOpen, Cause.kind] at hopen
  | slot h => exact h.completable hopen

/-- By induction on the way: what can be completed at its end can be completed at its beginning. -/
theorem Reaches.completable (h : Reaches n quote c m quote' d)
    (hd : Completable quote'.isSome (m + 1) d) : Completable quote.isSome (n + 1) c := by
  induction h with
  | here => exact hd
  | unit hc hu _ ih => exact (ih hd).unit hc hu
  | slot hc _ ih => exact (ih hd).slot hc (Nat.le_succ _)
  | branch hc hquote _ ih => exact Completable.branch (ih hd) hc hquote (Nat.le_succ _)

/-! ### Templates -/

/-- A text that is said to be unterminated begins the text of a template. -/
theorem exists_completion {s : String} {limit : Nat} {e : ParseError}
    (h : Template.parse s limit = .error e)
    (hkind : e.kind = .unterminatedPlaceholder ∨ e.kind = .unterminatedBranch) :
    ∃ (more : String) (t : Template), Template.parse (s ++ more) (limit + 1 : Nat) = .ok t := by
  rw [Template.parse] at h
  split at h
  · simp at h
  rename_i f hread
  cases h
  obtain ⟨m, quote, d, hreach, hbreaks⟩ := exists_breaks limit (c := ⟨0, s.toList⟩) hread
  obtain ⟨l, more, hok, hdepth, hchars, -⟩ := hreach.completable (hbreaks.completable hkind)
  refine ⟨String.ofList more, _, parse_eq_ok_iff.2 ⟨l, ⟨hok, hdepth, ?_⟩, rfl⟩⟩
  rw [hchars, String.toList_append, String.toList_ofList]

/-- A backslash ends the text of a pattern, in the last branches that the limit allows. -/
theorem exists_completion_of_open_pattern :
    let s := "\x7bstream.title::>a[\"\"||\"é\x7bstream.year::/\\d\\\\\\"
    Template.parse s (1 : Nat) = .error ⟨.openRegex, 24, 25⟩ ∧
      ∃ (more : String) (t : Template), Template.parse (s ++ more) (2 : Nat) = .ok t := by
  intro s
  have h : Template.parse s (1 : Nat) = .error ⟨.openRegex, 24, 25⟩ := by cbv
  exact ⟨h, exists_completion h (.inl rfl)⟩

end StreamLabel
