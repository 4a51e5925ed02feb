import StreamLabel.Proofs.Template.Fault
import StreamLabel.Proofs.Template.Append
import StreamLabel.Proofs.Template.Source
import StreamLabel.Proofs.Template.Tree
import StreamLabel.Template.Builder

/-!
# Where errors point

`Cause.PointsTo` lists what the text shows at the position of an error of each cause. The position is
often one that was kept while reading went on, the brace of a placeholder or the bracket of a list of
branches, so it is read off the place where reading broke off, and not off the cursor there: every
rule of `Breaks` names a position in front of its place and the character that stands there. Hence a
text either is read, and then each of its placeholders has the branches that the builder asks for, or
has an error inside it that points to what it says (`parse_ok_or_points`).
-/

namespace StreamLabel
open Unicode Reader Cursor Layout

variable {c d e : Cursor} {n m : Nat} {f : Fault} {quote quote' : Option Nat}

/-- A modifier must begin with `rest`: `before` ends with a placeholder up to the blanks behind its
two colons. -/
def BeginsModifier (n : Nat) (before rest : List Char) : Prop :=
  ∃ (m : Nat) (quote : Option Nat) (c : Cursor) (p : Front),
    Reaches n none ⟨0, before ++ rest⟩ m quote c ∧ c.Spans p.chars ⟨before.length, rest⟩ ∧
      Stops isBlank rest

/-- The list of branches that opens with `rest` is open at the end of the text, and nothing that
opens behind its bracket is. -/
def BeginsLastOpenList (n : Nat) (before rest : List Char) : Prop :=
  ∃ (m : Nat) (quote : Option Nat) (c d : Cursor) (p : Front) (k : Cond) (part : ListPart),
    Reaches n none ⟨0, before ++ rest⟩ m quote c ∧ BracketAt p k c ⟨before.length, rest⟩ ∧
      ListTo m ⟨before.length, rest⟩ part d ∧ d.rest = []

/-- The part is not what begins with `rest`. -/
def Expected.Lacks (rest : List Char) : Expected → Prop
  | .space | .property => Stops isAsciiNameStart rest
  | .dot => ¬ ".".toList <+: rest
  | .brace => ¬ "\x7d".toList <+: rest

/-- What the text shows where an error points: `x`, between `before` and `after`. The branches may
have `n` levels. -/
def Cause.PointsTo (n : Nat) (before : List Char) (x : Char) (after : List Char) : Cause → Prop
  | .openPlaceholder | .missingBrace | .openRegex => x = '\x7b'
  | .openBranch | .tooDeep _ => x = '"'
  | .regexWithoutBranches | .unclosedRegex => x = '/'
  | .comparisonWithoutBranches => x = '>' ∨ x = '<' ∨ x = '='
  -- the text of a condition ends at a bracket, and what was read always fits
  | .conditionWithoutBranches _ | .unbuilt _ => False
  | .unknownNamespace name =>
    Namespace.ofName? name = none ∧ isAsciiNameStart x = true ∧
      (x :: after).takeWhile isAsciiNamePart = name.toList ∧ Stops isAsciiNamePart before.reverse
  | .invalidModifier y => x = y ∧ BeginsModifier n before (x :: after)
  | .formatterWithBranches name =>
    (x :: after).takeWhile isAsciiNamePart = name.toList ∧ BeginsModifier n before (x :: after)
  | .openBranches => x = '[' ∧ BeginsLastOpenList n before (x :: after)
  | .expectedQuote => ¬ "\"".toList <+: x :: after
  | .expectedBars => ¬ "||".toList <+: x :: after
  | .expectedBracket => ¬ "]".toList <+: x :: after
  | .expected part => part.Lacks (x :: after)

/-- The position of the fault lies in the text `s`, and the text shows there what the cause says. -/
def Fault.PointsInto (n : Nat) (s : List Char) (f : Fault) : Prop :=
  ∃ (before : List Char) (x : Char) (after : List Char), s = before ++ x :: after ∧
    f.position = before.length ∧ f.cause.PointsTo n before x after

/-! ### Places -/

/-- `d` is a place behind `c` in the same text. -/
def Cursor.Precedes (c d : Cursor) : Prop := ∃ xs, c.Spans xs d

namespace Cursor.Precedes

theorem refl (c : Cursor) : c.Precedes c := ⟨[], Spans.refl c⟩

theorem trans (h : c.Precedes d) (h' : d.Precedes e) : c.Precedes e := by
  obtain ⟨xs, h⟩ := h
  obtain ⟨ys, h'⟩ := h'
  exact ⟨xs ++ ys, h.trans h'⟩

end Cursor.Precedes

theorem Cursor.Spans.precedes {xs : List Char} (h : c.Spans xs d) : c.Precedes d := ⟨xs, h⟩

theorem ListTo.precedes {b : Cursor} {part : ListPart} (h : ListTo n b part d) : b.Precedes d := by
  induction h with
  | bracket _ h => exact h.precedes
  | yes _ hl _ hd ih => exact ih.trans (hl.spans.precedes.trans hd.precedes)
  | bars _ _ hd ih => exact ih.trans hd.precedes
  | no _ hl _ hd ih => exact ih.trans (hl.spans.precedes.trans hd.precedes)

theorem EntersBranch.precedes (h : EntersBranch n c d) : c.Precedes d := by
  obtain ⟨p, k, hb, hl, -, -⟩ := h
  exact hb.spans.precedes.trans hl.precedes

theorem Reaches.precedes (h : Reaches n quote c m quote' d) : c.Precedes d := by
  induction h with
  | here => exact .refl _
  | unit h _ _ ih => exact h.precedes.trans ih
  | slot h _ ih =>
    obtain ⟨_, _, h₁, h₂⟩ := h.exists_spans
    exact h₁.precedes.trans (h₂.precedes.trans ih)
  | branch h hd _ ih => exact h.precedes.trans (hd.precedes.trans ih)

/-- The quote of a branch that is open stands in the text. -/
theorem Reaches.quote_eq (h : Reaches n quote c m quote' d) :
    quote' = quote ∨ ∃ q, c.Precedes q ∧ q.startsWith "\"" = true ∧ quote' = some q.pos := by
  induction h with
  | here => exact .inl rfl
  | unit h _ _ ih =>
    exact ih.imp_right fun ⟨q, hq, hs⟩ => ⟨q, h.precedes.trans hq, hs⟩
  | slot h _ ih =>
    obtain ⟨_, _, h₁, h₂⟩ := h.exists_spans
    exact ih.imp_right fun ⟨q, hq, hs⟩ => ⟨q, h₁.precedes.trans (h₂.precedes.trans hq), hs⟩
  | branch h hd _ ih =>
    rcases ih with hquote | ⟨q, hq, hs⟩
    · exact .inr ⟨_, h.precedes, h.startsWith, hquote⟩
    · exact .inr ⟨q, h.precedes.trans (hd.precedes.trans hq), hs⟩

/-! ### Faults -/

variable {s : List Char} {x : Char} {after : List Char}

theorem Fault.pointsInto {k : Cursor} (h : Cursor.Precedes ⟨0, s⟩ k) (hk : k.rest = x :: after)
    (hpos : f.position = k.pos)
    (hf : ∀ before, s = before ++ x :: after → k = ⟨before.length, x :: after⟩ →
      f.cause.PointsTo n before x after) : f.PointsInto n s := by
  obtain ⟨before, h⟩ := h
  obtain ⟨pos, rest⟩ := k
  obtain rfl : rest = x :: after := hk
  obtain rfl : s = before ++ x :: after := h.rest
  obtain rfl : pos = before.length := by simpa using h.pos
  exact ⟨before, x, after, rfl, hpos, hf before rfl rfl⟩

/-- Where a part of a placeholder is missing, or its brace if nothing is left. -/
theorem placeholderFault_pointsInto (hc : Cursor.Precedes ⟨0, s⟩ c) (hbrace : c.Spans ['\x7b'] e)
    (hd : c.Precedes d) {part : Expected} (hpart : part.Lacks d.rest) :
    (placeholderFault c.pos part d).PointsInto n s := by
  unfold placeholderFault
  cases hrest : d.rest with
  | nil => exact Fault.pointsInto hc hbrace.rest rfl fun _ _ _ => rfl
  | cons x after =>
    rw [hrest] at hpart
    exact Fault.pointsInto (hc.trans hd) hrest rfl fun _ _ _ => hpart

theorem ReferenceBreaks.pointsInto (hc : Cursor.Precedes ⟨0, s⟩ c) (hbrace : c.Spans ['\x7b'] d)
    (h : ReferenceBreaks c.pos d f) : f.PointsInto n s := by
  cases h with
  | space b h hd hn =>
    exact placeholderFault_pointsInto hc hbrace (hbrace.precedes.trans h.precedes) hn
  | dot b₁ space b₂ h hd hdot =>
    exact placeholderFault_pointsInto hc hbrace (hbrace.precedes.trans h.precedes)
      (startsWith_eq_false_iff.1 hdot)
  | property b₁ space b₂ b₃ h hd hn =>
    exact placeholderFault_pointsInto hc hbrace (hbrace.precedes.trans h.precedes) hn
  | @unknown b name k e h hname he hspace =>
    obtain ⟨y, ys, hy, hstart, -⟩ := name.exists_cons
    have hrest : k.rest = y :: (ys ++ e.rest) := by rw [hname.rest, hy]; rfl
    refine Fault.pointsInto (hc.trans (hbrace.precedes.trans h.precedes)) hrest rfl
      fun before hs hk => ⟨hspace, hstart, ?_, ?_⟩
    · rw [← hrest, hname.rest, String.toList_ofList]
      exact Stops.takeWhile_append name.isAsciiNamePart he
    · -- the brace and blanks stand in front of the name
      obtain ⟨front, hfront⟩ := hc
      have hbefore : Cursor.Spans ⟨0, s⟩ before k := ⟨by rw [hs, hrest], by rw [hk, Nat.zero_add]⟩
      rw [hbefore.eq_left (hfront.trans (hbrace.trans h)), List.reverse_append, List.reverse_append,
        List.append_assoc]
      refine Stops.append (fun z hz => ?_) (Stops.cons_iff.2 rfl)
      exact isAsciiNamePart_of_isBlank (b.blank z (List.mem_reverse.1 hz))

theorem CompareOp.symbol_eq_cons (op : CompareOp) :
    ∃ x xs, op.symbol.toList = x :: xs ∧ (x = '>' ∨ x = '<' ∨ x = '=') := by
  cases op <;> exact ⟨_, _, rfl, by decide⟩

theorem ModifierBreaks.pointsInto {p : Front} (hr : Reaches n none ⟨0, s⟩ m quote c)
    (hp : c.Spans p.chars d) (hd : Stops isBlank d.rest) (h : ModifierBreaks c.pos d f) :
    f.PointsInto n s := by
  obtain ⟨e, hbrace⟩ := p.exists_brace hp
  have hc := hr.precedes
  have hmod := hc.trans hp.precedes
  have hbegins : ∀ {x after before}, d.rest = x :: after → s = before ++ x :: after →
      d = ⟨before.length, x :: after⟩ → BeginsModifier n before (x :: after) := by
    intro x after before hrest hs hk
    exact ⟨m, quote, c, p, hs ▸ hr, hk ▸ hp, hrest ▸ hd⟩
  cases h with
  | missing => exact Fault.pointsInto hc hbrace.rest rfl fun _ _ _ => rfl
  | openRegex => exact Fault.pointsInto hc hbrace.rest rfl fun _ _ _ => rfl
  | openOperand => exact Fault.pointsInto hc hbrace.rest rfl fun _ _ _ => rfl
  | regexWithoutBranches h => exact Fault.pointsInto hmod h.rest rfl fun _ _ _ => rfl
  | unclosedRegex h => exact Fault.pointsInto hmod h.rest rfl fun _ _ _ => rfl
  | comparisonWithoutBranches op hop h =>
    obtain ⟨x, xs, hx, hop⟩ := op.symbol_eq_cons
    rw [hx] at h
    exact Fault.pointsInto hmod h.rest rfl fun _ _ _ => hop
  | invalid h => exact Fault.pointsInto hmod h.rest rfl fun _ hs hk => ⟨rfl, hbegins h.rest hs hk⟩
  | @formatterWithBranches name b k _ h he =>
    obtain ⟨y, ys, hy, -⟩ := name.exists_cons
    have hrest : d.rest = y :: (ys ++ (b.chars ++ k.rest)) := by rw [h.rest, hy]; simp
    refine Fault.pointsInto hmod hrest rfl fun _ hs hk => ⟨?_, hbegins hrest hs hk⟩
    rw [← hrest, h.rest, List.append_assoc, String.toList_ofList]
    refine Stops.takeWhile_append name.isAsciiNamePart (Stops.append (fun z hz => ?_) (he.stops rfl))
    exact isAsciiNamePart_of_isBlank (b.blank z hz)

theorem SlotBreaks.pointsInto (hr : Reaches n none ⟨0, s⟩ m quote c) (h : SlotBreaks m c f) :
    f.PointsInto n s := by
  have hc := hr.precedes
  cases h with
  | reference h hf => exact hf.pointsInto hc h
  | modifier p h hd hf => exact hf.pointsInto hr h hd
  | @list p k b d part h hl hd hm =>
    have hb := hc.trans h.spans.precedes
    unfold branchesFault
    cases hrest : d.rest with
    | nil =>
      obtain ⟨e, he⟩ := startsWith_iff.1 h.bracket
      refine Fault.pointsInto hb he.rest rfl fun before hs hk => ⟨rfl, ?_⟩
      exact ⟨m, quote, c, d, p, k, part, hs ▸ hr, hk ▸ h, hk ▸ hl, hrest⟩
    | cons x after =>
      refine Fault.pointsInto (hb.trans hl.precedes) hrest rfl fun _ _ _ => ?_
      rw [startsWith_eq_false_iff, hrest] at hm
      cases part <;> exact hm
  | brace h hd hm =>
    rw [startsWith_eq_false_iff] at hm
    cases h with
    | value r b h =>
      obtain ⟨e, he, -⟩ := spans_cons_iff.1 h
      exact placeholderFault_pointsInto hc he h.precedes hm
    | formatted p name b h =>
      obtain ⟨e, he, -⟩ := spans_cons_iff.1 h
      exact placeholderFault_pointsInto hc he h.precedes hm
    | choice p k blanks h hl hd =>
      obtain ⟨e, he, -⟩ := spans_cons_iff.1 h.spans
      exact placeholderFault_pointsInto hc he
        (h.spans.precedes.trans (hl.precedes.trans hd.precedes)) hm

theorem Breaks.pointsInto {limit : Int} (hr : Reaches n none ⟨0, s⟩ m quote c)
    (h : Breaks limit m quote c f) : f.PointsInto n s := by
  cases h with
  | @openBranch q hq hnil =>
    rcases hr.quote_eq with rfl | ⟨k, hk, hstarts, rfl⟩
    · simp at hq
    · obtain ⟨e, he⟩ := startsWith_iff.1 hstarts
      obtain rfl := Option.some.inj hq
      exact Fault.pointsInto hk he.rest rfl fun _ _ _ => rfl
  | slot h => exact h.pointsInto hr
  | tooDeep hn h =>
    obtain ⟨e, he⟩ := startsWith_iff.1 h.startsWith
    exact Fault.pointsInto (hr.precedes.trans h.precedes) he.rest rfl fun _ _ _ => rfl

theorem template_error_pointsInto {limit : Int} (h : Reader.template limit s = .error f) :
    f.PointsInto limit.toNat s := by
  obtain ⟨m, quote, d, hd, hf⟩ := exists_breaks limit (c := ⟨0, s⟩) h
  exact hf.pointsInto hd

/-! ### Placeholders of a tree -/

/-- The modifier has the branches it asks for: both for a condition, and none otherwise. -/
def Modifier.Fits : StreamLabel.Modifier → (yes no : Option (List Node × String)) → Prop
  | .condition _, yes, no => yes.isSome = true ∧ no.isSome = true
  | .none, yes, no | .format _, yes, no => yes.isNone = true ∧ no.isNone = true
  | .foreign _, _, _ => False

theorem exists_build_iff_fits {position : Nat} {ref : Reference} {m : StreamLabel.Modifier}
    {yes no : Option (List Node × String)} :
    (∃ node, Node.build position ref m yes no = .ok node) ↔ m.Fits yes no := by
  cases m <;> cases yes <;> cases no <;> simp [Node.build, Modifier.Fits]

/-- The node is what the builder makes of parts that fit. -/
def Node.IsBuilt (node : Node) : Prop :=
  ∃ (position : Nat) (ref : Reference) (m : StreamLabel.Modifier)
    (yes no : Option (List Node × String)),
    m.Fits yes no ∧ Node.build position ref m yes no = .ok node

theorem Node.isBuilt_of_build {position : Nat} {ref : Reference} {node : Node}
    (m : StreamLabel.Modifier) (yes no : Option (List Node × String))
    (h : Node.build position ref m yes no = .ok node) : node.IsBuilt :=
  ⟨position, ref, m, yes, no, exists_build_iff_fits.1 ⟨node, h⟩, h⟩

/-- Every placeholder of a layout is built of its parts. -/
theorem Layout.isBuilt {node : Node} (l : Layout) (pos : Nat)
    (h : node ∈ Node.placeholdersAll (l.nodesAt pos)) : node.IsBuilt := by
  induction l generalizing pos with
  | done => simp [nodesAt, Node.placeholdersAll] at h
  | text us rest ih =>
    simp only [nodesAt, Node.placeholdersAll, Node.placeholders, List.nil_append] at h
    exact ih _ h
  | value ref b rest ih =>
    simp only [nodesAt, Node.placeholdersAll, Node.placeholders, List.mem_append,
      List.mem_singleton] at h
    rcases h with rfl | h
    · exact Node.isBuilt_of_build .none none none rfl
    · exact ih _ h
  | formatted ref b₁ b₂ name b₃ rest ih =>
    simp only [nodesAt, Node.placeholdersAll, Node.placeholders, List.mem_append,
      List.mem_singleton] at h
    rcases h with rfl | h
    · exact Node.isBuilt_of_build (.format _) none none rfl
    · exact ih _ h
  | choice f yes no rest ihyes ihno ih =>
    simp only [nodesAt, Node.placeholdersAll, Node.placeholders, List.mem_append,
      List.mem_cons] at h
    rcases h with (rfl | h | h) | h
    · exact Node.isBuilt_of_build (.condition _) (some (_, _)) (some (_, _)) rfl
    · exact ihyes _ h
    · exact ihno _ h
    · exact ih _ h

/-! ### Templates -/

theorem parse_error_points {s : String} {limit : Int} {e : ParseError}
    (h : Template.parse s limit = .error e) :
    ∃ (before : List Char) (x : Char) (after : List Char), s.toList = before ++ x :: after ∧
      e.position = before.length ∧ e.byteOffset = (String.ofList before).utf8ByteSize ∧
      e.cause.PointsTo limit.toNat before x after := by
  rw [Template.parse] at h
  cases hread : Reader.template limit s.toList with
  | ok out => simp [hread] at h
  | error f =>
    obtain ⟨before, x, after, hs, hpos, hpoints⟩ := template_error_pointsInto hread
    rw [hread] at h
    cases h
    refine ⟨before, x, after, hs, hpos, ?_, hpoints⟩
    have htake : s.toList.take f.position = before := by rw [hs, hpos, List.take_left]
    dsimp only
    rw [htake, ← utf8Length_toList, String.toList_ofList]

/-- A text is read, with nothing but placeholders that have their branches, or has an error inside it
that points to what its cause says. The error is reported exactly if no half of a surrogate pair
stands in front of it and its message can be written. -/
theorem parse_ok_or_points (s : CodePoints) (limit : Int) :
    (∃ t, Template.read s limit = .ok t ∧ ∀ node ∈ t.placeholders, node.IsBuilt) ∨
      ∃ (e : ParseError) (before : CodePoints) (x : Nat) (after : CodePoints),
        Template.read s limit = .error (.ofError s e) ∧ s = before ++ x :: after ∧
          e.position = before.length ∧ e.byteOffset = before.text.utf8ByteSize ∧
          e.cause.PointsTo limit.toNat before.chars (CodePoints.charOf x) after.chars ∧
          (Template.Failure.ofError s e = .error e ↔
            e.cause.isWritable = true ∧ ∀ n ∈ before, CodePoints.isHalf n = false) := by
  cases hread : Template.read s limit with
  | ok t =>
    obtain ⟨l, -, ht⟩ := parse_eq_ok_iff_toNat.1 (Template.read_eq_ok_iff.1 hread)
    rw [ht]
    exact .inl ⟨_, rfl, fun node => l.isBuilt 0⟩
  | error f =>
    obtain ⟨e, he, rfl⟩ := Template.read_eq_error_iff.1 hread
    obtain ⟨cs, c, ds, hs, hpos, hbytes, hpoints⟩ := parse_error_points he
    rw [CodePoints.toList_text] at hs
    obtain ⟨before, rest, rfl, rfl, hrest⟩ := List.map_eq_append_iff.1 hs
    obtain ⟨x, after, rfl, rfl, rfl⟩ := List.map_eq_cons_iff.1 hrest
    rw [List.length_map] at hpos
    refine .inr ⟨e, before, x, after, rfl, rfl, hpos, hbytes, hpoints, ?_⟩
    rw [Template.Failure.ofError_eq_iff, ParseError.Reportable, hpos, List.take_left]

/-- A text that begins with half of a surrogate pair is neither read nor is its error reported. -/
theorem exists_parse_neither :
    ¬ ∀ (s : CodePoints) (limit : Int),
      (∃ t, Template.read s limit = .ok t) ∨ ∃ e, Template.read s limit = .error (.error e) := by
  intro h
  have hread : Template.read [0xd800, 0x7b, 0x78] 32 = .error (.unencodable ⟨0, [0xd800]⟩) := by rfl
  rcases h [0xd800, 0x7b, 0x78] 32 with ⟨t, ht⟩ | ⟨e, he⟩
  · cases hread.symm.trans ht
  · cases hread.symm.trans he

end StreamLabel
