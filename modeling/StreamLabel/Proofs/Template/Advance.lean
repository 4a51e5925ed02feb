import StreamLabel.Proofs.Template.ErrorPlace
import Mathlib.Data.List.DropRight
import Mathlib.Algebra.Group.Nat.Even

/-!
# Reading goes on

A reader that returns leaves its cursor in the same text, at the place where it was or behind it, and
behind it if there is a character that it cannot do without (`Cursor.Ahead`). None of this needs the
reader to be begun where it is called from: a reader that skips the character in front of it, whatever
it is, asks for another one behind it, and so does not return at the end of the text
(`ahead_of_skip`).
-/

namespace StreamLabel
open Unicode Reader Cursor Layout

variable {c d e : Cursor} {n m start : Nat}

/-- The place `d` is behind `c` in the same text, by `n` characters or more. -/
structure Cursor.Ahead (n : Nat) (c d : Cursor) : Prop where
  precedes : c.Precedes d
  pos_le : c.pos + n ≤ d.pos

theorem Cursor.Spans.ahead {xs : List Char} (h : c.Spans xs d) (hn : n ≤ xs.length) : c.Ahead n d :=
  ⟨h.precedes, by rw [h.pos]; omega⟩

namespace Cursor

namespace Ahead

theorem refl (c : Cursor) : c.Ahead 0 c := (Spans.refl c).ahead le_rfl

theorem trans (h : c.Ahead n d) (h' : d.Ahead m e) : c.Ahead (n + m) e :=
  ⟨h.precedes.trans h'.precedes, by have := h.pos_le; have := h'.pos_le; omega⟩

theorem mono (h : c.Ahead n d) (hm : m ≤ n) : c.Ahead m d :=
  ⟨h.precedes, by have := h.pos_le; omega⟩

/-- Every character between two places is one that the second has no longer in front of it. -/
theorem length_le (h : c.Ahead n d) : d.rest.length + n ≤ c.rest.length := by
  obtain ⟨⟨xs, hxs⟩, hle⟩ := h
  rw [hxs.pos] at hle
  rw [hxs.rest, List.length_append]
  omega

end Ahead

theorem ahead_skip (h : n ≤ c.rest.length) : c.Ahead n (c.skip n) := by
  have hspans : c.Spans (c.rest.take n) (c.skip (c.rest.take n).length) :=
    spans_skip (List.take_append_drop n c.rest).symm
  rw [List.length_take_of_le h] at hspans
  exact hspans.ahead (List.length_take_of_le h).ge

/-- What is read behind characters that are skipped is not beyond the end of the text. -/
theorem ahead_of_skip (hm : 0 < m) (h : (c.skip n).Ahead m d) : c.Ahead (n + m) d := by
  have hlength := h.length_le
  rw [skip, List.length_drop] at hlength
  exact (ahead_skip (by omega)).trans h

theorem ahead_skipWhile (p : Char → Bool) (c : Cursor) : c.Ahead 0 (c.skipWhile p) :=
  (spans_skipWhile p c).ahead (Nat.zero_le _)

theorem ahead_skipBlanks (c : Cursor) : c.Ahead 0 c.skipBlanks := ahead_skipWhile isBlank c

theorem ahead_of_skipBlanks (h : c.skipBlanks.Ahead n d) : c.Ahead n d :=
  ((ahead_skipBlanks c).trans h).mono (Nat.zero_add n).ge

/-- A token is passed. -/
theorem ahead_token {token : String} (h : c.startsWith token = true) :
    c.Ahead token.length (c.skip token.length) := by
  obtain ⟨e, he⟩ := startsWith_iff.1 h
  rw [← String.length_toList, he.skip_eq]
  exact he.ahead le_rfl

end Cursor

/-! ### Names, references and conditions -/

theorem ahead_name (c : Cursor) : c.Ahead 0 (name c).2 := by
  by_cases h : (name c).1 = ""
  · rw [(name_eq_empty h).1]
    exact .refl c
  · obtain ⟨n, -, hn⟩ := exists_name h
    exact hn.ahead (Nat.zero_le _)

theorem reference_ahead {r : Reference} (h : reference start c = .ok (r, d)) : c.Ahead 1 d := by
  rcases reference_cases start c with ⟨f, -, hf⟩ | ⟨r', d', hspans, hread⟩
  · simp [hf] at h
  · obtain ⟨-, rfl⟩ := Prod.mk.inj (Except.ok.inj (hread.symm.trans h))
    refine hspans.ahead ?_
    simp only [Ref.chars, List.length_append, List.length_cons]
    omega

theorem lt_of_patternLength? {cs : List Char} (h : patternLength? cs = some n) : n < cs.length := by
  obtain ⟨pattern, rfl, hfirst⟩ := firstClose_of_patternLength? h
  obtain ⟨-, b, after, hcs⟩ := hfirst.closes
  rw [hcs]
  simp

theorem regex_ahead {k : Condition} (h : regex start c = .ok (k, d)) : c.Ahead 2 d := by
  simp only [regex] at h
  split at h
  · rename_i n hn
    obtain ⟨-, rfl⟩ := Prod.mk.inj (Except.ok.inj h)
    have hlt := lt_of_patternLength? hn
    rw [List.length_drop] at hlt
    exact (ahead_skip (by omega)).mono (by omega)
  · split at h
    · simp at h
    · split at h <;> simp at h

theorem operand_ahead {modifier : Nat} {text : String}
    (h : operand start modifier c = .ok (text, d)) : c.Ahead 0 d := by
  obtain ⟨raw, e, -, hspans, -, -⟩ := operand_sound h
  exact hspans.ahead (Nat.zero_le _)

theorem condition_ahead {k : Condition} (h : condition start c = some (.ok (k, d))) :
    c.Ahead 1 d := by
  unfold condition at h
  split at h
  · exact (regex_ahead (Option.some.inj h)).mono (by decide)
  · obtain ⟨op, hop, h⟩ := Option.map_eq_some_iff.1 h
    split at h
    · rename_i text d' hoperand
      obtain ⟨-, rfl⟩ := Prod.mk.inj (Except.ok.inj h)
      have hsymbol : c.startsWith op.symbol = true := by simpa using List.find?_some hop
      have hone : 1 ≤ op.symbol.length := by cases op <;> decide
      exact ((ahead_token hsymbol).trans (operand_ahead hoperand)).mono hone
    · simp at h

/-! ### Placeholders -/

section Placeholders

/-- A reader of branches that passes the two quotes of each. -/
def PassesQuotes (branch : Reader (List Node × String)) : Prop :=
  ∀ (c d : Cursor) (out : List Node × String), branch c = .ok (out, d) → c.Ahead 2 d

variable {branch : Reader (List Node × String)}

theorem quotedBranch_ahead (hb : PassesQuotes branch) {out : List Node × String}
    (h : quotedBranch branch start c = .ok (out, d)) : c.Ahead 2 d := by
  unfold quotedBranch at h
  split at h
  · exact hb _ _ _ h
  · simp at h

theorem branches_ahead (hb : PassesQuotes branch)
    {both : (List Node × String) × (List Node × String)} (h : branches branch c = .ok (both, d)) :
    c.Ahead 1 d := by
  obtain ⟨⟨yes, c₁⟩, hyes, h⟩ := bind_eq_ok.1 h
  dsimp only at h
  split at h
  · rename_i hbars
    obtain ⟨⟨no, c₂⟩, hno, h⟩ := bind_eq_ok.1 h
    dsimp only at h
    split at h
    · rename_i hbracket
      obtain ⟨-, rfl⟩ := Prod.mk.inj (Except.ok.inj h)
      have h₁ := ahead_of_skipBlanks (quotedBranch_ahead hb hyes)
      have h₂ := ahead_of_skipBlanks (ahead_token hbars)
      have h₃ := ahead_of_skipBlanks (quotedBranch_ahead hb hno)
      have h₄ := ahead_of_skipBlanks (ahead_token hbracket)
      exact (ahead_of_skip (by decide) (h₁.trans (h₂.trans (h₃.trans h₄)))).mono (by decide)
    · simp at h
  · simp at h

theorem modifier_ahead (hb : PassesQuotes branch) {k : Reader.Modifier}
    (h : modifier branch start c = .ok (k, d)) : c.Ahead 1 d := by
  rcases modifier_cases branch start c with
    ⟨f, -, hf⟩ | ⟨name, b, d', hspans, hread⟩ | ⟨cond, d', e, hspans, -, hread⟩
  · simp [hf] at h
  · obtain ⟨-, rfl⟩ := Prod.mk.inj (Except.ok.inj (hread.symm.trans h))
    obtain ⟨x, xs, hname, -⟩ := name.exists_cons
    exact hspans.ahead (by simp [hname])
  · obtain ⟨⟨both, e⟩, hbranches, h⟩ := bind_eq_ok.1 (hread ▸ h)
    obtain ⟨-, rfl⟩ := Prod.mk.inj (Except.ok.inj h)
    exact ((hspans.ahead (Nat.zero_le _)).trans (branches_ahead hb hbranches)).mono le_rfl

theorem closing_ahead {r : Reference} {found : Reader.Modifier} {node : Node}
    (h : closing start r found c = .ok (node, d)) : c.Ahead 1 d := by
  obtain ⟨b, hspans, -⟩ := closing_sound h
  exact hspans.ahead (by simp)

theorem placeholder_ahead (hb : PassesQuotes branch) {node : Node}
    (h : placeholder branch c = .ok (node, d)) : c.Ahead 3 d := by
  rw [placeholder_eq_closing] at h
  obtain ⟨⟨r, c₁⟩, href, h⟩ := bind_eq_ok.1 h
  obtain ⟨⟨found, c₂⟩, hmod, hclose⟩ := bind_eq_ok.1 h
  have h₂ : c₁.Ahead 0 c₂ := by
    dsimp only [modification] at hmod
    split at hmod
    · rename_i hcolons
      have hmodifier := ahead_of_skipBlanks (modifier_ahead hb hmod)
      exact (ahead_of_skipBlanks ((ahead_token hcolons).trans hmodifier)).mono (Nat.zero_le _)
    · obtain ⟨-, rfl⟩ := Prod.mk.inj (Except.ok.inj hmod)
      exact ahead_skipBlanks c₁
  exact ahead_of_skip (by decide) ((reference_ahead href).trans (h₂.trans (closing_ahead hclose)))

end Placeholders

/-! ### Sequences and branches -/

/-- The backslashes at the end of the text are pairs, so none of them escapes what follows. -/
def EndsInPairs (cs : List Char) : Prop := Even (cs.rtakeWhile (· == '\\')).length

namespace EndsInPairs
variable {cs : List Char} {x : Char}

theorem nil : EndsInPairs [] := Even.zero

/-- Only what stands behind the last other character counts. -/
theorem append_cons_iff (xs : List Char) (hx : x ≠ '\\') :
    EndsInPairs (xs ++ x :: cs) ↔ EndsInPairs cs := by
  have heq : (xs ++ x :: cs).rtakeWhile (· == '\\') = cs.rtakeWhile (· == '\\') := by
    induction cs using List.reverseRecOn with
    | nil => simp [hx]
    | append_singleton cs y ih =>
      rw [← List.cons_append, ← List.append_assoc, List.rtakeWhile_concat, List.rtakeWhile_concat, ih]
  rw [EndsInPairs, EndsInPairs, heq]

theorem pair_cons_iff : EndsInPairs ('\\' :: '\\' :: cs) ↔ EndsInPairs cs := by
  unfold EndsInPairs
  induction cs using List.reverseRecOn with
  | nil => decide
  | append_singleton cs y ih =>
    rw [← List.cons_append, ← List.cons_append, List.rtakeWhile_concat, List.rtakeWhile_concat]
    split
    · simp only [List.length_append, List.length_singleton, Nat.even_add_one, ih]
    · rfl

theorem cons_iff (hx : x ≠ '\\') : EndsInPairs (x :: cs) ↔ EndsInPairs cs :=
  append_cons_iff [] hx

/-- The units of a branch end in pairs where something follows that a backslash would escape. -/
theorem allChars {us : List TextUnit} {next : List Char} (hus : TextUnit.AllOk true next us)
    (hnext : ¬ Stops isEscapable next) : EndsInPairs (TextUnit.allChars us) := by
  induction us with
  | nil => exact nil
  | cons u us ih =>
    obtain ⟨hu, hus⟩ := hus
    rw [TextUnit.allChars_cons]
    cases u with
    | escaped y =>
      by_cases hy : y = '\\'
      · subst hy
        exact pair_cons_iff.2 (ih hus)
      · exact (append_cons_iff ['\\'] hy).2 (ih hus)
    | plain y =>
      by_cases hy : y = '\\'
      · -- a plain backslash stands before a character that it cannot escape
        subst hy
        have hstops := (hu.2 rfl).2 rfl
        cases hcs : TextUnit.allChars us with
        | nil => exact absurd (by simpa [hcs] using hstops) hnext
        | cons z zs =>
          rw [hcs, List.cons_append, Stops.cons_iff] at hstops
          have hz : z ≠ '\\' := by
            rintro rfl
            exact absurd hstops (by decide)
          have htail := ih hus
          rw [hcs, cons_iff hz] at htail
          exact (append_cons_iff ['\\'] hz).2 htail
      · exact (cons_iff hy).2 (ih hus)

end EndsInPairs

/-- The text of a branch ends in pairs: in front of its quote there are units of text, the brace that
closes a placeholder, or nothing. -/
theorem Layout.Ok.endsInPairs {l : Layout} (h : l.Ok true) : EndsInPairs l.chars := by
  have hbrace : ∀ (xs : List Char) {cs : List Char}, EndsInPairs cs →
      EndsInPairs (xs ++ '\x7d' :: cs) :=
    fun xs cs hcs => (EndsInPairs.append_cons_iff _ (by decide)).2 hcs
  induction l with
  | done => exact .nil
  | text us rest ih =>
    obtain ⟨-, hus, htext, hrest⟩ := h
    have hopen : rest = .done ∨ ∃ cs, rest.chars = '\x7b' :: cs := by
      cases rest with
      | done => exact .inl rfl
      | text us rest => exact absurd trivial htext
      | value ref b rest => exact .inr ⟨_, rfl⟩
      | formatted ref b₁ b₂ name b₃ rest => exact .inr ⟨_, rfl⟩
      | choice f yes no rest => exact .inr ⟨_, rfl⟩
    rw [Layout.chars]
    rcases hopen with rfl | ⟨cs, hcs⟩
    · rw [Layout.chars, List.append_nil]
      exact .allChars hus (by decide)
    · have hrest := ih hrest
      rw [hcs, EndsInPairs.cons_iff (by decide)] at hrest
      rw [hcs]
      exact (EndsInPairs.append_cons_iff _ (by decide)).2 hrest
  | value ref b rest ih =>
    simpa [Layout.chars, valueChars] using hbrace ('\x7b' :: (ref.chars ++ b.chars)) (ih h)
  | formatted ref b₁ b₂ name b₃ rest ih =>
    have hfront := hbrace ('\x7b' :: (ref.chars ++ (b₁.chars ++ ':' :: ':' :: (b₂.chars ++
      (name.chars ++ b₃.chars))))) (ih h)
    simpa [Layout.chars, formattedChars] using hfront
  | choice f yes no rest _ _ ih =>
    have hfront := hbrace (f.opening ++ (inQuotes yes.chars ++ (f.middle ++ (inQuotes no.chars ++
      (f.afterNo.chars ++ ']' :: f.beforeBrace.chars))))) (ih h.2.2)
    simpa [Layout.chars, Frame.closing] using hfront

variable {limit : Int} {levels : Nat} {quote : Option Nat} {ns : List Node} {stop : Cursor}

theorem readFrom_ahead
    (h : readFrom (placeholder (branch limit levels)) quote c [] = .ok (ns, stop)) :
    c.Ahead 0 stop ∧ AtEnd quote stop := by
  have hph : ReadsSlots (placeholder (branch limit levels)) levels :=
    ReadsBranches.readsSlots (readsBranches limit levels)
  obtain ⟨l, -, -, hspans, hend, -⟩ := exists_layout hph h
  exact ⟨hspans.ahead (Nat.zero_le _), hend⟩

/-- The body of a branch ends in front of a quote that no backslash of it escapes. -/
theorem readFrom_branch_ends {q : Nat}
    (h : readFrom (placeholder (branch limit levels)) (some q) c [] = .ok (ns, stop)) :
    ∃ xs, c.Spans xs stop ∧ EndsInPairs xs ∧ ∃ after, stop.rest = '"' :: after := by
  have hph : ReadsSlots (placeholder (branch limit levels)) levels :=
    ReadsBranches.readsSlots (readsBranches limit levels)
  obtain ⟨l, hok, -, hspans, hend, -⟩ := exists_layout hph h
  obtain ⟨e, he⟩ := startsWith_iff.1 hend
  exact ⟨l.chars, hspans, hok.endsInPairs, e.rest, he.rest⟩

theorem branch_passesQuotes (limit : Int) (levels : Nat) : PassesQuotes (branch limit levels) := by
  intro c d out h
  cases levels with
  | zero => simp [branch] at h
  | succ levels =>
    obtain ⟨⟨ns, stop⟩, hread, h⟩ := bind_eq_ok.1 h
    obtain ⟨-, rfl⟩ := Prod.mk.inj (Except.ok.inj h)
    replace hread : readFrom (placeholder (branch limit levels)) (some c.pos) (c.skip 1) [] =
      .ok (ns, stop) := hread
    obtain ⟨hstop, hquote⟩ := readFrom_ahead hread
    exact ahead_of_skip (by decide) (hstop.trans (ahead_token hquote))

/-! ### All routines -/

/-- The routines that reading is made of. -/
inductive Routine where
  | blanks
  | name
  | reference
  | regex
  | operand (first : Nat)
  | condition
  | modifier
  | quotedBranch
  | branches
  | placeholder
  | sequence (quote : Option Nat)

namespace Routine

/-- Where a routine leaves the cursor, if it returns. The placeholder around it opens at `start`, and
there may be `levels` levels of branches inside it. -/
def leaves (limit : Int) (levels start : Nat) (c : Cursor) : Routine → Option Cursor
  | .blanks => some c.skipBlanks
  | .name => some (Reader.name c).2
  | .reference => (Reader.reference start c).toOption.map Prod.snd
  | .regex => (Reader.regex start c).toOption.map Prod.snd
  | .operand first => (Reader.operand start first c).toOption.map Prod.snd
  | .condition => (Reader.condition start c).bind fun x => x.toOption.map Prod.snd
  | .modifier => (Reader.modifier (branch limit levels) start c).toOption.map Prod.snd
  | .quotedBranch => (Reader.quotedBranch (branch limit levels) start c).toOption.map Prod.snd
  | .branches => (Reader.branches (branch limit levels) c).toOption.map Prod.snd
  | .placeholder => (Reader.placeholder (branch limit levels) c).toOption.map Prod.snd
  | .sequence quote =>
    (readFrom (Reader.placeholder (branch limit levels)) quote c []).toOption.map Prod.snd

/-- How many characters a routine passes at the least. -/
def least : Routine → Nat
  | .blanks | .name | .operand _ | .sequence _ => 0
  | .reference | .condition | .modifier | .branches => 1
  | .regex | .quotedBranch => 2
  | .placeholder => 3

theorem exists_ok {α : Type} {x : Except Fault (α × Cursor)}
    (h : x.toOption.map Prod.snd = some d) : ∃ a, x = .ok (a, d) := by
  cases x with
  | error f => simp [Except.toOption] at h
  | ok out =>
    obtain ⟨a, d'⟩ := out
    obtain rfl : d' = d := by simpa [Except.toOption] using h
    exact ⟨a, rfl⟩

/-- A routine that returns leaves the cursor in the text, and no further back than it has to pass. -/
theorem ahead {routine : Routine} (h : routine.leaves limit levels start c = some d) :
    c.Ahead routine.least d := by
  have hb := branch_passesQuotes limit levels
  cases routine with
  | blanks =>
    obtain rfl := Option.some.inj h
    exact ahead_skipBlanks c
  | name =>
    obtain rfl := Option.some.inj h
    exact ahead_name c
  | condition =>
    obtain ⟨x, hx, h⟩ := Option.bind_eq_some_iff.1 h
    obtain ⟨k, rfl⟩ := exists_ok h
    exact condition_ahead hx
  | reference => obtain ⟨_, h⟩ := exists_ok h; exact reference_ahead h
  | regex => obtain ⟨_, h⟩ := exists_ok h; exact regex_ahead h
  | operand first => obtain ⟨_, h⟩ := exists_ok h; exact operand_ahead h
  | modifier => obtain ⟨_, h⟩ := exists_ok h; exact modifier_ahead hb h
  | quotedBranch => obtain ⟨_, h⟩ := exists_ok h; exact quotedBranch_ahead hb h
  | branches => obtain ⟨_, h⟩ := exists_ok h; exact branches_ahead hb h
  | placeholder => obtain ⟨_, h⟩ := exists_ok h; exact placeholder_ahead hb h
  | sequence quote => obtain ⟨_, h⟩ := exists_ok h; exact (readFrom_ahead h).1

end Routine

end StreamLabel
