import StreamLabel.Proofs.Template.Layout
import Mathlib.Data.List.TakeWhile

/-!
# Reading conditions

The reader of conditions takes exactly the texts of `Layout.Cond`: the operator is the longest one,
an operand runs to its bracket, and a pattern to its first closing slash. `FirstClose` looks at the
whole text, but depends on the pattern only (`FirstClose.congr`): whatever blanks and a bracket
follow the slash, no slash inside the pattern is closed by them.
-/

namespace StreamLabel
open Unicode Reader Cursor

variable {c d e : Cursor} {start : Nat}

/-! ### Patterns -/

theorem bracketFollows_iff {cs : List Char} :
    bracketFollows cs = true ↔ ∃ (b : Blanks) (after : List Char), cs = b.chars ++ '[' :: after := by
  unfold bracketFollows
  constructor
  · intro h
    split at h
    · rename_i after hd
      exact ⟨⟨cs.takeWhile isBlank, fun c hc => List.mem_takeWhile_imp hc⟩, after,
        by rw [← hd]; exact (List.takeWhile_append_dropWhile).symm⟩
    · simp at h
  · rintro ⟨b, after, rfl⟩
    rw [Stops.dropWhile_append b.blank (Stops.cons_iff.2 rfl)]
    rfl

theorem bracketFollows_blanks (b : Blanks) (after : List Char) :
    bracketFollows (b.chars ++ '[' :: after) = true :=
  bracketFollows_iff.2 ⟨b, after, rfl⟩

/-- Looking for a bracket ends at a slash. -/
theorem bracketFollows_append_slash (cs r r' : List Char) :
    bracketFollows (cs ++ '/' :: r) = bracketFollows (cs ++ '/' :: r') := by
  induction cs with
  | nil => rfl
  | cons c cs ih =>
    by_cases hc : isBlank c = true
    · simpa [bracketFollows, hc] using ih
    · by_cases h : c = '['
      · subst h; rfl
      · simp [bracketFollows, hc, h]

@[simp] theorem patternLength?_pair (c : Char) (cs : List Char) :
    patternLength? ('\\' :: c :: cs) = (patternLength? cs).map (· + 2) := by
  rw [patternLength?]

theorem patternLength?_cons {c : Char} (hc : c ≠ '\\') (cs : List Char) :
    patternLength? (c :: cs) =
      if c = '/' ∧ bracketFollows cs then some 0 else (patternLength? cs).map (· + 1) := by
  rw [patternLength?] <;> simp [hc]

/-- What the last clause of a scan over pairs knows about its character. -/
theorem ne_backslash {c : Char} {cs : List Char} (h₁ : c = '\\' → cs = [] → False)
    (h₂ : ∀ x xs, c = '\\' → cs = x :: xs → False) : c ≠ '\\' := by
  rintro rfl
  cases cs with
  | nil => exact h₁ rfl rfl
  | cons x cs => exact h₂ x cs rfl rfl

theorem closesPattern_of_patternLength? {cs : List Char} : ∀ {n : Nat},
    patternLength? cs = some n → ∃ p, p.length = n ∧ ClosesPattern cs p := by
  fun_induction patternLength? cs with
  | case1 => simp
  | case2 => simp
  | case3 c cs ih =>
    intro n h
    obtain ⟨m, hm, rfl⟩ := Option.map_eq_some_iff.1 h
    obtain ⟨p, rfl, hp, b, after, rfl⟩ := ih hm
    exact ⟨'\\' :: c :: p, rfl, .pair c hp, b, after, rfl⟩
  | case4 c cs h₁ h₂ hc =>
    intro n h
    obtain ⟨rfl, hb⟩ := hc
    obtain ⟨b, after, rfl⟩ := bracketFollows_iff.1 hb
    exact ⟨[], by simpa using h, .nil, b, after, rfl⟩
  | case5 c cs h₁ h₂ hc ih =>
    intro n h
    obtain ⟨m, hm, rfl⟩ := Option.map_eq_some_iff.1 h
    obtain ⟨p, rfl, hp, b, after, rfl⟩ := ih hm
    exact ⟨c :: p, rfl, .char (ne_backslash h₁ h₂) hp, b, after, rfl⟩

theorem ClosesPattern.patternLength? {cs before : List Char} (h : ClosesPattern cs before) :
    ∃ n, patternLength? cs = some n ∧ n ≤ before.length := by
  obtain ⟨hp, b, after, rfl⟩ := h
  induction hp with
  | nil => exact ⟨0, by simp [patternLength?_cons, bracketFollows_blanks], Nat.le_refl _⟩
  | pair c h ih =>
    obtain ⟨n, hn, hle⟩ := ih
    exact ⟨n + 2, by simp [hn], by simp; omega⟩
  | @char c cs hc h ih =>
    obtain ⟨n, hn, hle⟩ := ih
    rw [List.cons_append, patternLength?_cons hc]
    split
    · exact ⟨0, rfl, Nat.zero_le _⟩
    · exact ⟨n + 1, by simp [hn], by simp; omega⟩

theorem ClosesPattern.isPrefix {cs before : List Char} (h : ClosesPattern cs before) :
    before <+: cs := by
  obtain ⟨-, b, after, heq⟩ := h
  exact ⟨_, heq.symm⟩

theorem firstClose_of_patternLength? {cs : List Char} {n : Nat} (h : patternLength? cs = some n) :
    ∃ p, p.length = n ∧ FirstClose cs p := by
  obtain ⟨p, rfl, hp⟩ := closesPattern_of_patternLength? h
  refine ⟨p, rfl, hp, fun before hb => ?_⟩
  obtain ⟨n, hn, hle⟩ := hb.patternLength?
  rw [h] at hn
  cases hn
  exact hle

theorem firstClose_iff {cs pattern : List Char} :
    FirstClose cs pattern ↔ patternLength? cs = some pattern.length ∧ pattern <+: cs := by
  constructor
  · rintro ⟨hc, hf⟩
    obtain ⟨n, hn, hle⟩ := hc.patternLength?
    obtain ⟨p, rfl, hp⟩ := closesPattern_of_patternLength? hn
    exact ⟨by rw [hn, Nat.le_antisymm hle (hf p hp)], hc.isPrefix⟩
  · rintro ⟨hn, hpre⟩
    obtain ⟨p, hlen, hp⟩ := firstClose_of_patternLength? hn
    have := (List.prefix_of_prefix_length_le hp.closes.isPrefix hpre (Nat.le_of_eq hlen)).eq_of_length
      hlen
    exact this ▸ hp

/-- Where a pattern ends does not depend on what brings the bracket behind its slash. -/
theorem patternLength?_congr (cs : List Char) {r r' : List Char} (hr : bracketFollows r = true)
    (hr' : bracketFollows r' = true) :
    patternLength? (cs ++ '/' :: r) = some cs.length ↔
      patternLength? (cs ++ '/' :: r') = some cs.length := by
  fun_induction hasSlash cs with
  | case1 => simp [patternLength?_cons, hr, hr']
  | case2 => simp
  | case3 c cs ih => simpa using ih
  | case4 c cs h₁ h₂ ih =>
    have hc := ne_backslash h₁ h₂
    have hslash := bracketFollows_append_slash cs r r'
    simp only [List.cons_append, patternLength?_cons hc, hslash]
    split
    · simp
    · simpa using ih

theorem FirstClose.congr {pattern r r' : List Char} (hr : bracketFollows r = true)
    (hr' : bracketFollows r' = true) (h : FirstClose (pattern ++ '/' :: r) pattern) :
    FirstClose (pattern ++ '/' :: r') pattern :=
  firstClose_iff.2 ⟨(patternLength?_congr pattern hr hr').1 (firstClose_iff.1 h).1, _, rfl⟩

theorem regex_eq {pattern : List Char} {b : Blanks} {r : List Char}
    (hf : FirstClose (pattern ++ '/' :: (b.chars ++ '[' :: r)) pattern)
    (hb : ∃ after, d.rest = b.chars ++ '[' :: after) (h : c.Spans ('/' :: (pattern ++ ['/'])) d) :
    regex start c = .ok (.regex (String.ofList pattern), d) := by
  obtain ⟨after, hd⟩ := hb
  have hbody : c.rest.drop 1 = pattern ++ '/' :: d.rest := by
    rw [h.rest_cons]; simp
  have hlen : patternLength? (pattern ++ '/' :: d.rest) = some pattern.length := by
    rw [hd]
    exact (firstClose_iff.1 (hf.congr (bracketFollows_blanks b r) (bracketFollows_blanks b after))).1
  have hskip : c.skip (pattern.length + 2) = d := by
    rw [← h.skip_eq]; simp
  simp only [regex, hbody, hlen, hskip, List.take_left]

theorem regex_sound {k : Condition} (hc : c.startsWith "/" = true)
    (h : regex start c = .ok (k, d)) :
    ∃ (pattern : List Char) (b : Blanks) (after : List Char), k = .regex (String.ofList pattern) ∧
      c.Spans ('/' :: (pattern ++ ['/'])) d ∧ d.rest = b.chars ++ '[' :: after ∧
      FirstClose (pattern ++ '/' :: (b.chars ++ ['['])) pattern := by
  obtain ⟨e, he⟩ := startsWith_iff.1 hc
  have hbody : c.rest.drop 1 = e.rest := by rw [he.rest]; rfl
  simp only [regex, hbody] at h
  split at h
  · rename_i n hn
    simp only [Except.ok.injEq, Prod.mk.injEq] at h
    obtain ⟨rfl, rfl⟩ := h
    obtain ⟨p, rfl, hp⟩ := firstClose_of_patternLength? hn
    obtain ⟨-, b, after, heq⟩ := hp.closes
    have hspan : c.Spans ('/' :: (p ++ ['/'])) (c.skip (p.length + 2)) := by
      have hrest : c.rest = '/' :: (p ++ ['/']) ++ (b.chars ++ '[' :: after) := by
        rw [he.rest, heq]; simp
      simpa using spans_skip hrest
    have hd : (c.skip (p.length + 2)).rest = b.chars ++ '[' :: after := by
      have := hspan.rest
      rw [he.rest, heq] at this
      simpa using this.symm
    refine ⟨p, b, after, by rw [heq, List.take_left], hspan, hd, ?_⟩
    rw [heq] at hp
    exact hp.congr (bracketFollows_blanks b after) (bracketFollows_blanks b [])
  · split at h
    · simp at h
    · split at h <;> simp at h

/-! ### Operators and operands -/

theorem CompareOp.symbol_injective {op op' : CompareOp} (h : op.symbol = op'.symbol) : op = op' := by
  cases op <;> cases op' <;> first | rfl | exact absurd h (by decide)

theorem LongestOperator.unique {op op' : CompareOp} {cs : List Char} (h : LongestOperator op cs)
    (h' : LongestOperator op' cs) : op = op' := by
  have hlen : op.symbol.toList.length = op'.symbol.toList.length := by
    rw [String.length_toList, String.length_toList]
    exact Nat.le_antisymm (h'.longest op h.begins) (h.longest op' h'.begins)
  have hpre := List.prefix_of_prefix_length_le h.begins h'.begins (Nat.le_of_eq hlen)
  exact CompareOp.symbol_injective (String.toList_inj.1 (hpre.eq_of_length hlen))

/-- Only the angle operators begin another one. -/
theorem longestOperator_iff {op : CompareOp} {cs : List Char} :
    LongestOperator op (op.symbol.toList ++ cs) ↔
      (op = .gt ∨ op = .lt → Stops (· == '=') cs) := by
  constructor
  · intro h hop
    cases cs with
    | nil => exact Stops.nil
    | cons c cs =>
      rw [Stops.cons_iff, beq_eq_false_iff_ne]
      rintro rfl
      rcases hop with rfl | rfl
      · exact absurd (h.longest .ge ⟨cs, rfl⟩) (by decide)
      · exact absurd (h.longest .le ⟨cs, rfl⟩) (by decide)
  · intro h
    refine ⟨⟨cs, rfl⟩, fun op' ⟨r, hr⟩ => ?_⟩
    by_contra hlt
    -- a longer operator has a second character, and that is the sign of equality
    have hcs : (op = .gt ∨ op = .lt) ∧ cs = '=' :: r := by
      cases op <;> cases op' <;>
        first | exact absurd (by decide) hlt | simp_all [CompareOp.symbol]
    obtain ⟨hop, rfl⟩ := hcs
    simpa using h hop

theorem operator?_eq_some_iff {op : CompareOp} :
    operator? c = some op ↔ LongestOperator op c.rest := by
  have hsound : ∀ op, operator? c = some op → LongestOperator op c.rest := by
    intro op h
    have hbegins : c.startsWith op.symbol = true := by simpa using List.find?_some h
    refine ⟨List.isPrefixOf_iff_prefix.1 hbegins, fun op' hop' => ?_⟩
    replace hop' : c.startsWith op'.symbol = true := List.isPrefixOf_iff_prefix.2 hop'
    simp only [operator?, operators, List.find?_cons, List.find?_nil] at h
    cases hge : c.startsWith CompareOp.ge.symbol <;> cases op' <;> cases op <;>
      first | decide | simp_all
  refine ⟨hsound op, fun h => ?_⟩
  cases hop : operator? c with
  | some op' => rw [(hsound op' hop).unique h]
  | none =>
    have := List.find?_eq_none.1 hop op (by cases op <;> decide)
    exact absurd (List.isPrefixOf_iff_prefix.2 h.begins) this

theorem endsOperand_eq_false {x : Char} : (!endsOperand x) = true ↔ x ≠ '[' ∧ x ≠ '\x7d' := by
  simp [endsOperand]

theorem operand_eq {raw : List Char} {modifier : Nat} (hraw : ∀ x ∈ raw, x ≠ '[' ∧ x ≠ '\x7d')
    (h : c.Spans raw d) (hd : d.Spans ['['] e) :
    operand start modifier c = .ok (String.ofList (strip raw), d) := by
  have hrun : c.rest.takeWhile (fun x => !endsOperand x) = raw := by
    rw [h.rest]
    exact Stops.takeWhile_append (fun x hx => endsOperand_eq_false.2 (hraw x hx)) (hd.stops rfl)
  have hdrop : c.rest.drop raw.length = '[' :: e.rest := by
    rw [h.rest, List.drop_left, hd.rest_cons]; rfl
  simp only [operand, hrun, hdrop, h.skip_eq, ↓reduceIte]

theorem operand_sound {modifier : Nat} {text : String}
    (h : operand start modifier c = .ok (text, d)) :
    ∃ (raw : List Char) (e : Cursor), (∀ x ∈ raw, x ≠ '[' ∧ x ≠ '\x7d') ∧ c.Spans raw d ∧
      d.Spans ['['] e ∧ text = String.ofList (strip raw) := by
  have hspan := spans_skipWhile (fun x => !endsOperand x) c
  simp only [operand] at h
  split at h
  · simp at h
  · rename_i x r hdrop
    split at h
    · rename_i hx
      subst hx
      simp only [Except.ok.injEq, Prod.mk.injEq] at h
      obtain ⟨rfl, rfl⟩ := h
      refine ⟨_, _, fun x hx => ?_, hspan, Spans.of_cons hdrop, rfl⟩
      exact endsOperand_eq_false.1 (List.mem_takeWhile_imp (p := fun x => !endsOperand x) hx)
    · simp at h

/-! ### Conditions -/

open Layout

theorem condition_eq (start : Nat) (k : Cond) (h : c.Spans k.chars d) (hd : d.Spans ['['] e) :
    ∃ d', condition start c = some (.ok (k.condition, d')) ∧ d'.skipBlanks = d := by
  cases k with
  | compare op raw longest hraw =>
    obtain ⟨c₁, h₁, h₂⟩ := spans_append_iff.1 h
    have hop : LongestOperator op c.rest := by
      rw [h₁.rest, h₂.rest, hd.rest, longestOperator_iff]
      intro ho
      have hstops := longestOperator_iff.1 longest ho
      cases raw with
      | nil => exact Stops.cons_iff.2 rfl
      | cons x raw => simpa using hstops
    have hslash : c.startsWith "/" = false := by
      refine startsWith_eq_false_of_stops '/' [] rfl ?_
      rw [h₁.rest]
      cases op <;> exact Stops.cons_iff.2 rfl
    have hskip : c.skip op.symbol.length = c₁ := by rw [← String.length_toList, h₁.skip_eq]
    refine ⟨d, ?_, (Spans.refl d).skipWhile_eq (by simp) (hd.stops rfl)⟩
    simp only [condition, hslash, Bool.false_eq_true, ↓reduceIte, operator?_eq_some_iff.2 hop,
      Option.map_some, hskip, operand_eq hraw h₂ hd, Cond.condition]
  | regex pattern b first =>
    have h' : c.Spans ('/' :: (pattern ++ ['/']) ++ b.chars) d := by simpa [Cond.chars] using h
    obtain ⟨c₁, h₁, h₂⟩ := spans_append_iff.1 h'
    obtain ⟨c₂, h₃, -⟩ := spans_cons_iff.1 h₁
    have hrest : c₁.rest = b.chars ++ '[' :: e.rest := by rw [h₂.rest, hd.rest_cons]; rfl
    have hslash : c.startsWith "/" = true := startsWith_iff.2 ⟨c₂, h₃⟩
    refine ⟨c₁, ?_, h₂.skipWhile_eq b.blank (hd.stops rfl)⟩
    simp only [condition, hslash, ↓reduceIte, regex_eq first ⟨_, hrest⟩ h₁, Cond.condition]

theorem condition_sound {k : Condition} (h : condition start c = some (.ok (k, d))) :
    ∃ (k' : Cond) (e : Cursor), k'.condition = k ∧ c.Spans k'.chars d.skipBlanks ∧
      d.skipBlanks.Spans ['['] e := by
  unfold condition at h
  split at h
  · rename_i hslash
    obtain ⟨pattern, b, after, rfl, h₁, hd, hfirst⟩ := regex_sound hslash (Option.some.inj h)
    have h₂ := Spans.of_rest hd
    have hskip : d.skipBlanks = _ := h₂.skipWhile_eq b.blank (Stops.cons_iff.2 rfl)
    rw [hskip]
    exact ⟨.regex pattern b hfirst, _, rfl, by simpa [Cond.chars] using h₁.trans h₂, Spans.of_cons rfl⟩
  · obtain ⟨op, hop, h⟩ := Option.map_eq_some_iff.1 h
    have hlongest := operator?_eq_some_iff.1 hop
    obtain ⟨cs, hcs⟩ := hlongest.begins
    have h₁ : c.Spans op.symbol.toList (c.skip op.symbol.length) := by
      rw [← String.length_toList]; exact spans_skip hcs.symm
    split at h
    · rename_i text d' hoperand
      simp only [Except.ok.injEq, Prod.mk.injEq] at h
      obtain ⟨rfl, rfl⟩ := h
      obtain ⟨raw, e, hraw, h₂, hd, rfl⟩ := operand_sound hoperand
      have hskip : d'.skipBlanks = d' := (Spans.refl d').skipWhile_eq (by simp) (hd.stops rfl)
      rw [hskip]
      refine ⟨.compare op raw ?_ hraw, e, rfl, h₁.trans h₂, hd⟩
      rw [h₁.rest, h₂.rest, longestOperator_iff] at hlongest
      rw [longestOperator_iff]
      intro ho
      cases raw with
      | nil => exact Stops.nil
      | cons x raw => simpa using hlongest ho
    · simp at h

/-- A name begins no condition. -/
theorem condition_eq_none (n : Name) (h : c.Spans n.chars d) : condition start c = none := by
  obtain ⟨cs, hn⟩ := n
  cases cs with
  | nil => exact hn.elim
  | cons x cs =>
    have hx : ∀ y, isAsciiNameStart y = false → x ≠ y := by
      rintro y hy rfl
      exact absurd hn.1 (by simp [hy])
    have hstops : ∀ y, isAsciiNameStart y = false → Stops (· == y) c.rest :=
      fun y hy => h.stops (by simpa using hx y hy)
    have hslash : c.startsWith "/" = false :=
      startsWith_eq_false_of_stops '/' [] rfl (hstops _ rfl)
    have hop : operator? c = none := by
      refine List.find?_eq_none.2 fun op _ => ?_
      obtain ⟨y, ys, hy, hys⟩ : ∃ y ys, op.symbol.toList = y :: ys ∧ isAsciiNameStart y = false := by
        cases op <;> exact ⟨_, _, rfl, rfl⟩
      rw [startsWith_eq_false_of_stops y ys hy (hstops y hys)]
      exact Bool.false_ne_true
    simp [condition, hslash, hop]

end StreamLabel
