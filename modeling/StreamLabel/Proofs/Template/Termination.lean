import StreamLabel.Proofs.Template.Stack
import Mathlib

/-!
# Termination

What reading a text comes down to when its places are counted (`StaysAndEnds`): no routine leaves the
text or goes back in it, and the body of a branch ends in front of the quote that closes it, so the
text of the branch can be cut out between its quotes. Every loop ends within as many rounds as there
are characters, and so do the readers that call each other, however the text is malformed.
-/

namespace StreamLabel
open Unicode Reader Cursor

variable {d : Cursor} {limit : Int}

/-! ### Places in a text -/

/-- The cursor at `p` in the text `cs`. -/
def Cursor.inText (cs : List Char) (p : Nat) : Cursor := ⟨p, cs.drop p⟩

variable {cs xs : List Char} {p : Nat}

theorem Cursor.Spans.eq_inText (h : (inText cs p).Spans xs d) : d = inText cs (p + xs.length) := by
  obtain ⟨pos, rest⟩ := d
  obtain rfl : pos = p + xs.length := h.pos
  have hrest : cs.drop p = xs ++ rest := h.rest
  rw [inText, ← List.drop_drop, hrest, List.drop_left]

theorem Cursor.Ahead.exists_inText {n : Nat} (hp : p ≤ cs.length) (h : (inText cs p).Ahead n d) :
    ∃ q, d = inText cs q ∧ p + n ≤ q ∧ q ≤ cs.length := by
  obtain ⟨⟨xs, hxs⟩, hle⟩ := h
  have hlength := congrArg List.length hxs.rest
  obtain rfl := hxs.eq_inText
  simp only [inText, List.length_append, List.length_drop] at hlength hle
  exact ⟨p + xs.length, rfl, hle, by omega⟩

theorem getElem?_of_startsWith (h : (inText cs p).startsWith "\"" = true) : cs[p]? = some '"' := by
  obtain ⟨d, hd⟩ := startsWith_iff.1 h
  have hrest : cs.drop p = '"' :: d.rest := hd.rest
  rw [← List.head?_drop, hrest, List.head?_cons]

/-- The branch body between `p` and `q` ends in front of a quote, and no backslash in it escapes that
quote. -/
structure ClosedBody (cs : List Char) (p q : Nat) : Prop where
  le : p ≤ q
  quote : cs[q]? = some '"'
  unescaped : EndsInPairs ((cs.drop p).take (q - p))

theorem ClosedBody.of_spans (h : (inText cs p).Spans xs d) (hxs : EndsInPairs xs)
    (hd : ∃ after, d.rest = '"' :: after) : ClosedBody cs p (p + xs.length) := by
  obtain ⟨after, hafter⟩ := hd
  have hrest : cs.drop p = xs ++ '"' :: after := hafter ▸ h.rest
  refine ⟨Nat.le_add_right _ _, ?_, ?_⟩
  · rw [← List.getElem?_drop, hrest]
    simp
  · rwa [hrest, Nat.add_sub_cancel_left, List.take_left]

/-- A branch that has been read is in quotes, and its text is what stands between them. -/
theorem branch_inText {levels : Nat} {out : Branch}
    (h : branch limit levels (inText cs p) = .ok (out, d)) :
    ∃ q, ClosedBody cs (p + 1) q ∧ d = inText cs (q + 1) ∧
      out.2 = String.ofList ((cs.drop (p + 1)).take (q - (p + 1))) := by
  cases levels with
  | zero => simp [branch] at h
  | succ levels =>
    obtain ⟨⟨ns, stop⟩, hread, h⟩ := bind_eq_ok.1 h
    have hskip : (inText cs p).skip 1 = inText cs (p + 1) := by simp [inText, skip]
    replace hread : readFrom (placeholder (branch limit levels)) (some p)
        ((inText cs p).skip 1) [] = .ok (ns, stop) := hread
    rw [hskip] at hread
    obtain ⟨xs, hxs, hpairs, hquote⟩ := readFrom_branch_ends hread
    have hbody := ClosedBody.of_spans hxs hpairs hquote
    obtain rfl := hxs.eq_inText
    obtain ⟨rfl, rfl⟩ := Prod.mk.inj (Except.ok.inj h)
    refine ⟨_, hbody, ?_, ?_⟩
    · simp [inText, skip]
    · simp [inText, Nat.sub_sub]

/-! ### Every text -/

/-- Reading `cs` stays in it, goes on with every step, and ends. -/
structure StaysAndEnds (limit : Int) (cs : List Char) : Prop where
  /-- A routine that returns has passed what it cannot do without, and is still in the text. -/
  routine : ∀ (levels start p : Nat) (routine : Routine) (d : Cursor), p ≤ cs.length →
    routine.leaves limit levels start (inText cs p) = some d →
    ∃ q, d = inText cs q ∧ p + routine.least ≤ q ∧ q ≤ cs.length
  /-- A loop over single characters ends behind the run that it is to pass. -/
  pass : ∀ (test : Char → Bool) (p : Nat),
    rounds (passStep test) (cs.length + 1) (inText cs p) = some ((inText cs p).skipWhile test)
  /-- A step through a pattern adds to its index. -/
  scan_lt : ∀ (p : Nat) (s t : Scan), scanStep (cs.drop p) s = .inl t → s.index < t.index
  /-- The loop through a pattern ends, with where the pattern ends or whether a slash was passed. -/
  scan : ∀ p : Nat, rounds (scanStep (cs.drop p)) (cs.length + 1) ⟨0, false⟩ =
    some (Scan.result (cs.drop p) ⟨0, false⟩)
  /-- An escape, a character of text, a placeholder or the part of one up to a quote is passed. -/
  step : ∀ s t : Reading, s.step limit = .inl t → s.cursor.Ahead 1 t.cursor
  /-- No more branches are ever open than the limit allows, each at a quote in front of the cursor. -/
  reached : ∀ s, Reading.Reached limit cs s →
    ∃ q ≤ cs.length, s.cursor = inText cs q ∧ s.stack.length ≤ limit.toNat ∧
      ∀ b ∈ s.stack, ∃ p < q, b.quote = inText cs p ∧ cs[p]? = some '"'
  /-- The loop of sequences, placeholders and branches ends in what the readers return. -/
  ends : rounds (Reading.step limit) (cs.length + 1) (.start cs) = some (Reader.template limit cs)
  template : ∀ (ns : List Node) (stop : Cursor), Reader.template limit cs = .ok (ns, stop) →
    stop = inText cs cs.length
  body : ∀ (levels quote p : Nat) (ns : List Node) (stop : Cursor),
    readFrom (placeholder (branch limit levels)) (some quote) (inText cs p) [] = .ok (ns, stop) →
    ∃ q, stop = inText cs q ∧ ClosedBody cs p q
  /-- A branch ends behind the quote of its body, and its text is cut out of the whole there. -/
  branch : ∀ (levels p : Nat) (out : Branch) (d : Cursor),
    branch limit levels (inText cs p) = .ok (out, d) →
    ∃ q, ClosedBody cs (p + 1) q ∧ d = inText cs (q + 1) ∧
      out.2 = String.ofList ((cs.drop (p + 1)).take (q - (p + 1)))

theorem reading_stays_and_ends (limit : Int) (cs : List Char) : StaysAndEnds limit cs where
  routine _ _ _ _ _ hp h := (Routine.ahead h).exists_inText hp
  pass test p := (passStep_ends test).rounds_eq trivial (by simp only [inText, List.length_drop]; omega)
  scan_lt _ _ _ h := (scanStep_index_lt h).2
  scan p := (scanStep_ends _).rounds_eq trivial (by simp only [List.length_drop]; omega)
  step _ _ h := (Reading.step_goes h).ahead
  reached s h := by
    have hkept := h.kept
    obtain ⟨q, hcursor, -, hle⟩ := hkept.ahead.exists_inText (Nat.zero_le _)
    refine ⟨q, hle, hcursor, hkept.length_le, fun b hb => ?_⟩
    obtain ⟨hquote, hopen⟩ := hkept.opened b hb
    obtain ⟨p, hp, -, -⟩ := hquote.exists_inText (Nat.zero_le _)
    have hlt : b.quote.pos + 1 ≤ s.cursor.pos := hopen.ahead.pos_le
    rw [hp, hcursor] at hlt
    exact ⟨p, hlt, hp, getElem?_of_startsWith (hp ▸ hopen.startsWith)⟩
  ends := by
    rw [← Reading.result_start]
    exact (Reading.step_ends limit).rounds_eq (Nat.zero_le _) (Nat.lt_succ_self _)
  template ns stop h := by
    obtain ⟨_, -, -, -, -, rfl⟩ := template_eq_ok_iff.1 h
    simp [inText]
  body _ _ p ns stop h := by
    obtain ⟨xs, hxs, hpairs, hquote⟩ := readFrom_branch_ends h
    exact ⟨_, hxs.eq_inText, .of_spans hxs hpairs hquote⟩
  branch _ _ _ _ h := branch_inText h

/-- A branch inside a branch ends the reading if one level is all there may be. -/
theorem reading_stays_and_ends_nested :
    let s := "a\x7bstream.x::/p/[\"\\\"\x7bstream.y::>1[\"b\"||\"\"]\x7d\"||\"c\"]\x7d"
    (∃ ns, rounds (Reading.step 2) (s.toList.length + 1) (.start s.toList) =
      some (.ok (ns, inText s.toList s.toList.length))) ∧
      rounds (Reading.step 1) (s.toList.length + 1) (.start s.toList) =
        some (.error ⟨.tooDeep 1, 33⟩) := by
  intro s
  have htwo := reading_stays_and_ends 2 s.toList
  have hone := reading_stays_and_ends 1 s.toList
  have hnested : (Reader.template 2 s.toList).isOk = true := by cbv
  have hdeep : Reader.template 1 s.toList = .error ⟨.tooDeep 1, 33⟩ := by cbv
  rw [htwo.ends, hone.ends, hdeep]
  cases h : Reader.template 2 s.toList with
  | error f => simp [h, Except.isOk, Except.toBool] at hnested
  | ok out =>
    obtain ⟨ns, stop⟩ := out
    rw [htwo.template ns stop h]
    exact ⟨⟨ns, rfl⟩, rfl⟩

end StreamLabel
