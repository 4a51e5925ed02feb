import StreamLabel.Proofs.Template.Advance
import StreamLabel.Proofs.Template.Rounds
import Mathlib.Logic.Relation

/-!
# Reading with a stack

The readers of sequences, placeholders and branches call each other. Here they are one loop, and the
branches that are open are a stack in its state. `Reading.result` says what the readers make of a
state: they read the innermost sequence to its end, and then the rest of each open branch. A step of
the loop keeps to that (`Reading.step_result`), so no induction over the levels of branches is needed,
and it passes a character at the least (`Reading.step_goes`). Hence the loop ends on every text, in what
`Reader.template` returns (`Reading.step_ends`), and never has more branches open than the limit allows
(`Reading.Kept`).
-/

namespace StreamLabel
open Unicode Reader Cursor

variable {c d e : Cursor} {limit : Int}

/-- A branch as it is read: its nodes and its text. -/
abbrev Branch := List Node × String

/-- What reading a sequence comes to. -/
abbrev Answer := Except Fault (List Node × Cursor)

/-! ### Placeholders up to their branches -/

/-- A placeholder that opens at `start`, read up to its branches. -/
structure Pending where
  start : Nat
  ref : Reference
  condition : Condition
  /-- Where the branches open. -/
  bracket : Nat

/-- The placeholder at `c`, if a bracket follows its condition, and where the first branch is to
begin. -/
def pending? (c : Cursor) : Option (Pending × Cursor) :=
  match reference c.pos (c.skip 1) with
  | .error _ => none
  | .ok (ref, d) =>
    if d.skipBlanks.startsWith "::" then
      match condition c.pos (d.skipBlanks.skip 2).skipBlanks with
      | some (.ok (k, e)) =>
        if e.skipBlanks.startsWith "[" then
          some (⟨c.pos, ref, k, e.skipBlanks.pos⟩, (e.skipBlanks.skip 1).skipBlanks)
        else none
      | _ => none
    else none

section Branches
variable {branch branch' : Reader Branch} {p : Pending}

namespace Pending

/-- Reads what follows the second branch. -/
def behindNo (p : Pending) (yes no : Branch) : Reader Node := fun c =>
  if c.skipBlanks.startsWith "]" then
    closing p.start p.ref (.choice p.condition yes no) (c.skipBlanks.skip 1)
  else .error (branchesFault p.bracket .expectedBracket c.skipBlanks)

/-- Reads what follows the first branch. -/
def behindYes (branch : Reader Branch) (p : Pending) (yes : Branch) : Reader Node := fun c =>
  if c.skipBlanks.startsWith "||" then do
    let (no, d) ← quotedBranch branch p.bracket (c.skipBlanks.skip 2).skipBlanks
    p.behindNo yes no d
  else .error (branchesFault p.bracket .expectedBars c.skipBlanks)

/-- Reads what follows a branch, which is the second one if there is one before it. -/
def behind (branch : Reader Branch) (p : Pending) : (yes : Option Branch) → Branch → Reader Node
  | none, yes => p.behindYes branch yes
  | some yes, no => p.behindNo yes no

end Pending

theorem pending?_eq_some (h : pending? c = some (p, d)) :
    ∃ (ref : Reference) (k : Condition) (a b : Cursor),
      reference c.pos (c.skip 1) = .ok (ref, a) ∧ a.skipBlanks.startsWith "::" = true ∧
      condition c.pos (a.skipBlanks.skip 2).skipBlanks = some (.ok (k, b)) ∧
      b.skipBlanks.startsWith "[" = true ∧ p = ⟨c.pos, ref, k, b.skipBlanks.pos⟩ ∧
      d = (b.skipBlanks.skip 1).skipBlanks := by
  unfold pending? at h
  split at h
  · simp at h
  rename_i ref a href
  split at h
  swap
  · simp at h
  rename_i hcolons
  split at h
  swap
  · simp at h
  rename_i k b hk
  split at h
  swap
  · simp at h
  rename_i hbracket
  cases h
  exact ⟨ref, k, a, b, href, hcolons, hk, hbracket, rfl, rfl⟩

/-- Behind a condition a modifier is up to its branches. -/
theorem modifier_of_condition {start : Nat} {k : Condition}
    (h : condition start c = some (.ok (k, d))) :
    modifier branch start c =
      if d.skipBlanks.startsWith "[" then do
        let ((yes, no), e) ← branches branch d.skipBlanks
        .ok (.choice k yes no, e)
      else .error ⟨.conditionWithoutBranches k, c.pos⟩ := by
  unfold modifier
  split
  · rename_i hnil
    have hlength := (condition_ahead h).length_le
    simp [hnil] at hlength
  · rw [h]
    rfl

theorem placeholder_of_pending? (h : pending? c = some (p, d)) :
    placeholder branch c = (do
      let (yes, e) ← quotedBranch branch p.bracket d
      p.behindYes branch yes e) := by
  obtain ⟨ref, k, a, b, href, hcolons, hk, hbracket, rfl, rfl⟩ := pending?_eq_some h
  rw [placeholder_eq_closing, href]
  simp only [bind, Except.bind, modification, hcolons, ↓reduceIte, modifier_of_condition hk, hbracket,
    branches]
  cases quotedBranch branch b.skipBlanks.pos (b.skipBlanks.skip 1).skipBlanks with
  | error f => rfl
  | ok out =>
    obtain ⟨yes, e⟩ := out
    dsimp only [Pending.behindYes]
    by_cases hbars : e.skipBlanks.startsWith "||" = true
    swap
    · rw [if_neg hbars, if_neg hbars]
    rw [if_pos hbars, if_pos hbars]
    cases quotedBranch branch b.skipBlanks.pos (e.skipBlanks.skip 2).skipBlanks with
    | error f => rfl
    | ok out =>
      dsimp only [Pending.behindNo, bind, Except.bind]
      by_cases hend : out.2.skipBlanks.startsWith "]" = true
      · rw [if_pos hend, if_pos hend]
      · rw [if_neg hend, if_neg hend]

/-- No branch is looked for where a placeholder has none. -/
theorem placeholder_congr (h : pending? c = none) : placeholder branch c = placeholder branch' c := by
  rw [placeholder_eq_closing, placeholder_eq_closing]
  unfold pending? at h
  cases href : reference c.pos (c.skip 1) with
  | error f => rfl
  | ok out =>
    obtain ⟨ref, d⟩ := out
    have hmodification : modification branch c.pos d = modification branch' c.pos d := by
      unfold modification
      by_cases hcolons : d.skipBlanks.startsWith "::" = true
      swap
      · rw [if_neg hcolons, if_neg hcolons]
      rw [if_pos hcolons, if_pos hcolons]
      cases hk : condition c.pos (d.skipBlanks.skip 2).skipBlanks with
      | none =>
        unfold modifier
        rw [hk]
      | some result =>
        cases result with
        | error f =>
          unfold modifier
          rw [hk]
          rfl
        | ok out =>
          obtain ⟨k, e⟩ := out
          have hbracket : ¬e.skipBlanks.startsWith "[" = true := by
            intro hbracket
            simp [href, hcolons, hk, hbracket] at h
          rw [modifier_of_condition hk, modifier_of_condition hk, if_neg hbracket, if_neg hbracket]
    simp only [bind, Except.bind, hmodification]

theorem pending?_ahead (h : pending? c = some (p, d)) : c.Ahead 1 d := by
  obtain ⟨ref, k, a, b, href, hcolons, hk, hbracket, rfl, rfl⟩ := pending?_eq_some h
  have hfront := ahead_of_skip (by decide) (reference_ahead href)
  have hmiddle := ahead_of_skipBlanks (ahead_token hcolons)
  have hcondition := ahead_of_skipBlanks (condition_ahead hk)
  have hlist := (ahead_of_skipBlanks (ahead_token hbracket)).trans (ahead_skipBlanks _)
  exact (hfront.trans (hmiddle.trans (hcondition.trans hlist))).mono (by decide)

end Branches

/-! ### Readings -/

/-- A branch that has been read up to its opening quote, and perhaps on. -/
structure OpenBranch where
  pending : Pending
  /-- The first branch, if this is the second. -/
  yes : Option Branch
  quote : Cursor
  /-- What stands before the placeholder in its own sequence. -/
  before : List Node

/-- A text that has been read up to `cursor`. -/
structure Reading where
  cursor : Cursor
  /-- What has been read of the innermost sequence. -/
  nodes : List Node
  /-- The literal text since then, reversed. -/
  text : List Char
  /-- The branches that are open, the innermost first. -/
  stack : List OpenBranch

/-- The branch `b`, whose nodes are `ns`, up to its closing quote. -/
def OpenBranch.close (b : OpenBranch) (ns : List Node) (stop : Cursor) : Branch :=
  (ns, String.ofList ((b.quote.rest.drop 1).take (stop.pos - b.quote.pos - 1)))

/-- The branch is open at `c`: its quote stands in front of `c`. -/
structure OpenBranch.OpenAt (b : OpenBranch) (c : Cursor) : Prop where
  startsWith : b.quote.startsWith "\"" = true
  ahead : b.quote.Ahead 1 c

namespace Reading

def start (cs : List Char) : Reading := ⟨⟨0, cs⟩, [], [], []⟩

/-- Goes on behind a placeholder. -/
def goOn (before : List Node) (stack : List OpenBranch) :
    Except Fault (Node × Cursor) → Reading ⊕ Answer
  | .ok (node, c) => .inl ⟨c, before ++ [node], [], stack⟩
  | .error f => .inr (.error f)

/-- Opens a branch at its quote, unless as many are open as may be. -/
def enter (limit : Int) (p : Pending) (yes : Option Branch) (before : List Node)
    (stack : List OpenBranch) (c : Cursor) : Reading ⊕ Answer :=
  if c.startsWith "\"" then
    if stack.length < limit.toNat then .inl ⟨c.skip 1, [], [], ⟨p, yes, c, before⟩ :: stack⟩
    else .inr (.error ⟨.tooDeep limit, c.pos⟩)
  else .inr (.error (branchesFault p.bracket .expectedQuote c))

/-- Closes the branch `b` at its quote. -/
def leave (limit : Int) (b : OpenBranch) (stack : List OpenBranch) (ns : List Node) (stop : Cursor) :
    Reading ⊕ Answer :=
  let c := (stop.skip 1).skipBlanks
  match b.yes with
  | none =>
    if c.startsWith "||" then
      enter limit b.pending (some (b.close ns stop)) b.before stack (c.skip 2).skipBlanks
    else .inr (.error (branchesFault b.pending.bracket .expectedBars c))
  | some yes => goOn b.before stack (b.pending.behindNo yes (b.close ns stop) (stop.skip 1))

/-- Passes a placeholder, up to its branches if it has any, or a character of text. -/
def pass (limit : Int) (s : Reading) (x : Char) : Reading ⊕ Answer :=
  if x = '\x7b' then
    match pending? s.cursor with
    | some (p, d) => enter limit p none (s.nodes ++ flush s.text []) s.stack d
    -- it has no branches, so the level does not matter
    | none => goOn (s.nodes ++ flush s.text []) s.stack (placeholder (branch limit 0) s.cursor)
  else .inl { s with cursor := s.cursor.skip 1, text := x :: s.text }

/-- Reads on by an escape, a character, a branch that is closed, or a placeholder or its front. -/
def step (limit : Int) (s : Reading) : Reading ⊕ Answer :=
  match s.stack, s.cursor.rest with
  | [], [] => .inr (.ok (s.nodes ++ flush s.text [], s.cursor))
  | [], x :: _ => s.pass limit x
  | b :: _, [] => .inr (.error ⟨.openBranch, b.quote.pos⟩)
  | b :: stack, x :: _ =>
    match escaped? s.cursor.rest with
    | some y => .inl { s with cursor := s.cursor.skip 2, text := y :: s.text }
    | none =>
      if x = '"' then leave limit b stack (s.nodes ++ flush s.text []) s.cursor else s.pass limit x

/-! ### Results -/

/-- Where the quote of the innermost branch stands. -/
def quote? : List OpenBranch → Option Nat
  | [] => none
  | b :: _ => some b.quote.pos

@[simp] theorem quote?_nil : quote? [] = none := rfl

@[simp] theorem quote?_cons (b : OpenBranch) (stack : List OpenBranch) :
    quote? (b :: stack) = some b.quote.pos := rfl

/-- Reads on inside the branches `stack`, behind `nodes` and the reversed text `text`. -/
def readOn (limit : Int) (stack : List OpenBranch) (nodes : List Node) (text : List Char) :
    Reader (List Node) := fun c => do
  let (ns, stop) ← readFrom (placeholder (branch limit (limit.toNat - stack.length)))
    (quote? stack) c text
  .ok (nodes ++ ns, stop)

/-- What the whole comes to if the innermost sequence comes to `r`. -/
def resume (limit : Int) : List OpenBranch → Answer → Answer
  | [], r => r
  | b :: stack, r => do
    let (ns, stop) ← r
    resume limit stack (do
      let (node, c) ← b.pending.behind (branch limit (limit.toNat - stack.length)) b.yes
        (b.close ns stop) (stop.skip 1)
      readOn limit stack (b.before ++ [node]) [] c)

/-- What the readers make of a state. -/
def result (limit : Int) (s : Reading) : Answer :=
  resume limit s.stack (readOn limit s.stack s.nodes s.text s.cursor)

variable {s t : Reading} {stack : List OpenBranch} {before nodes : List Node} {text : List Char}
  {yes : Option Branch}

theorem resume_error (f : Fault) : resume limit stack (.error f) = .error f := by
  cases stack <;> rfl

theorem resume_cons (b : OpenBranch) (ns : List Node) (stop : Cursor) :
    resume limit (b :: stack) (.ok (ns, stop)) = resume limit stack (do
      let (node, c) ← b.pending.behind (branch limit (limit.toNat - stack.length)) b.yes
        (b.close ns stop) (stop.skip 1)
      readOn limit stack (b.before ++ [node]) [] c) := rfl

theorem goOn_result (r : Except Fault (Node × Cursor)) :
    (goOn before stack r).elim (result limit) id = resume limit stack (do
      let (node, c) ← r
      readOn limit stack (before ++ [node]) [] c) := by
  cases r with
  | error f => exact (resume_error f).symm
  | ok out => rfl

theorem enter_result (limit : Int) (p : Pending) (yes : Option Branch) (before : List Node)
    (stack : List OpenBranch) (c : Cursor) :
    (enter limit p yes before stack c).elim (result limit) id = resume limit stack (do
      let (out, d) ← quotedBranch (branch limit (limit.toNat - stack.length)) p.bracket c
      let (node, e) ← p.behind (branch limit (limit.toNat - stack.length)) yes out d
      readOn limit stack (before ++ [node]) [] e) := by
  unfold enter quotedBranch
  by_cases hquote : c.startsWith "\"" = true
  swap
  · rw [if_neg hquote, if_neg hquote]
    exact (resume_error _).symm
  rw [if_pos hquote, if_pos hquote]
  by_cases hdeep : stack.length < limit.toNat
  · -- one of the levels left is the one that the branch takes
    have hlevels : limit.toNat - stack.length = limit.toNat - (stack.length + 1) + 1 := by omega
    have hread : branch limit (limit.toNat - stack.length) c = (do
        let (ns, stop) ← readFrom (placeholder (branch limit (limit.toNat - (stack.length + 1))))
          (some c.pos) (c.skip 1) []
        .ok (OpenBranch.close ⟨p, yes, c, before⟩ ns stop, stop.skip 1)) := by
      rw [hlevels]
      rfl
    rw [if_pos hdeep, hread]
    show resume limit (⟨p, yes, c, before⟩ :: stack) (readOn limit _ [] [] (c.skip 1)) = _
    dsimp only [resume, readOn, List.length_cons, quote?_cons]
    cases readFrom (placeholder (branch limit (limit.toNat - (stack.length + 1)))) (some c.pos)
      (c.skip 1) [] with
    | error f => exact (resume_error f).symm
    | ok out => rfl
  · have hlevels : limit.toNat - stack.length = 0 := by omega
    rw [if_neg hdeep, hlevels]
    exact (resume_error _).symm

theorem leave_result (b : OpenBranch) (ns : List Node) (stop : Cursor) :
    (leave limit b stack ns stop).elim (result limit) id =
      resume limit (b :: stack) (.ok (ns, stop)) := by
  rw [resume_cons, leave]
  cases b.yes with
  | some yes => exact goOn_result _
  | none =>
    dsimp only [Pending.behind, Pending.behindYes]
    by_cases hbars : (stop.skip 1).skipBlanks.startsWith "||" = true
    swap
    · rw [if_neg hbars, if_neg hbars]
      exact (resume_error _).symm
    rw [if_pos hbars, if_pos hbars, enter_result]
    cases quotedBranch (branch limit (limit.toNat - stack.length)) b.pending.bracket
      ((stop.skip 1).skipBlanks.skip 2).skipBlanks with
    | error f => rfl
    | ok out => rfl

theorem sequence_ahead {ph : Reader Node} {quote : Option Nat} (h : c.Spans ['\x7b'] d)
    (he : c.Ahead 1 e) :
    sequence ph quote d.pos d.rest (e.pos - c.pos - 1) text = readFrom ph quote e text := by
  obtain ⟨⟨xs, hxs⟩, hle⟩ := he
  cases xs with
  | nil =>
    rw [hxs.pos, List.length_nil] at hle
    omega
  | cons x xs =>
    obtain ⟨d', hx, hxs⟩ := spans_cons_iff.1 hxs
    obtain rfl : d' = d := hx.skip_eq.symm.trans h.skip_eq
    exact sequence_behind h hxs

/-- Behind a placeholder is read as from there. -/
theorem readOn_brace (h : c.Spans ['\x7b'] d) :
    readOn limit stack nodes text c = (do
      let (node, e) ← placeholder (branch limit (limit.toNat - stack.length)) c
      readOn limit stack (nodes ++ flush text [] ++ [node]) [] e) := by
  rw [readOn, readFrom_brace h]
  cases hnode : placeholder (branch limit (limit.toNat - stack.length)) c with
  | error f => rfl
  | ok out =>
    obtain ⟨node, e⟩ := out
    have hahead : c.Ahead 1 e :=
      (placeholder_ahead (branch_passesQuotes limit _) hnode).mono (by decide)
    simp only [bind, Except.bind, sequence_ahead h hahead, readOn]
    cases readFrom (placeholder (branch limit (limit.toNat - stack.length))) (quote? stack) e [] with
    | error f => rfl
    | ok out =>
      have hflush : flush text (node :: out.1) = flush text [] ++ [node] ++ out.1 := by
        unfold flush
        split <;> simp
      simp only [hflush, List.append_assoc]

theorem pass_result {x : Char} (h : s.cursor.Spans [x] d)
    (hescape : (if (quote? s.stack).isSome then escaped? s.cursor.rest else none) = none)
    (hquote : ¬((quote? s.stack).isSome = true ∧ x = '"')) :
    (s.pass limit x).elim (result limit) id = s.result limit := by
  unfold pass
  by_cases hbrace : x = '\x7b'
  · subst hbrace
    rw [if_pos rfl, result, readOn_brace h]
    cases hp : pending? s.cursor with
    | none =>
      rw [placeholder_congr hp]
      exact goOn_result _
    | some out =>
      -- the readers are inside the placeholder here, and the loop inside its first branch
      obtain ⟨p, e⟩ := out
      dsimp only
      rw [placeholder_of_pending? hp]
      refine (enter_result limit p none _ s.stack e).trans ?_
      cases quotedBranch (branch limit (limit.toNat - s.stack.length)) p.bracket e with
      | error f => rfl
      | ok out => rfl
  · rw [if_neg hbrace, result, readOn, readFrom_cons h, hescape]
    simp only [if_neg hquote, if_neg hbrace]
    rw [← h.skip_eq]
    rfl

theorem step_result (limit : Int) (s : Reading) :
    (s.step limit).elim (result limit) id = s.result limit := by
  obtain ⟨c, nodes, text, stack⟩ := s
  cases stack with
  | nil =>
    cases hrest : c.rest with
    | nil =>
      have hend : AtEnd none c := hrest
      simp only [step, hrest, result, resume, readOn, quote?_nil, readFrom_end hend]
      rfl
    | cons x r =>
      simp only [step, hrest]
      exact pass_result (Spans.of_cons hrest) rfl (by simp)
  | cons b stack =>
    cases hrest : c.rest with
    | nil =>
      simp only [step, hrest, result, readOn, readFrom]
      exact (resume_error _).symm
    | cons x r =>
      simp only [step, hrest]
      rw [← hrest]
      cases hescape : escaped? c.rest with
      | some y =>
        obtain ⟨r', hr', hy⟩ := escaped?_eq_some_iff.1 hescape
        have hspans : c.Spans ['\\', y] ⟨c.pos + 2, r'⟩ := Spans.of_rest hr'
        simp only [Sum.elim_inl, result, readOn]
        rw [readFrom_unit (.escaped y) hspans ⟨rfl, hy⟩, ← hspans.skip_eq]
        rfl
      | none =>
        by_cases hquote : x = '"'
        · subst hquote
          have hend : AtEnd (some b.quote.pos) c := startsWith_iff.2 ⟨_, Spans.of_cons hrest⟩
          simp only [↓reduceIte, leave_result, result, readOn, quote?_cons, readFrom_end hend]
          rfl
        · simp only [if_neg hquote]
          exact pass_result (Spans.of_cons hrest) hescape (fun h => hquote h.2)

/-! ### Steps -/

/-- A step from `c` inside the branches `stack` goes on in the text and keeps to the limit, and what it
opens stands behind `c`. -/
structure Goes (limit : Int) (stack : List OpenBranch) (c : Cursor) (t : Reading) : Prop where
  ahead : c.Ahead 1 t.cursor
  length_le : stack.length ≤ limit.toNat → t.stack.length ≤ limit.toNat
  opened : ∀ b ∈ t.stack, b ∈ stack ∨ c.Ahead 0 b.quote ∧ b.OpenAt t.cursor

/-- What is closed by a step is not looked at. -/
theorem Goes.of_cons {b : OpenBranch} (h : Goes limit stack c t) : Goes limit (b :: stack) c t where
  ahead := h.ahead
  length_le hle := h.length_le (Nat.le_of_succ_le hle)
  opened b' hb' := (h.opened b' hb').imp_left (List.mem_cons_of_mem b)

theorem goOn_goes {r : Except Fault (Node × Cursor)} (h : goOn before stack r = .inl t)
    (hr : ∀ node d, r = .ok (node, d) → c.Ahead 1 d) : Goes limit stack c t := by
  cases r with
  | error f => simp [goOn] at h
  | ok out =>
    obtain rfl := Sum.inl.inj h
    exact ⟨hr _ _ rfl, id, fun _ => .inl⟩

theorem enter_goes {n : Nat} (hd : c.Ahead n d) (h : enter limit p yes before stack d = .inl t) :
    Goes limit stack c t := by
  unfold enter at h
  split at h
  swap
  · simp at h
  rename_i hquote
  split at h
  swap
  · simp at h
  rename_i hlimit
  obtain rfl := Sum.inl.inj h
  have hopen : d.Ahead 1 (d.skip 1) := ahead_token hquote
  refine ⟨(hd.trans hopen).mono (Nat.le_add_left 1 n), fun _ => hlimit, fun b hb => ?_⟩
  rcases List.mem_cons.1 hb with rfl | hb
  · exact .inr ⟨hd.mono (Nat.zero_le n), hquote, hopen⟩
  · exact .inl hb

theorem leave_goes {b : OpenBranch} {ns : List Node} {stop : Cursor}
    (hstop : stop.startsWith "\"" = true) (h : leave limit b stack ns stop = .inl t) :
    Goes limit stack stop t := by
  have hquote : stop.Ahead 1 (stop.skip 1) := ahead_token hstop
  unfold leave at h
  split at h
  · dsimp only at h
    split at h
    swap
    · simp at h
    rename_i hbars
    have hmiddle := (ahead_of_skipBlanks (ahead_token hbars)).trans (ahead_skipBlanks _)
    exact enter_goes (hquote.trans hmiddle) h
  · refine goOn_goes h fun node d hnode => ?_
    unfold Pending.behindNo at hnode
    split at hnode
    swap
    · simp at hnode
    rename_i hbracket
    have hend := (ahead_of_skipBlanks (ahead_token hbracket)).trans (closing_ahead hnode)
    exact (hquote.trans hend).mono (by decide)

theorem pass_goes {x : Char} (hx : s.cursor.Spans [x] d) (h : s.pass limit x = .inl t) :
    Goes limit s.stack s.cursor t := by
  unfold pass at h
  split at h
  · split at h
    · rename_i p d hp
      exact enter_goes (pending?_ahead hp) h
    · refine goOn_goes h fun node e hnode => ?_
      exact (placeholder_ahead (branch_passesQuotes limit 0) hnode).mono (by decide)
  · obtain rfl := Sum.inl.inj h
    refine ⟨?_, id, fun _ => .inl⟩
    show s.cursor.Ahead 1 (s.cursor.skip [x].length)
    rw [hx.skip_eq]
    exact hx.ahead le_rfl

/-- Every step passes a character and keeps the open branches within the limit. -/
theorem step_goes (h : s.step limit = .inl t) : Goes limit s.stack s.cursor t := by
  unfold step at h
  split at h
  · simp at h
  · rename_i x r _ hrest
    exact pass_goes (Spans.of_cons hrest) h
  · simp at h
  · rename_i b stack x r hstack hrest
    split at h
    · rename_i y hescape
      obtain ⟨r', hr', -⟩ := escaped?_eq_some_iff.1 hescape
      obtain rfl := Sum.inl.inj h
      refine ⟨(ahead_skip ?_).mono (by decide), id, fun _ => .inl⟩
      simp [hr']
    split at h
    · rename_i hquote
      subst hquote
      have hstop : s.cursor.startsWith "\"" = true := startsWith_iff.2 ⟨_, Spans.of_cons hrest⟩
      exact hstack ▸ (leave_goes hstop h).of_cons
    · exact pass_goes (Spans.of_cons hrest) h

theorem step_ends (limit : Int) :
    Ends (step limit) (fun s => s.stack.length ≤ limit.toNat) (fun s => s.cursor.rest.length)
      (result limit) where
  keeps hs h := (step_goes h).length_le hs
  lt _ h := (step_goes h).ahead.length_le
  result_eq _ := step_result limit _

theorem result_start (limit : Int) (cs : List Char) :
    (start cs).result limit = Reader.template limit cs := by
  show (do
    let (ns, stop) ← Reader.template limit cs
    .ok ([] ++ ns, stop)) = Reader.template limit cs
  cases Reader.template limit cs <;> rfl

/-- The states that the loop comes through. -/
def Reached (limit : Int) (cs : List Char) : Reading → Prop :=
  Relation.ReflTransGen (fun s t => s.step limit = .inl t) (start cs)

/-- What the loop keeps: it is in the text, within the limit, and behind the quotes of the branches that
are open. -/
structure Kept (limit : Int) (cs : List Char) (s : Reading) : Prop where
  ahead : (start cs).cursor.Ahead 0 s.cursor
  length_le : s.stack.length ≤ limit.toNat
  opened : ∀ b ∈ s.stack, (start cs).cursor.Ahead 0 b.quote ∧ b.OpenAt s.cursor

theorem Kept.step {cs : List Char} (h : Kept limit cs s) (hstep : s.step limit = .inl t) :
    Kept limit cs t := by
  have hgoes := step_goes hstep
  refine ⟨(h.ahead.trans hgoes.ahead).mono (Nat.zero_le _), hgoes.length_le h.length_le, ?_⟩
  intro b hb
  rcases hgoes.opened b hb with hold | ⟨hquote, hopen⟩
  · obtain ⟨hquote, hopen⟩ := h.opened b hold
    exact ⟨hquote, hopen.startsWith, (hopen.ahead.trans hgoes.ahead).mono (by decide)⟩
  · exact ⟨h.ahead.trans hquote, hopen⟩

theorem Reached.kept {cs : List Char} (h : Reached limit cs s) : Kept limit cs s := by
  induction h with
  | refl => exact ⟨.refl _, Nat.zero_le _, by simp [start]⟩
  | tail _ hstep ih => exact ih.step hstep

end Reading

end StreamLabel
