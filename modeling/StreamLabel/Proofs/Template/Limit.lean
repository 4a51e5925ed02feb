import StreamLabel.Proofs.Template.Fault
import StreamLabel.Proofs.Template.Source
import StreamLabel.Proofs.Template.Tree
import Mathlib

/-!
# The limit of nesting

A reader asks for the limit in one place only, at the quote of a branch. So a reading that did not
end there ends alike under every larger limit (`Settles`, with one lemma for each reader). And the
text of a layout, which can be read when the limit is large enough, is cut off under a smaller one at
the first branch of the first level that the limit forbids (`readFrom_tooDeep`): what stands in front
of it is read, since its branches are less deep.
-/

namespace StreamLabel
open Unicode Reader Cursor Layout

/-! ### Larger limits -/

/-- The result `x` stands as `y`, unless it is that a branch lies too deep. -/
def Settles {α : Type} (x y : Except Fault α) : Prop :=
  y = x ∨ ∃ limit position, x = .error ⟨.tooDeep limit, position⟩

namespace Settles
variable {α β : Type}

theorem refl (x : Except Fault α) : Settles x x := .inl rfl

theorem bind {x y : Except Fault α} {f g : α → Except Fault β} (h : Settles x y)
    (hfg : ∀ a, Settles (f a) (g a)) : Settles (x >>= f) (y >>= g) := by
  rcases h with rfl | ⟨limit, position, rfl⟩
  · cases y with
    | error e => exact .refl _
    | ok a => exact hfg a
  · exact .inr ⟨limit, position, rfl⟩

variable {b b' : Reader (List Node × String)} {start : Nat}

theorem quotedBranch (hb : ∀ c, Settles (b c) (b' c)) (c : Cursor) :
    Settles (Reader.quotedBranch b start c) (Reader.quotedBranch b' start c) := by
  unfold Reader.quotedBranch
  split
  · exact hb c
  · exact .refl _

theorem branches (hb : ∀ c, Settles (b c) (b' c)) (c : Cursor) :
    Settles (Reader.branches b c) (Reader.branches b' c) := by
  unfold Reader.branches
  refine .bind (.quotedBranch hb _) fun out => ?_
  obtain ⟨yes, d⟩ := out
  dsimp only
  split
  · exact .bind (.quotedBranch hb _) fun _ => .refl _
  · exact .refl _

theorem modifier (hb : ∀ c, Settles (b c) (b' c)) (c : Cursor) :
    Settles (Reader.modifier b start c) (Reader.modifier b' start c) := by
  unfold Reader.modifier
  split
  · exact .refl _
  split
  · refine .bind (.refl _) fun out => ?_
    obtain ⟨condition, d⟩ := out
    dsimp only
    split
    · exact .bind (.branches hb _) fun _ => .refl _
    · exact .refl _
  · exact .refl _

theorem placeholder (hb : ∀ c, Settles (b c) (b' c)) (c : Cursor) :
    Settles (Reader.placeholder b c) (Reader.placeholder b' c) := by
  rw [placeholder_eq_closing, placeholder_eq_closing]
  refine .bind (.refl _) fun out => .bind ?_ fun _ => .refl _
  unfold modification
  split
  · exact .modifier hb _
  · exact .refl _

theorem sequence {ph ph' : Reader Node} (hph : ∀ c, Settles (ph c) (ph' c)) (quote : Option Nat)
    (pos : Nat) (rest : List Char) (skip : Nat) (text : List Char) :
    Settles (Reader.sequence ph quote pos rest skip text)
      (Reader.sequence ph' quote pos rest skip text) := by
  induction rest generalizing pos skip text with
  | nil => exact .refl _
  | cons c cs ih =>
    cases skip with
    | succ skip => exact ih (pos + 1) skip text
    | zero =>
      simp only [Reader.sequence]
      split
      · exact ih _ _ _
      split
      · exact .refl _
      split
      · exact .bind (hph _) fun _ => .bind (ih _ _ _) fun _ => .refl _
      · exact ih _ _ _

theorem branch (limit limit' : Int) {n n' : Nat} (h : n ≤ n') (c : Cursor) :
    Settles (Reader.branch limit n c) (Reader.branch limit' n' c) := by
  induction n generalizing n' c with
  | zero => exact .inr ⟨limit, c.pos, rfl⟩
  | succ n ih =>
    obtain ⟨n', rfl⟩ : ∃ m, n' = m + 1 := ⟨n' - 1, by omega⟩
    refine .bind (.sequence (fun c => .placeholder (fun c => ih (by omega) c) c) _ _ _ _ _)
      fun _ => .refl _

theorem template {limit limit' : Int} (h : limit ≤ limit') (cs : List Char) :
    Settles (Reader.template limit cs) (Reader.template limit' cs) :=
  .sequence (.placeholder (.branch limit limit' (Int.toNat_le_toNat h))) _ _ _ _ _

end Settles

/-! ### Where branches begin -/

/-- How deep a branch is nested, and where its opening quote stands. -/
structure BranchStart where
  level : Nat
  position : Nat
deriving DecidableEq

namespace Layout

/-- The branches of a layout that begins at `pos`, in the order of the text. Those of its own
placeholders have the level `level`. -/
def branchStarts (level pos : Nat) : Layout → List BranchStart
  | done => []
  | text us rest => rest.branchStarts level (pos + (TextUnit.allChars us).length)
  | value ref b rest => rest.branchStarts level (pos + (valueChars ref b).length)
  | formatted ref b₁ b₂ name b₃ rest =>
    rest.branchStarts level (pos + (formattedChars ref b₁ b₂ name b₃).length)
  | choice f yes no rest =>
    let yesPos := pos + f.opening.length
    let noPos := yesPos + (inQuotes yes.chars).length + f.middle.length
    ⟨level, yesPos⟩ :: yes.branchStarts (level + 1) (yesPos + 1) ++
      (⟨level, noPos⟩ :: no.branchStarts (level + 1) (noPos + 1) ++
        rest.branchStarts level (noPos + (inQuotes no.chars).length + f.closing.length))

variable {l : Layout} {level pos : Nat} {b : BranchStart}

theorem level_lt_of_mem_branchStarts (h : b ∈ l.branchStarts level pos) :
    b.level < level + l.depth := by
  induction l generalizing level pos with
  | done => simp [branchStarts] at h
  | text us rest ih => exact ih h
  | value r b₁ rest ih => exact ih h
  | formatted r b₁ b₂ name b₃ rest ih => exact ih h
  | choice f yes no rest ihy ihn ih =>
    simp only [branchStarts, List.mem_append, List.mem_cons] at h
    simp only [Layout.depth]
    rcases h with (rfl | h) | (rfl | h) | h
    · dsimp only; omega
    · have := ihy h; omega
    · dsimp only; omega
    · have := ihn h; omega
    · have := ih h; omega

theorem find?_branchStarts_eq_none {n : Nat} (level pos : Nat) (h : l.depth ≤ n) :
    (l.branchStarts (level + 1) pos).find? (·.level = level + (n + 1)) = none := by
  refine List.find?_eq_none.2 fun b hb => ?_
  have := level_lt_of_mem_branchStarts hb
  simp only [decide_eq_true_eq]
  omega

theorem position_lt_of_mem_branchStarts (h : b ∈ l.branchStarts level pos) :
    pos ≤ b.position ∧ b.position < pos + l.chars.length := by
  induction l generalizing level pos with
  | done => simp [branchStarts] at h
  | text us rest ih =>
    have := ih h
    simp only [Layout.chars, List.length_append]
    omega
  | value r b₁ rest ih =>
    have := ih h
    simp only [Layout.chars, List.length_append]
    omega
  | formatted r b₁ b₂ name b₃ rest ih =>
    have := ih h
    simp only [Layout.chars, List.length_append]
    omega
  | choice f yes no rest ihy ihn ih =>
    simp only [branchStarts, List.mem_append, List.mem_cons] at h
    simp only [Layout.chars, List.length_append, inQuotes, List.length_cons, List.length_nil] at h ⊢
    rcases h with (rfl | h) | (rfl | h) | h
    · dsimp only; omega
    · have := ihy h; omega
    · dsimp only; omega
    · have := ihn h; omega
    · have := ih h; omega

theorem branchStarts_increasing (l : Layout) (level pos : Nat) :
    (l.branchStarts level pos).Pairwise (·.position < ·.position) := by
  induction l generalizing level pos with
  | done => exact .nil
  | text us rest ih => exact ih ..
  | value r b₁ rest ih => exact ih ..
  | formatted r b₁ b₂ name b₃ rest ih => exact ih ..
  | choice f yes no rest ihy ihn ih =>
    let yesPos := pos + f.opening.length
    let noPos := yesPos + (inQuotes yes.chars).length + f.middle.length
    let restPos := noPos + (inQuotes no.chars).length + f.closing.length
    have hquotes : ∀ cs, (inQuotes cs).length = cs.length + 2 := fun cs => by simp [inQuotes]
    have hy : ∀ b ∈ yes.branchStarts (level + 1) (yesPos + 1), yesPos < b.position :=
      fun b hb => (position_lt_of_mem_branchStarts hb).1
    have hn : ∀ b ∈ no.branchStarts (level + 1) (noPos + 1), noPos < b.position :=
      fun b hb => (position_lt_of_mem_branchStarts hb).1
    have hy' : ∀ b ∈ ⟨level, yesPos⟩ :: yes.branchStarts (level + 1) (yesPos + 1),
        b.position < noPos := by
      refine List.forall_mem_cons.2 ⟨?_, fun b hb => ?_⟩
      · simp only [noPos, hquotes]; omega
      · have := (position_lt_of_mem_branchStarts hb).2
        simp only [noPos, hquotes]; omega
    have hn' : ∀ b ∈ ⟨level, noPos⟩ :: no.branchStarts (level + 1) (noPos + 1),
        b.position < restPos := by
      refine List.forall_mem_cons.2 ⟨?_, fun b hb => ?_⟩
      · simp only [restPos, hquotes]; omega
      · have := (position_lt_of_mem_branchStarts hb).2
        simp only [restPos, hquotes]; omega
    have hrest : ∀ b ∈ rest.branchStarts level restPos, restPos ≤ b.position :=
      fun b hb => (position_lt_of_mem_branchStarts hb).1
    refine List.pairwise_append.2 ⟨List.pairwise_cons.2 ⟨hy, ihy ..⟩,
      List.pairwise_append.2 ⟨List.pairwise_cons.2 ⟨hn, ihn ..⟩, ih .., ?_⟩, ?_⟩
    · exact fun x hx y hy => (hn' x hx).trans_le (hrest y hy)
    · intro x hx y hmem
      refine (hy' x hx).trans_le ?_
      rcases List.mem_append.1 hmem with hmem | hmem
      · rcases List.mem_cons.1 hmem with rfl | hmem
        · exact le_rfl
        · exact (hn y hmem).le
      · have := hrest y hmem
        simp only [restPos] at this
        omega

/-- In a list that goes along the text, the branch of a level that is found first is the first one. -/
theorem isLeast_of_find? {bs : List BranchStart} (h : bs.Pairwise (·.position < ·.position))
    {level position : Nat} (hb : bs.find? (·.level = level) = some ⟨level, position⟩) :
    IsLeast {p | ⟨level, p⟩ ∈ bs} position := by
  obtain ⟨-, before, after, rfl, hbefore⟩ := List.find?_eq_some_iff_append.1 hb
  refine ⟨by simp, fun p hp => ?_⟩
  rcases List.mem_append.1 hp with hp | hp
  · simpa using hbefore _ hp
  · rcases List.mem_cons.1 hp with hp | hp
    · exact (BranchStart.mk.inj hp).2.ge
    · exact ((List.pairwise_cons.1 (List.pairwise_append.1 h).2.1).1 _ hp).le

end Layout

/-! ### Branches that lie too deep -/

variable {c d e : Cursor} {n : Nat} {f : Fault} {quote : Option Nat} {text : List Char}
  {branch : Reader (List Node × String)}

theorem branches_eq_error (hb : ReadsBranches branch n) {b : Cursor} {part : ListPart}
    (hl : ListTo n b part d) (hpart : part.next = "\"") (hd : d.startsWith "\"" = true)
    (h : branch d = .error f) : branches branch b = .error f := by
  have hstop : Stops isBlank d.rest := by
    obtain ⟨e, he⟩ := startsWith_iff.1 hd
    exact he.stops rfl
  have hquoted : ∀ start, quotedBranch branch start d = .error f := fun start => by
    rw [quotedBranch, if_pos hd, h]
  cases hl with
  | bracket blanks h₁ =>
    obtain ⟨a, ha, hblanks⟩ := spans_cons_iff.1 h₁
    have hskip : b.skip 1 = a := ha.skip_eq
    simp only [Reader.branches, hskip, skipBlanks_eq blanks hblanks hstop, hquoted, bind, Except.bind]
  | bars h₁ blanks h₂ =>
    obtain ⟨a₂, ha₂, hblanks₂⟩ := spans_append_iff.1
      (show Cursor.Spans _ (['|', '|'] ++ blanks.chars) d from h₂)
    cases h₁ with
    | yes h₁ hl blanks₁ hblanks₁ =>
      cases h₁ with
      | bracket blanks₀ h₀ =>
        obtain ⟨a, ha, hblanks₀⟩ := spans_cons_iff.1 h₀
        have hskip : b.skip 1 = a := ha.skip_eq
        have hyes : quotedBranch branch b.pos _ = _ := (quotedBranch_eq_ok_iff hb).2 ⟨_, hl, rfl⟩
        have hbars : Cursor.startsWith _ "||" = true := startsWith_iff.2 ⟨a₂, ha₂⟩
        have hskip₂ : Cursor.skip 2 _ = a₂ := ha₂.skip_eq
        simp only [Reader.branches, hskip, skipBlanks_eq blanks₀ hblanks₀ hl.stops_isBlank, hyes, bind,
          Except.bind, skipBlanks_eq blanks₁ hblanks₁ (ha₂.stops rfl), hbars, ↓reduceIte, hskip₂,
          skipBlanks_eq blanks hblanks₂ hstop, hquoted]
  | yes => simp [ListPart.next] at hpart
  | no => simp [ListPart.next] at hpart

/-- The fault of a branch is the fault of its placeholder. -/
theorem EntersBranch.placeholder_eq_error (hb : ReadsBranches branch n) (h : EntersBranch n c d)
    (hf : branch d = .error f) : placeholder branch c = .error f := by
  obtain ⟨p, k, hbracket, hl, hpart, hd⟩ := h
  obtain ⟨a, hp, hk⟩ := spans_append_iff.1 hbracket.spans
  obtain ⟨b', hb'⟩ := startsWith_iff.1 hbracket.bracket
  rw [placeholder_front_eq p hp (k.stops_isBlank hk), modifier_cond_eq k hk hb',
    branches_eq_error hb hl hpart hd hf]
  rfl

namespace Layout.Frame
variable {fr : Frame}

theorem exists_listTo (h : c.Spans fr.opening d) :
    ∃ b, BracketAt ⟨fr.ref, fr.beforeColons, fr.beforeCondition⟩ fr.condition c b ∧
      ListTo n b .bracket d := by
  have h' : c.Spans ((Front.mk fr.ref fr.beforeColons fr.beforeCondition).chars ++
      fr.condition.chars ++ '[' :: fr.beforeYes.chars) d := by
    simpa [Frame.opening, Front.chars] using h
  obtain ⟨b, h₁, h₂⟩ := spans_append_iff.1 h'
  obtain ⟨a, ha, -⟩ := spans_cons_iff.1 h₂
  exact ⟨b, ⟨h₁, startsWith_iff.2 ⟨a, ha⟩⟩, .bracket _ h₂⟩

theorem entersBranch_yes (h : c.Spans fr.opening d) (hd : d.Spans ['"'] e) : EntersBranch n c d := by
  obtain ⟨b, hb, hl⟩ := fr.exists_listTo h
  exact .intro _ _ hb hl rfl (startsWith_iff.2 ⟨e, hd⟩)

theorem entersBranch_no {yes : Layout} {c₁ c₂ : Cursor} (h : c.Spans fr.opening c₁)
    (hyes : QuotedAt n yes c₁ c₂) (h₂ : c₂.Spans fr.middle d) (hd : d.Spans ['"'] e) :
    EntersBranch n c d := by
  obtain ⟨b, hb, hl⟩ := fr.exists_listTo h
  obtain ⟨a, ha, hbars⟩ := spans_append_iff.1 h₂
  exact .intro _ _ hb (.bars (.yes hl hyes _ ha) _ hbars) rfl (startsWith_iff.2 ⟨e, hd⟩)

end Layout.Frame

theorem exists_inQuotes {xs : List Char} (h : c.Spans (inQuotes xs) d) :
    ∃ a b, c.Spans ['"'] a ∧ a.Spans xs b ∧ AtEnd (some c.pos) b := by
  obtain ⟨a, ha, h⟩ := spans_cons_iff.1 h
  obtain ⟨b, hb, hd⟩ := spans_append_iff.1 h
  exact ⟨a, b, ha, hb, startsWith_iff.2 ⟨d, hd⟩⟩

theorem EntersBranch.readFrom_eq_error (hb : ReadsBranches branch n) (h : EntersBranch n c d)
    (hf : branch d = .error f) (text : List Char) :
    readFrom (placeholder branch) quote c text = .error f := by
  have hplace := h.placeholder_eq_error hb hf
  obtain ⟨p, k, hbracket, -, -, -⟩ := h
  obtain ⟨a, hp, -⟩ := spans_append_iff.1 hbracket.spans
  obtain ⟨e, he⟩ := p.exists_brace hp
  rw [readFrom_brace he, hplace]
  rfl

/-- By induction on the layout. At a placeholder with branches either no more levels are left and its
first branch is the fault, or one of its branches is too deep for the levels that are left to it, or
both are read and the rest of the layout is too deep. -/
theorem readFrom_tooDeep (limit : Int) {l : Layout} (hok : l.Ok quote.isSome) (hn : n < l.depth)
    (h : c.Spans l.chars d) (hd : AtEnd quote d) (level : Nat) :
    ∃ p, (l.branchStarts level c.pos).find? (·.level = level + n) = some ⟨level + n, p⟩ ∧
      ∀ text, readFrom (placeholder (Reader.branch limit n)) quote c text =
        .error ⟨.tooDeep limit, p⟩ := by
  have hslots : ∀ {n}, ReadsSlots (placeholder (Reader.branch limit n)) n :=
    fun {n} => ReadsBranches.readsSlots (readsBranches limit n)
  induction l generalizing n quote c d level with
  | done => simp [Layout.depth] at hn
  | text us rest ih =>
    obtain ⟨-, hus, -, hok⟩ := hok
    obtain ⟨c₁, h₁, h₂⟩ := spans_append_iff.1 h
    obtain ⟨p, hp, hread⟩ := ih hok hn h₂ hd level
    have hus' : TextUnit.AllOk quote.isSome c₁.rest us := by
      refine hus.congr fun hq => ?_
      rw [h₂.rest]
      exact (hd.head?_append _ hq).symm
    refine ⟨p, by rw [branchStarts, ← h₁.pos]; exact hp, fun text => ?_⟩
    rw [readFrom_units h₁ hus', hread]
  | value r b rest ih =>
    obtain ⟨c₁, h₁, h₂⟩ := spans_append_iff.1 h
    obtain ⟨p, hp, hread⟩ := ih hok hn h₂ hd level
    refine ⟨p, by rw [branchStarts, ← h₁.pos]; exact hp, fun text => ?_⟩
    rw [readFrom_slot hslots (.value r b h₁), hread]
    rfl
  | formatted r b₁ b₂ name b₃ rest ih =>
    obtain ⟨c₁, h₁, h₂⟩ := spans_append_iff.1 h
    obtain ⟨p, hp, hread⟩ := ih hok hn h₂ hd level
    refine ⟨p, by rw [branchStarts, ← h₁.pos]; exact hp, fun text => ?_⟩
    rw [readFrom_slot hslots (.formatted r b₁ b₂ name b₃ h₁), hread]
    rfl
  | choice fr yes no rest ihy ihn ih =>
    obtain ⟨hyes, hno, hok⟩ := hok
    obtain ⟨c₁, h₁, h⟩ := spans_append_iff.1 h
    obtain ⟨c₂, h₂, h⟩ := spans_append_iff.1 h
    obtain ⟨c₃, h₃, h⟩ := spans_append_iff.1 h
    obtain ⟨c₄, h₄, h⟩ := spans_append_iff.1 h
    obtain ⟨c₅, h₅, h₆⟩ := spans_append_iff.1 h
    obtain ⟨y₁, y₂, hy₁, hy₂, hyend⟩ := exists_inQuotes h₂
    obtain ⟨n₁, n₂, hn₁, hn₂, hnend⟩ := exists_inQuotes h₄
    have hstarts : (Layout.choice fr yes no rest).branchStarts level c.pos =
        ⟨level, c₁.pos⟩ :: yes.branchStarts (level + 1) y₁.pos ++
          (⟨level, c₃.pos⟩ :: no.branchStarts (level + 1) n₁.pos ++
            rest.branchStarts level c₅.pos) := by
      simp only [branchStarts, h₅.pos, hn₁.pos, h₄.pos, h₃.pos, h₂.pos, hy₁.pos, h₁.pos,
        List.length_singleton]
    rw [hstarts]
    cases n with
    | zero =>
      have henters : EntersBranch 0 c c₁ := fr.entersBranch_yes h₁ hy₁
      exact ⟨c₁.pos, by simp, henters.readFrom_eq_error (readsBranches limit 0) rfl⟩
    | succ n =>
      have hlevel : level + 1 + n = level + (n + 1) := by omega
      by_cases hyn : n < yes.depth
      · obtain ⟨p, hp, hread⟩ :=
          ihy (show yes.Ok (some c₁.pos).isSome from hyes) hyn hy₂ hyend (level + 1)
        have henters : EntersBranch (n + 1) c c₁ := fr.entersBranch_yes h₁ hy₁
        rw [hlevel] at hp
        exact ⟨p, by simp [hp], henters.readFrom_eq_error (readsBranches limit (n + 1))
          ((branch_eq_error_iff hy₁).2 (hread []))⟩
      have hyes' : QuotedAt (n + 1) yes c₁ c₂ := ⟨hyes, by omega, h₂⟩
      have hynone := find?_branchStarts_eq_none level y₁.pos (Nat.le_of_not_lt hyn)
      by_cases hnn : n < no.depth
      · obtain ⟨p, hp, hread⟩ :=
          ihn (show no.Ok (some c₃.pos).isSome from hno) hnn hn₂ hnend (level + 1)
        have henters : EntersBranch (n + 1) c c₃ := fr.entersBranch_no h₁ hyes' h₃ hn₁
        rw [hlevel] at hp
        exact ⟨p, by simp [hp, hynone], henters.readFrom_eq_error (readsBranches limit (n + 1))
          ((branch_eq_error_iff hn₁).2 (hread []))⟩
      have hno' : QuotedAt (n + 1) no c₃ c₄ := ⟨hno, by omega, h₄⟩
      have hnnone := find?_branchStarts_eq_none level n₁.pos (Nat.le_of_not_lt hnn)
      have hrest : n + 1 < rest.depth := by
        simp only [Layout.depth] at hn
        omega
      obtain ⟨p, hp, hread⟩ := ih hok hrest h₆ hd level
      refine ⟨p, by simp [hp, hynone, hnnone], fun text => ?_⟩
      rw [readFrom_slot hslots (.choice fr h₁ hyes' h₃ hno' h₅), hread]
      rfl

/-! ### Templates -/

theorem parse_tooDeep {s : String} {l : Layout} (hok : l.Ok false) (hl : l.chars = s.toList)
    {limit : Nat} (h : limit < l.depth) :
    ∃ p, IsLeast {p | ⟨limit + 1, p⟩ ∈ l.branchStarts 1 0} p ∧
      Template.parse s limit = .error ⟨.tooDeep limit, p, utf8Length (s.toList.take p)⟩ := by
  have hspans : Cursor.Spans ⟨0, s.toList⟩ l.chars ⟨l.chars.length, []⟩ := ⟨by simp [hl], by simp⟩
  have hok' : l.Ok (none : Option Nat).isSome := hok
  obtain ⟨p, hp, hread⟩ := readFrom_tooDeep limit hok' h hspans rfl 1
  rw [Nat.add_comm 1 limit] at hp
  have htemplate : Reader.template limit s.toList = .error ⟨.tooDeep limit, p⟩ := hread []
  exact ⟨p, isLeast_of_find? (l.branchStarts_increasing 1 0) hp, by rw [Template.parse, htemplate]⟩

theorem parse_error_of_le {s : String} {limit limit' : Int} {e : ParseError} (h : limit ≤ limit')
    (he : Template.parse s limit = .error e) (hkind : e.kind ≠ .nestingTooDeep) :
    Template.parse s limit' = .error e := by
  rcases Settles.template h s.toList with heq | ⟨_, position, heq⟩
  · rw [Template.parse] at he ⊢
    rwa [heq]
  · rw [Template.parse, heq] at he
    cases he
    exact absurd rfl hkind

/-- The limit cuts at the depth of the tree, and any other error is found whatever the limit is. Both
errors are reported, unless half of a surrogate pair stands in front of them or the message cannot be
written. -/
theorem parse_cut_at_depth (s : CodePoints) :
    (∀ (limit : Int) (t : Template), Template.read s limit = .ok t →
      ∃ l : Layout, l.Derives t.depth s.text ∧ t = ⟨l.nodesAt 0, s.text⟩ ∧ ∀ d : Nat,
        (t.depth ≤ d → Template.read s d = .ok t) ∧
        (d < t.depth → ∃ p, IsLeast {p | ⟨d + 1, p⟩ ∈ l.branchStarts 1 0} p ∧
          let e : ParseError := ⟨.tooDeep d, p, (CodePoints.text (s.take p)).utf8ByteSize⟩
          Template.read s d = .error (.ofError s e) ∧
            (Template.Failure.ofError s e = .error e ↔ e.Reportable s))) ∧
    ∀ (limit limit' : Int) (e : ParseError), limit ≤ limit' → Template.parse s.text limit = .error e →
      e.kind ≠ .nestingTooDeep →
        Template.read s limit = .error (.ofError s e) ∧ Template.read s limit' = .error (.ofError s e) ∧
          (Template.Failure.ofError s e = .error e ↔ e.Reportable s) := by
  refine ⟨fun limit t ht => ?_, fun limit limit' e hle he hkind => ?_⟩
  · obtain ⟨l, ⟨hok, -, hchars⟩, rfl⟩ := parse_eq_ok_iff_toNat.1 (Template.read_eq_ok_iff.1 ht)
    simp only [Template.depth, depthAll_nodesAt]
    refine ⟨l, ⟨hok, le_rfl, hchars⟩, rfl, fun d => ⟨fun hd => ?_, fun hd => ?_⟩⟩
    · exact Template.read_eq_ok_iff.2 (parse_eq_ok_iff.2 ⟨l, ⟨hok, hd, hchars⟩, rfl⟩)
    · obtain ⟨p, hp, herror⟩ := parse_tooDeep hok hchars hd
      rw [CodePoints.utf8Length_take] at herror
      exact ⟨p, hp, Template.read_eq_error_iff.2 ⟨_, herror, rfl⟩, Template.Failure.ofError_eq_iff⟩
  · exact ⟨Template.read_eq_error_iff.2 ⟨e, he, rfl⟩,
      Template.read_eq_error_iff.2 ⟨e, parse_error_of_le hle he hkind, rfl⟩,
      Template.Failure.ofError_eq_iff⟩

/-- One level is allowed of two, and an unknown namespace stands in a branch. -/
theorem parse_cut_at_depth_one_of_two :
    let s := "é\x7bstream.title::=a[\"x\x7bstream.year::>0[\"y\"||\"\"]\x7d\"||\"\"]\x7d"
    let t : Template := ⟨[.literal "é", .choice ⟨1, "x\x7bstream.year::>0[\"y\"||\"\"]\x7d", ""⟩
      ⟨.stream, "title"⟩ (.compare .eq "a") [.literal "x", .choice ⟨21, "y", ""⟩ ⟨.stream, "year"⟩
        (.compare .gt "0") [.literal "y"] []] []], s⟩
    let s' := "\x7bstream.title::=a[\"\x7bstrem.year\x7d\"||\"\"]\x7d"
    Template.read (.ofString s) 5 = .ok t ∧ 1 < t.depth ∧
      (∃ (l : Layout) (p : Nat), l.Derives 2 s ∧ IsLeast {p | ⟨2, p⟩ ∈ l.branchStarts 1 0} p ∧
        Template.read (.ofString s) 1 = .error (.error ⟨.tooDeep 1, p, 39⟩) ∧ p = 38) ∧
      Template.read (.ofString s') 9 = .error (.error ⟨.unknownNamespace "strem", 20, 20⟩) := by
  intro s t s'
  have ht : Template.read (.ofString s) 5 = .ok t := by
    rw [Template.read_ofString_eq_ok_iff]
    cbv
  have hs : Template.parse s 1 = .error ⟨.tooDeep 1, 38, 39⟩ := by cbv
  have he : Template.parse s' 1 = .error ⟨.unknownNamespace "strem", 20, 20⟩ := by cbv
  obtain ⟨l, hl, -, hcut⟩ := (parse_cut_at_depth (.ofString s)).1 5 t ht
  obtain ⟨p, hp, hread, -⟩ := (hcut 1).2 (by decide)
  obtain ⟨-, hread', -⟩ := (parse_cut_at_depth (.ofString s')).2 1 9 _ (by decide)
    (by rw [CodePoints.text_ofString]; exact he) (by decide)
  rw [CodePoints.text_ofString] at hl
  rw [Template.Failure.ofError_ofString (by rfl)] at hread hread'
  have hread₁ := Template.read_ofString_of_error hs rfl
  have hp' : p = 38 := by
    have heq := hread.symm.trans hread₁
    simp only [Except.error.injEq, Template.Failure.error.injEq, ParseError.mk.injEq] at heq
    exact heq.2.1
  exact ⟨ht, by decide, ⟨l, p, hl, hp, by rw [hread₁, hp'], hp'⟩, hread'⟩

/-- Behind half of a surrogate pair, a branch that lies too deep is not reported as one. -/
theorem exists_cut_not_reported :
    ¬ ∀ (s : CodePoints) (limit : Int) (t : Template) (d : Nat), Template.read s limit = .ok t →
      d < t.depth → ∃ e, Template.read s d = .error (.error e) ∧ e.kind = .nestingTooDeep := by
  intro h
  let s : CodePoints := 0xd800 :: CodePoints.ofString "\x7bstream.title::=a[\"x\"||\"y\"]\x7d"
  have htext : s.text = "\ufffd\x7bstream.title::=a[\"x\"||\"y\"]\x7d" := by decide +kernel
  have hread : Template.read s 1 = .ok ⟨[.literal "\ufffd", .choice ⟨1, "x", "y"⟩ ⟨.stream, "title"⟩
      (.compare .eq "a") [.literal "x"] [.literal "y"]], s.text⟩ := by
    rw [Template.read_eq_ok_iff, htext]
    cbv
  have hdeep : Template.parse s.text 0 = .error ⟨.tooDeep 0, 19, 21⟩ := by
    rw [htext]
    cbv
  have hfailure : Template.Failure.ofError s ⟨.tooDeep 0, 19, 21⟩ = .unencodable ⟨0, [0xd800]⟩ := by
    decide +kernel
  obtain ⟨e, he, -⟩ := h s 1 _ 0 hread (by decide)
  rw [Nat.cast_zero, Template.read_eq_error_iff.2 ⟨_, hdeep, rfl⟩, hfailure] at he
  cases he

end StreamLabel
