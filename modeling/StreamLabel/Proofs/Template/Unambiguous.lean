import StreamLabel.Proofs.Template.Sequence
import StreamLabel.Proofs.Template.Tree

/-!
# The grammar is unambiguous

Two layouts of one text are the same layout (`Layout.unique`). The reader takes both, so they have
one tree, and the tree says of which placeholders they are made; what it does not say, blanks and
the division of literal text into units, the text around it fixes. With that, `parse` accepts what
the grammar derives, and builds the one tree that the grammar gives it
(`parse_iff_derives_unambiguously`).
-/

namespace StreamLabel
open Unicode Reader Cursor Layout

variable {c d d' : Cursor} {t xs xs' : List Char}

/-! ### Fronts -/

/-- Two texts at one place with the same front. -/
theorem Cursor.Spans.same_front (h : c.Spans (t ++ xs) d) (h' : c.Spans (t ++ xs') d') :
    ∃ e, c.Spans t e ∧ e.Spans xs d ∧ e.Spans xs' d' := by
  obtain ⟨e, h₁, h₂⟩ := spans_append_iff.1 h
  obtain ⟨e', h₁', h₂'⟩ := spans_append_iff.1 h'
  obtain rfl := h₁.eq_right h₁'
  exact ⟨e, h₁, h₂, h₂'⟩

theorem Blanks.unique {b b' : Blanks} (h : c.Spans b.chars d) (hd : Stops isBlank d.rest)
    (h' : c.Spans b'.chars d') (hd' : Stops isBlank d'.rest) : b = b' ∧ d = d' := by
  obtain ⟨hb, rfl⟩ := h.run_unique b.blank hd h' b'.blank hd'
  obtain ⟨cs, hcs⟩ := b
  obtain ⟨cs', hcs'⟩ := b'
  obtain rfl : cs = cs' := hb
  exact ⟨rfl, rfl⟩

/-- Two texts at one place that begin with blanks, as many as there are. -/
theorem Blanks.same_front {b b' : Blanks} (h : c.Spans (b.chars ++ xs) d)
    (hs : Stops isBlank (xs ++ d.rest)) (h' : c.Spans (b'.chars ++ xs') d')
    (hs' : Stops isBlank (xs' ++ d'.rest)) :
    b = b' ∧ ∃ e, c.Spans b.chars e ∧ e.Spans xs d ∧ e.Spans xs' d' := by
  obtain ⟨e, h₁, h₂⟩ := spans_append_iff.1 h
  obtain ⟨e', h₁', h₂'⟩ := spans_append_iff.1 h'
  obtain ⟨rfl, rfl⟩ := Blanks.unique h₁ (h₂.rest ▸ hs) h₁' (h₂'.rest ▸ hs')
  exact ⟨rfl, e, h₁, h₂, h₂'⟩

theorem Name.eq_of_ofList {n n' : Name} (h : String.ofList n.chars = String.ofList n'.chars) :
    n = n' := by
  obtain ⟨cs, hcs⟩ := n
  obtain ⟨cs', hcs'⟩ := n'
  obtain rfl : cs = cs' := String.ofList_injective h
  rfl

/-- Two texts at one place that begin with references to the same property. -/
theorem Layout.Ref.same_front {r r' : Ref} (hr : r.reference = r'.reference)
    (h : c.Spans (r.chars ++ xs) d) (h' : c.Spans (r'.chars ++ xs') d') :
    r = r' ∧ ∃ e, c.Spans r.chars e ∧ e.Spans xs d ∧ e.Spans xs' d' := by
  obtain ⟨b₁, s, b₂, b₃, n⟩ := r
  obtain ⟨b₁', s', b₂', b₃', n'⟩ := r'
  obtain ⟨rfl, hn⟩ : s = s' ∧ String.ofList n.chars = String.ofList n'.chars := by
    simpa [Ref.reference] using hr
  obtain rfl := Name.eq_of_ofList hn
  let space : Name := ⟨s.name.toList, s.isName⟩
  obtain ⟨e, he, hd⟩ := spans_append_iff.1 h
  obtain ⟨e', he', hd'⟩ := spans_append_iff.1 h'
  obtain ⟨rfl, c₁, -, g, g'⟩ :=
    Blanks.same_front he (by rw [List.append_assoc]; exact space.stops_append _) he'
      (by rw [List.append_assoc]; exact space.stops_append _)
  obtain ⟨c₂, -, g, g'⟩ := g.same_front g'
  obtain ⟨rfl, c₃, -, g, g'⟩ :=
    Blanks.same_front g (Stops.cons_iff.2 rfl) g' (Stops.cons_iff.2 rfl)
  obtain ⟨c₄, -, g, g'⟩ := Spans.same_front (t := ['.']) g g'
  obtain ⟨rfl, c₅, -, g, g'⟩ := Blanks.same_front g (n.stops_append _) g' (n.stops_append _)
  obtain rfl := g.eq_right g'
  exact ⟨rfl, e, he, hd, hd'⟩

/-- Two texts at one place that begin with conditions of one reading, up to a bracket. -/
theorem Layout.Cond.same_front {k k' : Cond} (hk : k.condition = k'.condition)
    (h : c.Spans (k.chars ++ '[' :: xs) d) (h' : c.Spans (k'.chars ++ '[' :: xs') d') :
    k = k' ∧ ∃ e, c.Spans k.chars e ∧ e.Spans ('[' :: xs) d ∧ e.Spans ('[' :: xs') d' := by
  obtain ⟨e, he, hd⟩ := spans_append_iff.1 h
  obtain ⟨e', he', hd'⟩ := spans_append_iff.1 h'
  cases k with
  | compare op raw longest operand =>
    cases k' with
    | compare op' raw' longest' operand' =>
      obtain ⟨rfl, -⟩ : op = op' ∧ _ := by simpa [Cond.condition] using hk
      obtain ⟨c₁, -, g, g'⟩ := Spans.same_front he he'
      obtain ⟨rfl, rfl⟩ := g.run_unique (fun x hx => endsOperand_eq_false.2 (operand x hx))
        (hd.stops rfl) g' (fun x hx => endsOperand_eq_false.2 (operand' x hx)) (hd'.stops rfl)
      exact ⟨rfl, e, he, hd, hd'⟩
    | regex => simp [Cond.condition] at hk
  | regex pattern b first =>
    cases k' with
    | compare => simp [Cond.condition] at hk
    | regex pattern' b' first' =>
      obtain rfl : pattern = pattern' := by
        simpa [Cond.condition, String.ofList_inj] using hk
      obtain ⟨c₁, -, g, g'⟩ := Spans.same_front (t := ['/']) he he'
      obtain ⟨c₂, -, g, g'⟩ := g.same_front g'
      obtain ⟨c₃, -, g, g'⟩ := Spans.same_front (t := ['/']) g g'
      obtain ⟨rfl, rfl⟩ := Blanks.unique g (hd.stops rfl) g' (hd'.stops rfl)
      exact ⟨rfl, e, he, hd, hd'⟩

/-! ### Placeholders -/

theorem value_unique {r r' : Ref} {b b' : Blanks} (hr : r.reference = r'.reference)
    (h : c.Spans (valueChars r b) d) (h' : c.Spans (valueChars r' b') d') :
    r = r' ∧ b = b' ∧ d = d' := by
  obtain ⟨c₁, -, g, g'⟩ := Spans.same_front (t := ['\x7b']) h h'
  obtain ⟨rfl, c₂, -, g, g'⟩ := Ref.same_front hr g g'
  obtain ⟨rfl, c₃, -, g, g'⟩ :=
    Blanks.same_front g (Stops.cons_iff.2 rfl) g' (Stops.cons_iff.2 rfl)
  exact ⟨rfl, rfl, g.eq_right g'⟩

theorem formatted_unique {r r' : Ref} {b₁ b₂ b₃ b₁' b₂' b₃' : Blanks} {n n' : Name}
    (hr : r.reference = r'.reference) (hn : String.ofList n.chars = String.ofList n'.chars)
    (h : c.Spans (formattedChars r b₁ b₂ n b₃) d)
    (h' : c.Spans (formattedChars r' b₁' b₂' n' b₃') d') :
    (r = r' ∧ b₁ = b₁' ∧ b₂ = b₂' ∧ n = n' ∧ b₃ = b₃') ∧ d = d' := by
  obtain rfl := Name.eq_of_ofList hn
  obtain ⟨c₁, -, g, g'⟩ := Spans.same_front (t := ['\x7b']) h h'
  obtain ⟨rfl, c₂, -, g, g'⟩ := Ref.same_front hr g g'
  obtain ⟨rfl, c₃, -, g, g'⟩ :=
    Blanks.same_front g (Stops.cons_iff.2 rfl) g' (Stops.cons_iff.2 rfl)
  obtain ⟨c₄, -, g, g'⟩ := Spans.same_front (t := [':', ':']) g g'
  obtain ⟨rfl, c₅, -, g, g'⟩ :=
    Blanks.same_front g (by rw [List.append_assoc]; exact n.stops_append _) g'
      (by rw [List.append_assoc]; exact n.stops_append _)
  obtain ⟨c₆, -, g, g'⟩ := g.same_front g'
  obtain ⟨rfl, c₇, -, g, g'⟩ :=
    Blanks.same_front g (Stops.cons_iff.2 rfl) g' (Stops.cons_iff.2 rfl)
  exact ⟨⟨rfl, rfl, rfl, rfl, rfl⟩, g.eq_right g'⟩

namespace Layout.Frame
variable {f f' : Frame}

theorem opening_unique (hr : f.ref.reference = f'.ref.reference)
    (hk : f.condition.condition = f'.condition.condition) (h : c.Spans f.opening d)
    (hd : Stops isBlank d.rest) (h' : c.Spans f'.opening d') (hd' : Stops isBlank d'.rest) :
    (f.ref = f'.ref ∧ f.beforeColons = f'.beforeColons ∧ f.beforeCondition = f'.beforeCondition ∧
      f.condition = f'.condition ∧ f.beforeYes = f'.beforeYes) ∧ d = d' := by
  obtain ⟨c₁, -, g, g'⟩ := Spans.same_front (t := ['\x7b']) h h'
  obtain ⟨href, c₂, -, g, g'⟩ := Ref.same_front hr g g'
  obtain ⟨hb₁, c₃, -, g, g'⟩ :=
    Blanks.same_front g (Stops.cons_iff.2 rfl) g' (Stops.cons_iff.2 rfl)
  obtain ⟨c₄, -, g, g'⟩ := Spans.same_front (t := [':', ':']) g g'
  obtain ⟨hb₂, c₅, -, g, g'⟩ :=
    Blanks.same_front g (by rw [List.append_assoc]; exact f.condition.stops_append _) g'
      (by rw [List.append_assoc]; exact f'.condition.stops_append _)
  obtain ⟨hcond, c₆, -, g, g'⟩ := Cond.same_front hk g g'
  obtain ⟨c₇, -, g, g'⟩ := Spans.same_front (t := ['[']) g g'
  obtain ⟨hb₃, rfl⟩ := Blanks.unique g hd g' hd'
  exact ⟨⟨href, hb₁, hb₂, hcond, hb₃⟩, rfl⟩

theorem middle_unique (h : c.Spans f.middle d) (hd : Stops isBlank d.rest)
    (h' : c.Spans f'.middle d') (hd' : Stops isBlank d'.rest) :
    (f.afterYes = f'.afterYes ∧ f.beforeNo = f'.beforeNo) ∧ d = d' := by
  obtain ⟨hb₁, c₁, -, g, g'⟩ :=
    Blanks.same_front h (Stops.cons_iff.2 rfl) h' (Stops.cons_iff.2 rfl)
  obtain ⟨c₂, -, g, g'⟩ := Spans.same_front (t := ['|', '|']) g g'
  obtain ⟨hb₂, rfl⟩ := Blanks.unique g hd g' hd'
  exact ⟨⟨hb₁, hb₂⟩, rfl⟩

theorem closing_unique (h : c.Spans f.closing d) (h' : c.Spans f'.closing d') :
    (f.afterNo = f'.afterNo ∧ f.beforeBrace = f'.beforeBrace) ∧ d = d' := by
  obtain ⟨hb₁, c₁, -, g, g'⟩ :=
    Blanks.same_front h (Stops.cons_iff.2 rfl) h' (Stops.cons_iff.2 rfl)
  obtain ⟨c₂, -, g, g'⟩ := Spans.same_front (t := [']']) g g'
  obtain ⟨hb₂, c₃, -, g, g'⟩ :=
    Blanks.same_front g (Stops.cons_iff.2 rfl) g' (Stops.cons_iff.2 rfl)
  exact ⟨⟨hb₁, hb₂⟩, g.eq_right g'⟩

end Layout.Frame

/-! ### Literal text -/

namespace TextUnit
variable {inBranch : Bool} {us us' : List TextUnit}

/-- No unit of literal text can begin here. -/
def Ends (inBranch : Bool) (cs : List Char) : Prop :=
  ∀ x ∈ cs.head?, x = '\x7b' ∨ inBranch = true ∧ x = '"'

theorem Ok.not_ends {u : TextUnit} {next cs : List Char} (hu : u.Ok inBranch next) :
    ¬ Ends inBranch (u.chars ++ cs) := by
  intro h
  cases u with
  | plain x =>
    rcases h x (by simp [TextUnit.chars]) with rfl | ⟨hb, rfl⟩
    · exact hu.1 rfl
    · exact (hu.2 hb).1 rfl
  | escaped x =>
    have := h '\\' (by simp [TextUnit.chars])
    simp at this

theorem Ok.unique {u u' : TextUnit} (h : c.Spans u.chars d) (hu : u.Ok inBranch d.rest)
    (h' : c.Spans u'.chars d') (hu' : u'.Ok inBranch d'.rest) : u = u' := by
  cases u with
  | plain x =>
    cases u' with
    | plain x' =>
      obtain ⟨rfl, -⟩ := List.cons.inj (h.rest.symm.trans h'.rest)
      rfl
    | escaped x' =>
      obtain ⟨rfl, hd⟩ := List.cons.inj (h.rest.symm.trans h'.rest)
      replace hd : d.rest = x' :: d'.rest := hd
      have hstops := (hu.2 hu'.1).2 rfl
      rw [hd, Stops.cons_iff, hu'.2] at hstops
      simp at hstops
  | escaped x =>
    cases u' with
    | plain x' =>
      obtain ⟨rfl, hd'⟩ := List.cons.inj (h'.rest.symm.trans h.rest)
      replace hd' : d'.rest = x :: d.rest := hd'
      have hstops := (hu'.2 hu.1).2 rfl
      rw [hd', Stops.cons_iff, hu.2] at hstops
      simp at hstops
    | escaped x' =>
      obtain ⟨-, hd⟩ := List.cons.inj (h.rest.symm.trans h'.rest)
      obtain ⟨rfl, -⟩ := List.cons.inj hd
      rfl

theorem AllOk.unique (h : c.Spans (allChars us) d) (hus : AllOk inBranch d.rest us)
    (hd : Ends inBranch d.rest) (h' : c.Spans (allChars us') d') (hus' : AllOk inBranch d'.rest us')
    (hd' : Ends inBranch d'.rest) : us = us' ∧ d = d' := by
  induction us generalizing c us' with
  | nil =>
    obtain rfl := spans_nil_iff.1 h
    cases us' with
    | nil => exact ⟨rfl, (spans_nil_iff.1 h').symm⟩
    | cons u' us' =>
      rw [h'.rest, allChars_cons, List.append_assoc] at hd
      exact (hus'.1.not_ends hd).elim
  | cons u us ih =>
    cases us' with
    | nil =>
      obtain rfl := spans_nil_iff.1 h'
      rw [h.rest, allChars_cons, List.append_assoc] at hd'
      exact (hus.1.not_ends hd').elim
    | cons u' us' =>
      obtain ⟨c₁, h₁, h₂⟩ := spans_append_iff.1 h
      obtain ⟨c₁', h₁', h₂'⟩ := spans_append_iff.1 h'
      obtain rfl : u = u' :=
        Ok.unique h₁ (by rw [h₂.rest]; exact hus.1) h₁' (by rw [h₂'.rest]; exact hus'.1)
      obtain rfl := h₁.eq_right h₁'
      obtain ⟨rfl, rfl⟩ := ih h₂ hus.2 h₂' hus'.2
      exact ⟨rfl, rfl⟩

end TextUnit

/-! ### Layouts -/

namespace Layout
variable {quote : Option Nat} {l l' : Layout}

theorem ends_of_spans (hl : ¬ l.IsText) (h : c.Spans l.chars d) (hd : AtEnd quote d) :
    TextUnit.Ends quote.isSome c.rest := by
  cases l with
  | done =>
    rw [← spans_nil_iff.1 h]
    intro x hx
    cases quote with
    | none =>
      have hnil : d.rest = [] := hd
      simp [hnil] at hx
    | some q =>
      obtain ⟨e, he⟩ := startsWith_iff.1 hd
      rw [he.rest] at hx
      simp at hx
      exact .inr ⟨rfl, hx.symm⟩
  | text => exact (hl trivial).elim
  | value | formatted | choice =>
    intro x hx
    rw [h.rest] at hx
    simp [chars, valueChars, formattedChars, Frame.opening] at hx
    exact .inl hx.symm

end Layout

/-- Two layouts that the reader takes from one place have one tree. -/
theorem Layout.nodes_unique {quote : Option Nat} {l l' : Layout}
    (hok : l.Ok quote.isSome) (h : c.Spans l.chars d) (hd : AtEnd quote d)
    (hok' : l'.Ok quote.isSome) (h' : c.Spans l'.chars d') (hd' : AtEnd quote d') :
    l.nodes = l'.nodes := by
  let n := max l.depth l'.depth
  have hph : ReadsSlots (placeholder (branch n n)) n := ReadsBranches.readsSlots (readsBranches n n)
  have hread : readFrom (placeholder (branch n n)) quote c [] = .ok (l.nodesAt c.pos, d) :=
    readFrom_eq hph hok (Nat.le_max_left ..) (by simp) h hd
  have hread' : readFrom (placeholder (branch n n)) quote c [] = .ok (l'.nodesAt c.pos, d') :=
    readFrom_eq hph hok' (Nat.le_max_right ..) (by simp) h' hd'
  obtain ⟨hnodes, -⟩ := Prod.mk.inj (Except.ok.inj (hread.symm.trans hread'))
  simpa using congrArg Node.bareAll hnodes

/-- Quoted texts at one place hold one branch, if the texts in the quotes do. -/
theorem branch_unique {l l' : Layout} {d d' : Cursor}
    (hl : ∀ {c d d' : Cursor}, c.Spans l.chars d → AtEnd (some 0) d → c.Spans l'.chars d' →
      AtEnd (some 0) d' → l = l')
    (h : c.Spans (inQuotes l.chars) d) (h' : c.Spans (inQuotes l'.chars) d') : l = l' := by
  obtain ⟨c₁, h₁, h₂⟩ := spans_cons_iff.1 h
  obtain ⟨c₁', h₁', h₂'⟩ := spans_cons_iff.1 h'
  obtain rfl := h₁.eq_right h₁'
  obtain ⟨c₂, h₃, h₄⟩ := spans_append_iff.1 h₂
  obtain ⟨c₂', h₃', h₄'⟩ := spans_append_iff.1 h₂'
  exact hl h₃ (startsWith_iff.2 ⟨d, h₄⟩) h₃' (startsWith_iff.2 ⟨d', h₄'⟩)

/-- Two layouts at one place are the same, if both end where nothing is left, or both at the quote
that closes a branch. -/
theorem Layout.unique {quote : Option Nat} {l l' : Layout}
    (hok : l.Ok quote.isSome) (h : c.Spans l.chars d) (hd : AtEnd quote d)
    (hok' : l'.Ok quote.isSome) (h' : c.Spans l'.chars d') (hd' : AtEnd quote d') : l = l' := by
  have hnodes := nodes_unique hok h hd hok' h' hd'
  -- layouts with one tree have the same parts in the same order
  induction l generalizing c d d' quote l' with
  | done =>
    cases l' with
    | done => rfl
    | _ => simp [nodes] at hnodes
  | text us rest ih =>
    cases l' with
    | text us' rest' =>
      obtain ⟨-, hus, htext, hrest⟩ := hok
      obtain ⟨-, hus', htext', hrest'⟩ := hok'
      obtain ⟨c₁, h₁, h₂⟩ := spans_append_iff.1 h
      obtain ⟨c₁', h₁', h₂'⟩ := spans_append_iff.1 h'
      obtain ⟨rfl, rfl⟩ := TextUnit.AllOk.unique h₁
        (hus.congr fun hq => by rw [h₂.rest, hd.head?_append _ hq]) (ends_of_spans htext h₂ hd) h₁'
        (hus'.congr fun hq => by rw [h₂'.rest, hd'.head?_append _ hq])
        (ends_of_spans htext' h₂' hd')
      rw [ih hrest h₂ hd hrest' h₂' hd' (by simpa [nodes] using hnodes)]
    | _ => simp [nodes] at hnodes
  | value r b rest ih =>
    cases l' with
    | value r' b' rest' =>
      obtain ⟨hr, hrest⟩ : r.reference = r'.reference ∧ rest.nodes = rest'.nodes := by
        simpa [nodes] using hnodes
      obtain ⟨c₁, h₁, h₂⟩ := spans_append_iff.1 h
      obtain ⟨c₁', h₁', h₂'⟩ := spans_append_iff.1 h'
      have hok₂ : rest'.Ok quote.isSome := hok'
      obtain ⟨rfl, rfl, rfl⟩ := value_unique hr h₁ h₁'
      rw [ih hok h₂ hd hok₂ h₂' hd' hrest]
    | _ => simp [nodes] at hnodes
  | formatted r b₁ b₂ n b₃ rest ih =>
    cases l' with
    | formatted r' b₁' b₂' n' b₃' rest' =>
      obtain ⟨⟨hr, hn⟩, hrest⟩ : (r.reference = r'.reference ∧
          String.ofList n.chars = String.ofList n'.chars) ∧ rest.nodes = rest'.nodes := by
        simpa only [nodes, List.cons.injEq, Node.formatted.injEq, true_and] using hnodes
      obtain ⟨c₁, h₁, h₂⟩ := spans_append_iff.1 h
      obtain ⟨c₁', h₁', h₂'⟩ := spans_append_iff.1 h'
      have hok₂ : rest'.Ok quote.isSome := hok'
      obtain ⟨⟨rfl, rfl, rfl, rfl, rfl⟩, rfl⟩ := formatted_unique hr hn h₁ h₁'
      rw [ih hok h₂ hd hok₂ h₂' hd' hrest]
    | _ => simp [nodes] at hnodes
  | choice f yes no rest ihy ihn ih =>
    cases l' with
    | choice f' yes' no' rest' =>
      obtain ⟨⟨hr, hk, hyes, hno⟩, hrest⟩ : (f.ref.reference = f'.ref.reference ∧
          f.condition.condition = f'.condition.condition ∧ yes.nodes = yes'.nodes ∧
            no.nodes = no'.nodes) ∧ rest.nodes = rest'.nodes := by
        simpa only [nodes, List.cons.injEq, Node.choice.injEq, true_and] using hnodes
      obtain ⟨hokYes, hokNo, hokRest⟩ : yes.Ok (some 0).isSome ∧ no.Ok (some 0).isSome ∧
        rest.Ok quote.isSome := hok
      obtain ⟨hokYes', hokNo', hokRest'⟩ : yes'.Ok (some 0).isSome ∧ no'.Ok (some 0).isSome ∧
        rest'.Ok quote.isSome := hok'
      obtain ⟨c₁, h₁, h⟩ := spans_append_iff.1 h
      obtain ⟨c₁', h₁', h'⟩ := spans_append_iff.1 h'
      obtain ⟨c₂, h₂, h⟩ := spans_append_iff.1 h
      obtain ⟨c₂', h₂', h'⟩ := spans_append_iff.1 h'
      obtain ⟨c₃, h₃, h⟩ := spans_append_iff.1 h
      obtain ⟨c₃', h₃', h'⟩ := spans_append_iff.1 h'
      obtain ⟨c₄, h₄, h⟩ := spans_append_iff.1 h
      obtain ⟨c₄', h₄', h'⟩ := spans_append_iff.1 h'
      obtain ⟨c₅, h₅, h₆⟩ := spans_append_iff.1 h
      obtain ⟨c₅', h₅', h₆'⟩ := spans_append_iff.1 h'
      obtain ⟨⟨href, hb₁, hb₂, hcond, hb₃⟩, rfl⟩ :=
        Frame.opening_unique hr hk h₁ (h₂.stops rfl) h₁' (h₂'.stops rfl)
      obtain rfl := branch_unique (fun h hd h' hd' => ihy hokYes h hd hokYes' h' hd' hyes) h₂ h₂'
      obtain rfl := h₂.eq_right h₂'
      obtain ⟨⟨hb₄, hb₅⟩, rfl⟩ :=
        Frame.middle_unique h₃ (h₄.stops rfl) h₃' (h₄'.stops rfl)
      obtain rfl := branch_unique (fun h hd h' hd' => ihn hokNo h hd hokNo' h' hd' hno) h₄ h₄'
      obtain rfl := h₄.eq_right h₄'
      obtain ⟨⟨hb₆, hb₇⟩, rfl⟩ := Frame.closing_unique h₅ h₅'
      obtain rfl : f = f' := by
        cases f; cases f'
        simp_all
      rw [ih hokRest h₆ hd hokRest' h₆' hd' hrest]
    | _ => simp [nodes] at hnodes

/-- `parse` builds the trees of the layouts that derive the text, origins aside, and a text has one
layout at most, however deep its branches nest. -/
theorem parse_iff_derives_unambiguously (s : String) (limit : Nat) :
    (∀ t : Template, (∃ u, Template.parse s limit = .ok u ∧ u.same t = true) ↔
      ∃ l : Layout, l.Derives limit s ∧ Node.sameAll l.nodes t.nodes = true) ∧
    ∀ l l' : Layout, l.Ok false → l'.Ok false → l.chars = s.toList → l'.chars = s.toList →
      l = l' := by
  refine ⟨fun t => ⟨?_, ?_⟩, ?_⟩
  · rintro ⟨u, hu, hsame⟩
    obtain ⟨l, hl, rfl⟩ := parse_eq_ok_iff.1 hu
    refine ⟨l, hl, Node.sameAll_iff.2 ?_⟩
    rw [← Template.same_iff.1 hsame, bareAll_nodesAt, bareAll_nodes]
  · rintro ⟨l, hl, hsame⟩
    refine ⟨_, parse_eq_ok_iff.2 ⟨l, hl, rfl⟩, Template.same_iff.2 ?_⟩
    rw [← Node.sameAll_iff.1 hsame, bareAll_nodesAt, bareAll_nodes]
  · intro l l' hok hok' h h'
    have hnone : (none : Option Nat).isSome = false := rfl
    rw [← hnone] at hok hok'
    have hspans : ∀ {l : Layout}, l.chars = s.toList →
        Cursor.Spans ⟨0, s.toList⟩ l.chars ⟨l.chars.length, []⟩ := fun h => ⟨by simp [h], by simp⟩
    have hend : ∀ n, AtEnd none ⟨n, []⟩ := fun _ => rfl
    exact Layout.unique hok (hspans h) (hend _) hok' (hspans h') (hend _)

end StreamLabel
