import StreamLabel.Proofs.Template.Unambiguous
import StreamLabel.Template.Printer

/-!
# Canonical layouts

The trees that are read from texts are the regular ones with readable conditions (`regular_nodes`),
and the canonical text of such a tree is again the text of a layout (`exists_canonical`): all blanks
are gone, a literal is divided into the units that it is escaped to, and nothing moves but one kind
of boundary. An operand may begin with a sign of equality that blanks kept apart from the operator,
and `>` and `<` take it in once the blanks are dropped (`Condition.Fuses`). `Condition.reread` says
what is read then.
-/

namespace StreamLabel
open Unicode Reader Layout

/-! ### Conditions -/

/-- An operand that a bracket ends and that has no blanks at its ends, or a pattern that is closed
by the first slash that could close it. -/
def Condition.Readable : Condition → Prop
  | .compare _ operand =>
    '[' ∉ operand.toList ∧ '\x7d' ∉ operand.toList ∧ Stops isBlank operand.toList ∧
      Stops isBlank operand.toList.reverse
  | .regex pattern => FirstClose (pattern.toList ++ ['/', '[']) pattern.toList

/-- Written together, the operator and the operand begin with a longer operator. -/
def Condition.Fuses : Condition → Prop
  | .compare op operand => (op = .gt ∨ op = .lt) ∧ operand.toList.head? = some '='
  | .regex _ => False

def CompareOp.orEqual? : CompareOp → Option CompareOp
  | .gt => some .ge
  | .lt => some .le
  | .ge | .le | .eq => none

/-- What the canonical text of a readable condition is read as. -/
def Condition.reread : Condition → Condition
  | .compare op operand =>
    match op.orEqual?, operand.toList with
    | some op', '=' :: cs => .compare op' (String.ofList (strip cs))
    | _, _ => .compare op operand
  | .regex pattern => .regex pattern

theorem strip_eq_self {cs : List Char} (h : Stops isBlank cs) (h' : Stops isBlank cs.reverse) :
    strip cs = cs := by
  rw [strip, stripBy, stripRight, h.dropWhile_eq, h'.dropWhile_eq, List.reverse_reverse]

theorem strip_isPrefix (cs : List Char) : strip cs <+: cs.dropWhile isBlank := by
  rw [strip, stripBy, stripRight, ← List.reverse_suffix, List.reverse_reverse]
  exact List.dropWhile_suffix _

theorem stops_strip (cs : List Char) : Stops isBlank (strip cs) :=
  (Stops.dropWhile isBlank cs).of_isPrefix (strip_isPrefix cs)

theorem stops_reverse_strip (cs : List Char) : Stops isBlank (strip cs).reverse := by
  rw [strip, stripBy, stripRight, List.reverse_reverse]
  exact Stops.dropWhile isBlank _

theorem mem_of_mem_strip {c : Char} {cs : List Char} (h : c ∈ strip cs) : c ∈ cs :=
  (List.dropWhile_suffix isBlank).subset ((strip_isPrefix cs).subset h)

theorem Condition.reread_eq_self_iff {k : Condition} : k.reread = k ↔ ¬ k.Fuses := by
  cases k with
  | regex pattern => simp [reread, Fuses]
  | compare op operand =>
    cases hs : operand.toList with
    | nil => cases op <;> simp [reread, Fuses, CompareOp.orEqual?, hs]
    | cons c cs =>
      by_cases hc : c = '='
      · subst hc
        cases op <;> simp [reread, Fuses, CompareOp.orEqual?, hs]
      · cases op <;> simp [reread, Fuses, CompareOp.orEqual?, hs, hc]

theorem Layout.Cond.readable (k : Cond) : k.condition.Readable := by
  cases k with
  | compare op raw longest operand =>
    simp only [Cond.condition, Condition.Readable, String.toList_ofList]
    exact ⟨fun h => (operand _ (mem_of_mem_strip h)).1 rfl,
      fun h => (operand _ (mem_of_mem_strip h)).2 rfl, stops_strip raw, stops_reverse_strip raw⟩
  | regex pattern b first =>
    simp only [Cond.condition, Condition.Readable, String.toList_ofList]
    exact first.congr (bracketFollows_blanks b []) rfl

/-- The text of a readable condition is that of a layout, read as `Condition.reread` says. -/
theorem Condition.Readable.exists_cond {k : Condition} (h : k.Readable) :
    ∃ l : Cond, l.chars = k.text.toList ∧ l.condition = k.reread := by
  cases k with
  | regex pattern =>
    refine ⟨.regex pattern.toList Blanks.none h, ?_, by simp [Cond.condition, reread]⟩
    simp [Cond.chars, text, Blanks.none]
  | compare op operand =>
    obtain ⟨hbracket, hbrace, hfront, hback⟩ := h
    have hchars : ∀ c ∈ operand.toList, c ≠ '[' ∧ c ≠ '\x7d' := by
      intro c hc
      exact ⟨fun h => hbracket (h ▸ hc), fun h => hbrace (h ▸ hc)⟩
    by_cases hfuse : (Condition.compare op operand).Fuses
    · -- the sign of equality goes from the operand to the operator
      obtain ⟨hop, heq⟩ := hfuse
      obtain ⟨cs, hcs⟩ := List.head?_eq_some_iff.1 heq
      have hcs' : ∀ c ∈ cs, c ≠ '[' ∧ c ≠ '\x7d' := fun c hc => hchars c (by simp [hcs, hc])
      rcases hop with rfl | rfl
      · refine ⟨.compare .ge cs (longestOperator_iff.2 (by simp)) hcs', ?_, ?_⟩
        · simp [Cond.chars, text, CompareOp.symbol, hcs]
        · simp [Cond.condition, reread, CompareOp.orEqual?, hcs]
      · refine ⟨.compare .le cs (longestOperator_iff.2 (by simp)) hcs', ?_, ?_⟩
        · simp [Cond.chars, text, CompareOp.symbol, hcs]
        · simp [Cond.condition, reread, CompareOp.orEqual?, hcs]
    · have hlongest : LongestOperator op (op.symbol.toList ++ operand.toList) := by
        rw [longestOperator_iff]
        intro hop c hc
        rw [beq_eq_false_iff_ne]
        rintro rfl
        exact hfuse ⟨hop, hc⟩
      refine ⟨.compare op operand.toList hlongest hchars, by simp [Cond.chars, text], ?_⟩
      rw [reread_eq_self_iff.2 hfuse, Cond.condition, strip_eq_self hfront hback,
        String.ofList_toList]

/-! ### Trees -/

namespace Node

mutual

/-- Literals are not empty and hold no brace, names are names, and the conditions satisfy `K`, in
the branches too. -/
def Regular (K : Condition → Prop) : Node → Prop
  | .literal s => s ≠ "" ∧ '\x7b' ∉ s.toList
  | .value _ ref => IsName ref.property.toList
  | .formatted _ ref formatter => IsName ref.property.toList ∧ IsName formatter.toList
  | .choice _ ref condition yes no =>
    IsName ref.property.toList ∧ K condition ∧ RegularAll K yes ∧ RegularAll K no

/-- Regular nodes, without adjacent literals. -/
def RegularAll (K : Condition → Prop) : List Node → Prop
  | [] => True
  | n :: ns => Regular K n ∧ (n.IsLiteral → ¬ BeginsWithLiteral ns) ∧ RegularAll K ns

end

mutual

/-- No condition of the node fuses. -/
def Unfused : Node → Prop
  | .choice _ _ condition yes no => ¬ condition.Fuses ∧ UnfusedAll yes ∧ UnfusedAll no
  | _ => True

def UnfusedAll : List Node → Prop
  | [] => True
  | n :: ns => Unfused n ∧ UnfusedAll ns

end

mutual

/-- The node, without origins, with each condition as it is read again. -/
def reread : Node → Node
  | .literal s => .literal s
  | .value _ ref => .value {} ref
  | .formatted _ ref formatter => .formatted {} ref formatter
  | .choice _ ref condition yes no => .choice {} ref condition.reread (rereadAll yes) (rereadAll no)

def rereadAll : List Node → List Node
  | [] => []
  | n :: ns => reread n :: rereadAll ns

end

variable {K : Condition → Prop} {ns : List Node}

@[simp] theorem beginsWithLiteral_bareAll (ns : List Node) :
    BeginsWithLiteral (bareAll ns) ↔ BeginsWithLiteral ns := by
  cases ns with
  | nil => simp
  | cons n ns => cases n <;> simp [bare, BeginsWithLiteral, IsLiteral]

theorem regularAll_bareAll : RegularAll K (bareAll ns) ↔ RegularAll K ns := by
  induction ns using Node.induct with
  | nil => simp
  | literal s ns ih => simp [bare, RegularAll, Regular, IsLiteral, ih]
  | value o r ns ih => simp [bare, RegularAll, Regular, IsLiteral, ih]
  | formatted o r f ns ih => simp [bare, RegularAll, Regular, IsLiteral, ih]
  | choice o r k yes no ns ihy ihn ih =>
    simp [bare, RegularAll, Regular, IsLiteral, ih, ihy, ihn]

theorem regularAll_and_unfusedAll :
    RegularAll K ns ∧ UnfusedAll ns ↔ RegularAll (fun k => K k ∧ ¬ k.Fuses) ns := by
  induction ns using Node.induct with
  | nil => simp [RegularAll, UnfusedAll]
  | literal s ns ih => simp [RegularAll, Regular, UnfusedAll, Unfused, ← ih, and_assoc]
  | value o r ns ih => simp [RegularAll, Regular, UnfusedAll, Unfused, ← ih, and_assoc]
  | formatted o r f ns ih => simp [RegularAll, Regular, UnfusedAll, Unfused, ← ih, and_assoc]
  | choice o r k yes no ns ihy ihn ih =>
    simp only [RegularAll, Regular, UnfusedAll, Unfused, ← ih, ← ihy, ← ihn]
    constructor
    · rintro ⟨⟨⟨hr, hk, hy, hn⟩, ht, hs⟩, ⟨hf, hfy, hfn⟩, hfs⟩
      exact ⟨⟨hr, ⟨hk, hf⟩, ⟨hy, hfy⟩, hn, hfn⟩, ht, hs, hfs⟩
    · rintro ⟨⟨hr, ⟨hk, hf⟩, ⟨hy, hfy⟩, hn, hfn⟩, ht, hs, hfs⟩
      exact ⟨⟨⟨hr, hk, hy, hn⟩, ht, hs⟩, ⟨hf, hfy, hfn⟩, hfs⟩

theorem rereadAll_eq_bareAll_iff : rereadAll ns = bareAll ns ↔ UnfusedAll ns := by
  induction ns using Node.induct with
  | nil => simp [rereadAll, UnfusedAll]
  | literal s ns ih => simp [rereadAll, reread, bare, UnfusedAll, Unfused, ih]
  | value o r ns ih => simp [rereadAll, reread, bare, UnfusedAll, Unfused, ih]
  | formatted o r f ns ih => simp [rereadAll, reread, bare, UnfusedAll, Unfused, ih]
  | choice o r k yes no ns ihy ihn ih =>
    simp [rereadAll, reread, bare, UnfusedAll, Unfused, ih, ihy, ihn,
      Condition.reread_eq_self_iff]

theorem depthAll_rereadAll (ns : List Node) : depthAll (rereadAll ns) = depthAll ns := by
  induction ns using Node.induct with
  | nil => simp [rereadAll]
  | literal s ns ih => simp [rereadAll, reread, depthAll, depth, ih]
  | value o r ns ih => simp [rereadAll, reread, depthAll, depth, ih]
  | formatted o r f ns ih => simp [rereadAll, reread, depthAll, depth, ih]
  | choice o r k yes no ns ihy ihn ih =>
    simp [rereadAll, reread, depthAll, depth, ih, ihy, ihn]

end Node

/-! ### Trees of layouts -/

theorem TextUnit.AllOk.ne_brace {inBranch : Bool} {next : List Char} {us : List TextUnit}
    (h : AllOk inBranch next us) : '\x7b' ∉ allValues us := by
  induction us with
  | nil => simp [allValues]
  | cons u us ih =>
    have hu : u.value ≠ '\x7b' := by
      cases u with
      | plain c => exact h.1.1
      | escaped c =>
        rintro rfl
        exact absurd h.1.2 (by decide)
    simpa [Ne.symm hu] using ih h.2

theorem Layout.beginsWithLiteral_nodes {l : Layout} :
    Node.BeginsWithLiteral l.nodes ↔ l.IsText := by
  cases l <;> simp [nodes, Node.BeginsWithLiteral, Node.IsLiteral, IsText]

/-- What is read is regular, with readable conditions. -/
theorem Layout.Ok.regularAll_nodes {inBranch : Bool} {l : Layout} (h : l.Ok inBranch) :
    Node.RegularAll Condition.Readable l.nodes := by
  have hname : ∀ n : Name, IsName (String.ofList n.chars).toList := by
    intro n
    rw [String.toList_ofList]
    exact n.isName
  induction l generalizing inBranch with
  | done => trivial
  | text us rest ih =>
    obtain ⟨hne, hus, htext, hrest⟩ := h
    refine ⟨⟨?_, ?_⟩, fun _ => mt beginsWithLiteral_nodes.1 htext, ih hrest⟩
    · intro hempty
      have hnil : TextUnit.allValues us = [] := by simpa using congrArg String.toList hempty
      exact hne (List.map_eq_nil_iff.1 hnil)
    · rw [String.toList_ofList]
      exact hus.ne_brace
  | value r b rest ih => exact ⟨hname r.property, False.elim, ih h⟩
  | formatted r b₁ b₂ n b₃ rest ih => exact ⟨⟨hname r.property, hname n⟩, False.elim, ih h⟩
  | choice f yes no rest ihy ihn ih =>
    obtain ⟨hy, hn, hrest⟩ := h
    exact ⟨⟨hname f.ref.property, f.condition.readable, ihy hy, ihn hn⟩, False.elim, ih hrest⟩

/-! ### Layouts of canonical texts -/

def TextUnit.ofText (inBranch : Bool) (cs : List Char) : List TextUnit :=
  cs.map fun c => if inBranch && isEscapable c then .escaped c else .plain c

/-- The text of nodes at the top level or inside a branch. -/
def Node.bodyText (inBranch : Bool) (ns : List Node) : List Char :=
  if inBranch then (branchTextAll ns).toList else (textAll ns).toList

namespace TextUnit
variable {inBranch : Bool} {cs next : List Char}

theorem allValues_ofText : allValues (ofText inBranch cs) = cs := by
  induction cs with
  | nil => rfl
  | cons c cs ih =>
    have hc : ∀ b : Bool, value (if b then .escaped c else .plain c) = c := by
      intro b; cases b <;> rfl
    simp only [ofText, List.map_cons, allValues_cons, hc] at ih ⊢
    rw [ih]

theorem allChars_ofText_false : allChars (ofText false cs) = cs := by
  induction cs with
  | nil => rfl
  | cons c cs ih => simpa [ofText, chars] using ih

theorem allChars_ofText_true : allChars (ofText true cs) = escapeBranchText cs := by
  induction cs with
  | nil => rfl
  | cons c cs ih =>
    by_cases hc : c = '"' ∨ c = '\\'
    · have hesc : isEscapable c = true := by simpa [isEscapable] using hc
      simpa [ofText, escapeBranchText, hc, hesc, chars] using ih
    · have hesc : isEscapable c = false := by simpa [isEscapable] using hc
      simpa [ofText, escapeBranchText, hc, hesc, chars] using ih

theorem allOk_ofText (h : '\x7b' ∉ cs) : AllOk inBranch next (ofText inBranch cs) := by
  induction cs with
  | nil => trivial
  | cons c cs ih =>
    rw [List.mem_cons, not_or] at h
    refine ⟨?_, ih h.2⟩
    by_cases hc : (inBranch && isEscapable c) = true
    · simp only [hc, ↓reduceIte]
      exact Bool.and_eq_true_iff.1 hc
    · simp only [hc, Bool.false_eq_true, ↓reduceIte]
      refine ⟨Ne.symm h.1, fun hb => ?_⟩
      subst hb
      have hc' : c ≠ '"' ∧ c ≠ '\\' := by simpa [isEscapable] using hc
      exact ⟨hc'.1, fun h => absurd h hc'.2⟩

end TextUnit

namespace Node
variable {inBranch : Bool} {ns : List Node}

@[simp] theorem bodyText_nil : bodyText inBranch [] = [] := by
  cases inBranch <;> simp [bodyText, branchTextAll, textAll]

theorem bodyText_literal (s : String) : bodyText inBranch (.literal s :: ns) =
    TextUnit.allChars (TextUnit.ofText inBranch s.toList) ++ bodyText inBranch ns := by
  cases inBranch with
  | false => simp [bodyText, textAll, Node.text, TextUnit.allChars_ofText_false]
  | true => simp [bodyText, branchTextAll, TextUnit.allChars_ofText_true]

theorem bodyText_cons {n : Node} (hn : ¬ n.IsLiteral) :
    bodyText inBranch (n :: ns) = (text n).toList ++ bodyText inBranch ns := by
  cases inBranch with
  | false => simp [bodyText, textAll]
  | true =>
    cases n with
    | literal s => exact (hn trivial).elim
    | _ => simp [bodyText, branchTextAll]

end Node

namespace Layout

def Ref.tight (ref : Reference) (h : IsName ref.property.toList) : Ref :=
  ⟨.none, ref.space, .none, .none, ⟨_, h⟩⟩

theorem Ref.tight_chars {ref : Reference} (h : IsName ref.property.toList) :
    (tight ref h).chars = ref.text.toList := by
  simp [tight, Ref.chars, Reference.text, Blanks.none]

@[simp] theorem Ref.tight_reference {ref : Reference} (h : IsName ref.property.toList) :
    (tight ref h).reference = ref := by
  simp [tight, Ref.reference]

def Frame.tight (ref : Reference) (h : IsName ref.property.toList) (k : Cond) : Frame :=
  ⟨.tight ref h, .none, .none, k, .none, .none, .none, .none, .none⟩

end Layout

/-- The canonical text of a regular tree with readable conditions is the text of a layout. -/
theorem exists_canonical (inBranch : Bool) {ns : List Node}
    (h : Node.RegularAll Condition.Readable ns) :
    ∃ l : Layout, l.Ok inBranch ∧ l.chars = Node.bodyText inBranch ns ∧
      l.nodes = Node.rereadAll ns ∧ (l.IsText → Node.BeginsWithLiteral ns) := by
  induction ns using Node.induct generalizing inBranch with
  | nil => exact ⟨.done, trivial, by simp [Layout.chars], by simp [nodes, Node.rereadAll], False.elim⟩
  | literal s ns ih =>
    obtain ⟨⟨hne, hbrace⟩, hnext, hns⟩ := h
    obtain ⟨l, hl, hchars, hnodes, htext⟩ := ih inBranch hns
    refine ⟨.text (TextUnit.ofText inBranch s.toList) l, ⟨?_, TextUnit.allOk_ofText hbrace,
      fun ht => hnext trivial (htext ht), hl⟩, ?_, ?_, fun _ => trivial⟩
    · simpa [TextUnit.ofText] using hne
    · rw [Node.bodyText_literal, ← hchars, Layout.chars]
    · simp [nodes, Node.rereadAll, Node.reread, TextUnit.allValues_ofText, hnodes]
  | value o ref ns ih =>
    obtain ⟨hname, -, hns⟩ := h
    replace hname : IsName ref.property.toList := hname
    obtain ⟨l, hl, hchars, hnodes, -⟩ := ih inBranch hns
    refine ⟨.value (.tight ref hname) .none l, hl, ?_, ?_, False.elim⟩
    · rw [Node.bodyText_cons id, ← hchars, Layout.chars, valueChars, Ref.tight_chars]
      simp [Node.text, inBraces, openBrace, closeBrace, Blanks.none]
    · simp [nodes, Node.rereadAll, Node.reread, hnodes]
  | formatted o ref f ns ih =>
    obtain ⟨⟨hname, hformatter⟩, -, hns⟩ := h
    obtain ⟨l, hl, hchars, hnodes, -⟩ := ih inBranch hns
    refine ⟨.formatted (.tight ref hname) .none .none ⟨_, hformatter⟩ .none l, hl, ?_, ?_,
      False.elim⟩
    · rw [Node.bodyText_cons id, ← hchars, Layout.chars, formattedChars, Ref.tight_chars]
      simp [Node.text, inBraces, openBrace, closeBrace, Blanks.none]
    · simp [nodes, Node.rereadAll, Node.reread, hnodes]
  | choice o ref k yes no ns ihy ihn ih =>
    obtain ⟨⟨hname, hk, hy, hn⟩, -, hns⟩ := h
    obtain ⟨c, hc, hcond⟩ := hk.exists_cond
    obtain ⟨ly, hly, hycs, hyns, -⟩ := ihy true hy
    obtain ⟨ln, hln, hncs, hnns, -⟩ := ihn true hn
    obtain ⟨l, hl, hchars, hnodes, -⟩ := ih inBranch hns
    refine ⟨.choice (.tight ref hname c) ly ln l, ⟨hly, hln, hl⟩, ?_, ?_, False.elim⟩
    · rw [Node.bodyText_cons id, ← hchars, Layout.chars, hycs, hncs]
      simp [Frame.tight, Frame.opening, Frame.middle, Frame.closing, inQuotes, Ref.tight_chars, hc,
        Node.bodyText, Node.text, inBraces, openBrace, closeBrace, Blanks.none]
    · simp [nodes, Node.rereadAll, Node.reread, hnodes, hyns, hnns, hcond, Frame.tight]

end StreamLabel
