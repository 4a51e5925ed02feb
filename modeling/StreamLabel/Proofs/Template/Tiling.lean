import StreamLabel.Proofs.Template.Canonical
import Mathlib

/-!
# Trees tile their texts

The nodes that are read from a text stand in it one after the other and leave nothing out (`Tiles`):
a literal is the text it was read from, inside a branch with the escapes undone, a placeholder goes
from its brace at its position to the brace that closes it, and its branches tile what their quotes
hold. So a later placeholder of a tree, in the order in which `Template.placeholders` lists them,
begins at a later place of the text.
-/

namespace StreamLabel
open Unicode Layout

/-! ### Texts and nodes -/

/-- The text of a branch with its escapes undone, if no quote stands bare in it. -/
def unescape? : List Char → Option (List Char)
  | [] => some []
  | '\\' :: c :: cs =>
    if Reader.isEscapable c then (unescape? cs).map (c :: ·)
    else (unescape? (c :: cs)).map ('\\' :: ·)
  | c :: cs => if c = '"' then none else (unescape? cs).map (c :: ·)

/-- The literal that a text stands for. -/
def literalText? (inBranch : Bool) (cs : List Char) : Option (List Char) :=
  if inBranch then unescape? cs else some cs

/-- From the brace of a placeholder to the first quote of its branches. -/
def IsFront (cs : List Char) : Prop :=
  ∃ (head : List Char) (b : Blanks), cs = '\x7b' :: (head ++ '[' :: b.chars)

/-- Between two branches. -/
def IsMiddle (cs : List Char) : Prop :=
  ∃ b b' : Blanks, cs = b.chars ++ '|' :: '|' :: b'.chars

/-- Behind two branches to the brace that closes their placeholder. -/
def IsBack (cs : List Char) : Prop :=
  ∃ b b' : Blanks, cs = b.chars ++ ']' :: (b'.chars ++ ['\x7d'])

/-- The nodes cover the text, which begins at `pos`, without a gap. -/
inductive Tiles : (inBranch : Bool) → (pos : Nat) → (cs : List Char) → (ns : List Node) → Prop
  | nil {inBranch : Bool} {pos : Nat} : Tiles inBranch pos [] []
  | literal {inBranch : Bool} {pos : Nat} {xs text rest : List Char} {ns : List Node}
      (htext : literalText? inBranch xs = some text) (hne : text ≠ []) (hbrace : '\x7b' ∉ text)
      (hns : ¬ Node.BeginsWithLiteral ns) (h : Tiles inBranch (pos + xs.length) rest ns) :
      Tiles inBranch pos (xs ++ rest) (.literal (String.ofList text) :: ns)
  | value {inBranch : Bool} {pos : Nat} {xs rest : List Char} {ref : Reference} {ns : List Node}
      (hxs : '\x7d' ∉ xs) (h : Tiles inBranch (pos + (xs.length + 2)) rest ns) :
      Tiles inBranch pos ('\x7b' :: (xs ++ '\x7d' :: rest)) (.value ⟨pos, "", ""⟩ ref :: ns)
  | formatted {inBranch : Bool} {pos : Nat} {xs rest : List Char} {ref : Reference} {name : String}
      {ns : List Node} (hxs : '\x7d' ∉ xs) (h : Tiles inBranch (pos + (xs.length + 2)) rest ns) :
      Tiles inBranch pos ('\x7b' :: (xs ++ '\x7d' :: rest))
        (.formatted ⟨pos, "", ""⟩ ref name :: ns)
  | choice {inBranch : Bool} {pos yesPos noPos restPos : Nat}
      {front yes middle no back rest : List Char} {ref : Reference} {condition : Condition}
      {ns ys ms : List Node} (hfront : IsFront front) (hmiddle : IsMiddle middle) (hback : IsBack back)
      (hyesPos : yesPos = pos + front.length + 1)
      (hnoPos : noPos = yesPos + yes.length + 1 + middle.length + 1)
      (hrestPos : restPos = noPos + no.length + 1 + back.length) (hyes : Tiles true yesPos yes ys)
      (hno : Tiles true noPos no ns) (h : Tiles inBranch restPos rest ms) :
      Tiles inBranch pos (front ++ (inQuotes yes ++ (middle ++ (inQuotes no ++ (back ++ rest)))))
        (.choice ⟨pos, String.ofList yes, String.ofList no⟩ ref condition ys ns :: ms)

/-! ### Layouts -/

namespace TextUnit
variable {us : List TextUnit} {next : List Char}

theorem unescape?_allChars (h : AllOk true next us) :
    unescape? (allChars us) = some (allValues us) := by
  induction us with
  | nil => rfl
  | cons u us ih =>
    obtain ⟨hu, hus⟩ := h
    have ih := ih hus
    cases u with
    | escaped c =>
      have hc : Reader.isEscapable c = true := hu.2
      simp [chars, value, unescape?, hc, ih]
    | plain c =>
      obtain ⟨hquote, hslash⟩ := hu.2 rfl
      simp only [allChars_cons, chars, allValues_cons, value, List.singleton_append]
      by_cases hc : c = '\\'
      · subst hc
        -- what follows a plain backslash is not escaped by it
        have hstops := (hslash rfl).of_isPrefix (List.prefix_append (allChars us) next)
        cases hcs : allChars us with
        | nil =>
          rw [hcs] at ih
          simp [unescape?] at ih ⊢
          exact ih
        | cons y ys =>
          rw [hcs] at ih hstops
          rw [unescape?, if_neg (by simp [Stops.cons_iff.1 hstops]), ih]
          rfl
      · rw [unescape?, if_neg hquote, ih]
        · rfl
        · exact fun _ _ h _ => hc h

theorem literalText?_allChars {inBranch : Bool} (h : AllOk inBranch next us) :
    literalText? inBranch (allChars us) = some (allValues us) := by
  cases inBranch with
  | true => exact unescape?_allChars h
  | false =>
    have hplain : allChars us = allValues us := by
      induction us with
      | nil => rfl
      | cons u us ih =>
        cases u with
        | plain c => simp [chars, value, ih h.2]
        | escaped c => exact absurd h.1.1 (by simp)
    simp [literalText?, hplain]

end TextUnit

theorem Blanks.not_mem (b : Blanks) {x : Char} (hx : isBlank x = false) : x ∉ b.chars :=
  fun h => by simp [b.blank x h] at hx

theorem Name.not_mem (n : Name) {x : Char} (hx : Unicode.isAsciiNamePart x = false) : x ∉ n.chars :=
  fun h => by simp [n.isAsciiNamePart x h] at hx

theorem Layout.Ref.brace_not_mem (r : Ref) : '\x7d' ∉ r.chars := by
  have hspace : '\x7d' ∉ r.space.name.toList := by cases r.space <;> decide
  simp [Ref.chars, hspace, Blanks.not_mem, Name.not_mem, show isBlank '\x7d' = false from rfl,
    show isAsciiNamePart '\x7d' = false from rfl]

/-- By induction on the layout, the nodes of a layout tile its text. -/
theorem Layout.Ok.tiles {inBranch : Bool} {l : Layout} (h : l.Ok inBranch) (pos : Nat) :
    Tiles inBranch pos l.chars (l.nodesAt pos) := by
  have hblank : isBlank '\x7d' = false := rfl
  have hname : isAsciiNamePart '\x7d' = false := rfl
  induction l generalizing inBranch pos with
  | done => exact .nil
  | text us rest ih =>
    obtain ⟨hne, hus, htext, hrest⟩ := h
    have hvalues : TextUnit.allValues us ≠ [] := by simpa [TextUnit.allValues] using hne
    have hns : ¬ Node.BeginsWithLiteral (rest.nodesAt (pos + (TextUnit.allChars us).length)) := by
      rwa [← Node.beginsWithLiteral_bareAll, bareAll_nodesAt, Layout.beginsWithLiteral_nodes]
    exact .literal (TextUnit.literalText?_allChars hus) hvalues hus.ne_brace hns (ih hrest _)
  | value r b rest ih =>
    have hxs : '\x7d' ∉ r.chars ++ b.chars := by
      simp [r.brace_not_mem, b.not_mem hblank]
    have hlen : (valueChars r b).length = (r.chars ++ b.chars).length + 2 := by
      simp [valueChars, Nat.add_assoc]
    have hchars : (Layout.value r b rest).chars =
        '\x7b' :: ((r.chars ++ b.chars) ++ '\x7d' :: rest.chars) := by
      simp [Layout.chars, valueChars]
    rw [hchars, nodesAt, hlen]
    exact .value hxs (ih h _)
  | formatted r b₁ b₂ name b₃ rest ih =>
    let xs := r.chars ++ (b₁.chars ++ ':' :: ':' :: (b₂.chars ++ (name.chars ++ b₃.chars)))
    have hxs : '\x7d' ∉ xs := by
      simp [xs, r.brace_not_mem, Blanks.not_mem, hblank, name.not_mem hname]
    have hlen : (formattedChars r b₁ b₂ name b₃).length = xs.length + 2 := by
      simp [formattedChars, xs]; omega
    have hchars : (Layout.formatted r b₁ b₂ name b₃ rest).chars =
        '\x7b' :: (xs ++ '\x7d' :: rest.chars) := by
      simp [Layout.chars, formattedChars, xs]
    rw [hchars, nodesAt, hlen]
    exact .formatted hxs (ih h _)
  | choice f yes no rest ihy ihn ih =>
    obtain ⟨hyes, hno, hrest⟩ := h
    have hfront : IsFront f.opening :=
      ⟨f.ref.chars ++ (f.beforeColons.chars ++ ':' :: ':' :: (f.beforeCondition.chars ++
        f.condition.chars)), f.beforeYes, by simp [Frame.opening]⟩
    refine .choice hfront ⟨f.afterYes, f.beforeNo, rfl⟩ ⟨f.afterNo, f.beforeBrace, rfl⟩ rfl ?_ ?_
      (ihy hyes _) (ihn hno _) (ih hrest _)
    · simp [inQuotes]; omega
    · simp [inQuotes]; omega

/-! ### Positions -/

namespace Node

def origin : Node → Origin
  | .literal _ => {}
  | .value origin _ | .formatted origin _ _ | .choice origin _ _ _ _ => origin

/-- The text, which begins at `pos`, has a brace at the position of the node. -/
def StandsIn (pos : Nat) (cs : List Char) (node : Node) : Prop :=
  ∃ before after : List Char,
    cs = before ++ '\x7b' :: after ∧ node.origin.position = pos + before.length

namespace StandsIn
variable {node : Node} {pos pos' : Nat} {cs : List Char}

theorem widen (h : node.StandsIn pos' cs) (xs ys : List Char) (hpos : pos' = pos + xs.length) :
    node.StandsIn pos (xs ++ (cs ++ ys)) := by
  obtain ⟨before, after, rfl, hnode⟩ := h
  refine ⟨xs ++ before, after ++ ys, by simp, ?_⟩
  rw [hnode, hpos, List.length_append, Nat.add_assoc]

theorem le (h : node.StandsIn pos cs) : pos ≤ node.origin.position := by
  obtain ⟨before, after, -, hnode⟩ := h
  omega

theorem lt (h : node.StandsIn pos cs) : node.origin.position < pos + cs.length := by
  obtain ⟨before, after, rfl, hnode⟩ := h
  rw [hnode, List.length_append, List.length_cons]
  omega

end StandsIn

end Node

variable {inBranch : Bool} {pos : Nat} {cs : List Char} {ns : List Node}

theorem Tiles.standsIn (h : Tiles inBranch pos cs ns) :
    ∀ node ∈ Node.placeholdersAll ns, node.StandsIn pos cs := by
  induction h with
  | nil => simp [Node.placeholdersAll]
  | @literal _ _ xs _ rest ns _ _ _ _ _ ih =>
    intro node hmem
    have hmem : node ∈ Node.placeholdersAll ns := hmem
    simpa using (ih node hmem).widen xs [] rfl
  | @value _ pos xs rest ref ns hxs _ ih =>
    intro node hmem
    simp only [Node.placeholdersAll, Node.placeholders, List.singleton_append, List.mem_cons] at hmem
    rcases hmem with rfl | hmem
    · exact ⟨[], _, rfl, rfl⟩
    · have : node.StandsIn pos _ :=
        (ih node hmem).widen ('\x7b' :: (xs ++ ['\x7d'])) [] (by simp [Nat.add_assoc])
      simpa using this
  | @formatted _ pos xs rest ref name ns hxs _ ih =>
    intro node hmem
    simp only [Node.placeholdersAll, Node.placeholders, List.singleton_append, List.mem_cons] at hmem
    rcases hmem with rfl | hmem
    · exact ⟨[], _, rfl, rfl⟩
    · have : node.StandsIn pos _ :=
        (ih node hmem).widen ('\x7b' :: (xs ++ ['\x7d'])) [] (by simp [Nat.add_assoc])
      simpa using this
  | @choice _ pos yesPos noPos restPos front yes middle no back rest _ _ ns ys ms hfront _ _ hyesPos
      hnoPos hrestPos _ _ _ ihy ihn ih =>
    intro node hmem
    simp only [Node.placeholdersAll, Node.placeholders, List.cons_append, List.mem_cons,
      List.mem_append] at hmem
    rcases hmem with rfl | (hmem | hmem) | hmem
    · obtain ⟨head, b, rfl⟩ := hfront
      exact ⟨[], _, rfl, rfl⟩
    · have : node.StandsIn pos _ := (ihy node hmem).widen (front ++ ['"'])
        ('"' :: (middle ++ (inQuotes no ++ (back ++ rest)))) (by simp [hyesPos, Nat.add_assoc])
      simpa [inQuotes] using this
    · have : node.StandsIn pos _ := (ihn node hmem).widen
        (front ++ (inQuotes yes ++ (middle ++ ['"']))) ('"' :: (back ++ rest))
        (by simp [hnoPos, hyesPos, inQuotes]; omega)
      simpa [inQuotes] using this
    · have : node.StandsIn pos _ := (ih node hmem).widen
        (front ++ (inQuotes yes ++ (middle ++ (inQuotes no ++ back)))) []
        (by simp [hrestPos, hnoPos, hyesPos, inQuotes]; omega)
      simpa [inQuotes] using this

/-- The placeholders of a tree that tiles a text are listed in the order of the text. -/
theorem Tiles.increasing (h : Tiles inBranch pos cs ns) :
    (Node.placeholdersAll ns).Pairwise (·.origin.position < ·.origin.position) := by
  induction h with
  | nil => exact .nil
  | literal _ _ _ _ _ ih => exact ih
  | @value _ pos xs _ ref ns _ h ih =>
    refine List.pairwise_cons.2 ⟨fun node hmem => ?_, ih⟩
    have := (h.standsIn node hmem).le
    show pos < node.origin.position
    omega
  | @formatted _ pos xs _ ref name ns _ h ih =>
    refine List.pairwise_cons.2 ⟨fun node hmem => ?_, ih⟩
    have := (h.standsIn node hmem).le
    show pos < node.origin.position
    omega
  | @choice _ pos yesPos noPos restPos front yes middle no back rest _ _ ns ys ms _ _ _ hyesPos
      hnoPos hrestPos hy hn h ihy ihn ih =>
    have hyes : ∀ node ∈ Node.placeholdersAll ys,
        pos < node.origin.position ∧ node.origin.position < noPos := fun node hmem => by
      have := (hy.standsIn node hmem).le
      have := (hy.standsIn node hmem).lt
      omega
    have hno : ∀ node ∈ Node.placeholdersAll ns,
        noPos ≤ node.origin.position ∧ node.origin.position < restPos := fun node hmem => by
      have := (hn.standsIn node hmem).le
      have := (hn.standsIn node hmem).lt
      omega
    have hrest : ∀ node ∈ Node.placeholdersAll ms, restPos ≤ node.origin.position :=
      fun node hmem => (h.standsIn node hmem).le
    refine List.pairwise_cons.2
      ⟨?_, List.pairwise_append.2 ⟨List.pairwise_append.2 ⟨ihy, ihn, ?_⟩, ih, ?_⟩⟩
    · intro node hmem
      show pos < node.origin.position
      rcases List.mem_append.1 hmem with hmem | hmem
      · rcases List.mem_append.1 hmem with hmem | hmem
        · exact (hyes node hmem).1
        · have := (hno node hmem).1
          omega
      · have := hrest node hmem
        omega
    · exact fun m hm n hn => (hyes m hm).2.trans_le (hno n hn).1
    · intro m hm n hn
      refine lt_of_lt_of_le ?_ (hrest n hn)
      rcases List.mem_append.1 hm with hm | hm
      · have := (hyes m hm).2
        omega
      · exact (hno m hm).2

/-! ### Templates -/

/-- What is read tiles its text, and the list of its placeholders follows the text. -/
theorem parse_tiles {s : String} {limit : Int} {t : Template}
    (h : Template.parse s limit = .ok t) :
    t.source = s ∧ Tiles false 0 s.toList t.nodes ∧
      (∀ node, node ∈ t.placeholders ↔ ¬ node.IsLiteral ∧ node.Within t.nodes) ∧
      t.placeholders.Pairwise (·.origin.position < ·.origin.position) ∧
      (∀ node ∈ t.placeholders, node.StandsIn 0 s.toList) ∧
      t.references = t.placeholders.filterMap Node.reference? := by
  obtain ⟨l, hl, rfl⟩ := parse_eq_ok_iff_toNat.1 h
  have htiles : Tiles false 0 s.toList (l.nodesAt 0) := hl.chars_eq ▸ hl.ok.tiles 0
  exact ⟨rfl, htiles, fun _ => Node.mem_placeholdersAll_iff, htiles.increasing, htiles.standsIn,
    Node.referencesAll_eq_filterMap _⟩

/-- A branch with an escaped quote and a placeholder of its own. -/
theorem parse_tiles_escaped :
    let s := "a\x7bstream.title::=x[\"b\\\"\x7baddon.id\x7d\"||\"\"]\x7d\x7bstream.year\x7d"
    let t : Template := ⟨[.literal "a", .choice ⟨1, "b\\\"\x7baddon.id\x7d", ""⟩ ⟨.stream, "title"⟩
      (.compare .eq "x") [.literal "b\"", .value ⟨23, "", ""⟩ ⟨.addon, "id"⟩] [],
      .value ⟨40, "", ""⟩ ⟨.stream, "year"⟩], s⟩
    Template.parse s 32 = .ok t ∧ Tiles false 0 s.toList t.nodes ∧
      t.placeholders.map (·.origin.position) = [1, 23, 40] ∧
      t.placeholders.Pairwise (·.origin.position < ·.origin.position) := by
  intro s t
  have h : Template.parse s 32 = .ok t := by cbv
  obtain ⟨-, htiles, -, hincreasing, -, -⟩ := parse_tiles h
  exact ⟨h, htiles, rfl, hincreasing⟩

end StreamLabel
