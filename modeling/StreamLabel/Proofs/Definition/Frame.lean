import StreamLabel.Proofs.Definition.Roundtrip
import StreamLabel.Proofs.Template.Layout
import Mathlib

/-!
# The frame around pasted templates

`Framed` says how a text divides into the frame, a name and a description. Either template may hold
what looks like the part of the frame between them, so there may be several such divisions, and the
reader of the frame takes the one with the longest name (`ofFrame?_eq_some_iff`). It is asked only where
the text is no plain JSON (`read_frame`). Templates pasted into the frame are read back unless a later
separator stands in the description or begins at the quote in front of it, and those that need no
escapes are read alike by both readers.
-/

namespace StreamLabel
open Unicode

namespace Definition

/-! ### Divisions of a text -/

/-- The tokens one after the other, each with blanks in front of it. -/
inductive Spaced : List String → List Char → Prop
  | nil : Spaced [] []
  | cons (b : Blanks) {token : String} {tokens : List String} {cs : List Char}
      (h : Spaced tokens cs) : Spaced (token :: tokens) (b.chars ++ (token.toList ++ cs))

/-- The frame between the name and the description, the quotes at its ends included. -/
def IsSeparator (cs : List Char) : Prop :=
  ∃ xs, Spaced [",", "\"description\"", ":", "\""] xs ∧ cs = '"' :: xs

/-- The text is the frame around `name` and `description`. -/
inductive Framed (name description : List Char) : List Char → Prop
  | intro {opening separator : List Char} (blanks : Blanks)
      (ho : Spaced ["\"name\"", ":", "\""] opening) (hs : IsSeparator separator) :
      Framed name description ('\x7b' :: (opening ++ (name ++ (separator ++ (description ++
        '"' :: (blanks.chars ++ ['\x7d']))))))

/-- The text is the frame around `name` and `description`, and around no longer name. -/
structure FramedAtLast (name description whole : List Char) : Prop where
  framed : Framed name description whole
  longest : ∀ name' description' : List Char, Framed name' description' whole →
    name'.length ≤ name.length

/-- The text in front of the frame's end is divided by a separator. -/
def SplitsAt (cs name description : List Char) : Prop :=
  ∃ separator, IsSeparator separator ∧ cs = name ++ (separator ++ description)

/-! ### Tokens -/

variable {tokens : List String} {cs name description rest : List Char}

theorem afterToken?_eq_some_iff {token : String} :
    Json.afterToken? token cs = some rest ↔ cs = token.toList ++ rest := by
  constructor
  · intro h
    unfold Json.afterToken? at h
    split at h
    · rename_i hprefix
      obtain ⟨r, rfl⟩ := List.isPrefixOf_iff_prefix.1 hprefix
      rw [← String.length_toList, List.drop_left] at h
      rw [Option.some.inj h]
    · simp at h
  · rintro rfl
    exact Json.afterToken?_append token rest

/-- Tokens that no blank begins are passed in one way only. -/
theorem afterTokens?_eq_some_iff
    (h : ∀ token ∈ tokens, token.toList ≠ [] ∧ Stops isBlank token.toList) :
    afterTokens? tokens cs = some rest ↔ ∃ xs, Spaced tokens xs ∧ cs = xs ++ rest := by
  induction tokens generalizing cs with
  | nil =>
    rw [afterTokens?, Option.some.injEq]
    constructor
    · rintro rfl
      exact ⟨[], .nil, rfl⟩
    · rintro ⟨_, ⟨⟩, rfl⟩
      rfl
  | cons token tokens ih =>
    obtain ⟨⟨hne, hstops⟩, htokens⟩ := List.forall_mem_cons.1 h
    rw [afterTokens?]
    constructor
    · intro hread
      split at hread
      · rename_i r hr
        obtain ⟨xs, hxs, rfl⟩ := (ih htokens).1 hread
        have hcs := afterToken?_eq_some_iff.1 hr
        let b : Blanks := ⟨cs.takeWhile isBlank, fun _ hx => List.mem_takeWhile_imp hx⟩
        refine ⟨_, .cons b hxs, ?_⟩
        rw [List.append_assoc, List.append_assoc, ← hcs]
        exact List.takeWhile_append_dropWhile.symm
      · simp at hread
    · rintro ⟨_, hspaced, rfl⟩
      cases hspaced with
      | @cons b _ _ xs hxs =>
        have hdrop : (b.chars ++ (token.toList ++ xs) ++ rest).dropWhile isBlank =
            token.toList ++ (xs ++ rest) := by
          obtain ⟨x, r, hx⟩ := List.exists_cons_of_ne_nil hne
          rw [hx, Stops.cons_iff] at hstops
          rw [List.append_assoc, List.append_assoc, hx]
          exact Stops.dropWhile_append b.blank (Stops.cons_iff.2 hstops)
        rw [hdrop, Json.afterToken?_append]
        exact (ih htokens).2 ⟨xs, hxs, rfl⟩

/-! ### Separators -/

theorem afterName?_eq_some_iff : afterName? cs = some description ↔ SplitsAt cs [] description := by
  constructor
  · intro h
    unfold afterName? at h
    split at h
    · obtain ⟨xs, hxs, rfl⟩ := (afterTokens?_eq_some_iff (by decide)).1 h
      exact ⟨_, ⟨xs, hxs, rfl⟩, rfl⟩
    · simp at h
  · rintro ⟨_, ⟨xs, hxs, rfl⟩, rfl⟩
    exact (afterTokens?_eq_some_iff (by decide)).2 ⟨xs, hxs, rfl⟩

theorem not_splitsAt_nil : ¬ SplitsAt [] name description := by
  rintro ⟨_, ⟨xs, -, rfl⟩, h⟩
  simp at h

theorem splitsAt_cons_iff {c x : Char} :
    SplitsAt (c :: cs) (x :: name) description ↔ c = x ∧ SplitsAt cs name description := by
  simp only [SplitsAt, List.cons_append, List.cons.injEq]
  constructor
  · rintro ⟨separator, hs, rfl, rfl⟩
    exact ⟨rfl, separator, hs, rfl⟩
  · rintro ⟨rfl, separator, hs, rfl⟩
    exact ⟨separator, hs, rfl, rfl⟩

theorem splitName?_eq_none_iff : splitName? cs = none ↔ ∀ n d, ¬ SplitsAt cs n d := by
  induction cs with
  | nil => exact ⟨fun _ _ _ => not_splitsAt_nil, fun _ => rfl⟩
  | cons c cs ih =>
    rw [splitName?]
    cases hcs : splitName? cs with
    | some out =>
      have hsplit : ¬ ∀ n d, ¬ SplitsAt cs n d := fun h => by simp [ih.2 h] at hcs
      refine ⟨by simp, fun h => absurd (fun n d hs => ?_) hsplit⟩
      exact h (c :: n) d (splitsAt_cons_iff.2 ⟨rfl, hs⟩)
    | none =>
      have hnone := ih.1 hcs
      rw [Option.map_eq_none_iff, Option.eq_none_iff_forall_ne_some]
      constructor
      · intro h n d hs
        cases n with
        | nil => exact h d (afterName?_eq_some_iff.2 hs)
        | cons x n => exact hnone n d (splitsAt_cons_iff.1 hs).2
      · exact fun h d hd => h [] d (afterName?_eq_some_iff.1 hd)

/-- The name that is cut off is the longest one. -/
theorem splitName?_sound (h : splitName? cs = some (name, description)) :
    SplitsAt cs name description ∧ ∀ n d, SplitsAt cs n d → n.length ≤ name.length := by
  induction cs generalizing name with
  | nil => simp [splitName?] at h
  | cons c cs ih =>
    rw [splitName?] at h
    cases hcs : splitName? cs with
    | some out =>
      obtain ⟨n₁, d₁⟩ := out
      rw [hcs] at h
      obtain ⟨rfl, rfl⟩ := Prod.mk.inj (Option.some.inj h)
      obtain ⟨hsplit, hlongest⟩ := ih hcs
      refine ⟨splitsAt_cons_iff.2 ⟨rfl, hsplit⟩, fun n d hs => ?_⟩
      cases n with
      | nil => simp
      | cons x n => simpa using hlongest n d (splitsAt_cons_iff.1 hs).2
    | none =>
      rw [hcs] at h
      obtain ⟨d, hd, hout⟩ := Option.map_eq_some_iff.1 h
      obtain ⟨rfl, rfl⟩ := Prod.mk.inj hout
      refine ⟨afterName?_eq_some_iff.1 hd, fun n d hs => ?_⟩
      cases n with
      | nil => simp
      | cons x n => exact absurd (splitsAt_cons_iff.1 hs).2 (splitName?_eq_none_iff.1 hcs n d)

/-- A separator is followed by one description only. -/
theorem SplitsAt.unique {n d : List Char} (h : SplitsAt cs name description) (h' : SplitsAt cs n d)
    (hlength : name.length = n.length) : name = n ∧ description = d := by
  obtain ⟨s, hs, rfl⟩ := h
  obtain ⟨s', hs', heq⟩ := h'
  obtain ⟨rfl, hrest⟩ := List.append_inj heq hlength
  have hd : afterName? (s ++ description) = some description :=
    afterName?_eq_some_iff.2 ⟨s, hs, rfl⟩
  have hd' : afterName? (s ++ description) = some d :=
    afterName?_eq_some_iff.2 ⟨s', hs', hrest⟩
  exact ⟨rfl, Option.some.inj (hd.symm.trans hd')⟩

theorem splitName?_eq_some_iff :
    splitName? cs = some (name, description) ↔
      SplitsAt cs name description ∧ ∀ n d, SplitsAt cs n d → n.length ≤ name.length := by
  refine ⟨splitName?_sound, fun ⟨hsplit, hlongest⟩ => ?_⟩
  cases hcs : splitName? cs with
  | none => exact absurd hsplit (splitName?_eq_none_iff.1 hcs _ _)
  | some out =>
    obtain ⟨n, d⟩ := out
    obtain ⟨hsplit', hlongest'⟩ := splitName?_sound hcs
    obtain ⟨rfl, rfl⟩ := hsplit.unique hsplit'
      (Nat.le_antisymm (hlongest' _ _ hsplit) (hlongest _ _ hsplit'))
    rfl

/-! ### The whole frame -/

theorem beforeEnd?_eq_some_iff {inner : List Char} :
    beforeEnd? cs = some inner ↔ ∃ b : Blanks, cs = inner ++ '"' :: (b.chars ++ ['\x7d']) := by
  have hreverse : ∀ (b : Blanks), (inner ++ '"' :: (b.chars ++ ['\x7d'])).reverse =
      '\x7d' :: (b.chars.reverse ++ '"' :: inner.reverse) := by simp
  constructor
  · intro h
    unfold beforeEnd? at h
    split at h
    · rename_i r hr
      split at h
      · rename_i r' hr'
        obtain rfl := Option.some.inj h
        let b : Blanks := ⟨(r.takeWhile isBlank).reverse,
          fun _ hx => List.mem_takeWhile_imp (List.mem_reverse.1 hx)⟩
        refine ⟨b, List.reverse_inj.1 ?_⟩
        rw [hr, hreverse, List.reverse_reverse, List.reverse_reverse, ← hr',
          List.takeWhile_append_dropWhile]
      · simp at h
    · simp at h
  · rintro ⟨b, rfl⟩
    have hblank : ∀ x ∈ b.chars.reverse, isBlank x = true := fun x hx =>
      b.blank x (List.mem_reverse.1 hx)
    have hdrop : (b.chars.reverse ++ '"' :: inner.reverse).dropWhile isBlank =
        '"' :: inner.reverse := Stops.dropWhile_append hblank (Stops.cons_iff.2 (by decide))
    simp only [beforeEnd?, hreverse, hdrop, List.reverse_reverse]

/-- What stands between the first part of the frame and its end. -/
def frameBody? (whole : List Char) : Option (List Char) := do
  beforeEnd? (← afterTokens? ["\"name\"", ":", "\""] (← Json.afterToken? "\x7b" whole))

variable {whole : List Char}

theorem frameBody?_eq_some_iff {body : List Char} :
    frameBody? whole = some body ↔
      ∃ (opening : List Char) (b : Blanks), Spaced ["\"name\"", ":", "\""] opening ∧
        whole = '\x7b' :: (opening ++ (body ++ '"' :: (b.chars ++ ['\x7d']))) := by
  have hname : ∀ token ∈ ["\"name\"", ":", "\""], token.toList ≠ [] ∧ Stops isBlank token.toList := by
    decide
  simp only [frameBody?, Option.bind_eq_bind, Option.bind_eq_some_iff, afterToken?_eq_some_iff,
    afterTokens?_eq_some_iff hname, beforeEnd?_eq_some_iff]
  constructor
  · rintro ⟨_, rfl, _, ⟨opening, ho, rfl⟩, b, rfl⟩
    exact ⟨opening, b, ho, rfl⟩
  · rintro ⟨opening, b, ho, rfl⟩
    exact ⟨_, rfl, _, ⟨opening, ho, rfl⟩, b, rfl⟩

theorem framed_iff :
    Framed name description whole ↔
      ∃ body, frameBody? whole = some body ∧ SplitsAt body name description := by
  simp only [frameBody?_eq_some_iff, SplitsAt]
  constructor
  · rintro @⟨opening, separator, b, ho, hs⟩
    exact ⟨_, ⟨opening, b, ho, by simp⟩, separator, hs, rfl⟩
  · rintro ⟨_, ⟨opening, b, ho, rfl⟩, separator, hs, rfl⟩
    have hframed : Framed name description _ := .intro b ho hs
    simpa using hframed

theorem framedAtLast_iff :
    FramedAtLast name description whole ↔
      ∃ body, frameBody? whole = some body ∧ splitName? body = some (name, description) := by
  simp only [splitName?_eq_some_iff]
  constructor
  · rintro ⟨hframed, hlongest⟩
    obtain ⟨body, hbody, hsplit⟩ := framed_iff.1 hframed
    exact ⟨body, hbody, hsplit, fun n d hs => hlongest n d (framed_iff.2 ⟨body, hbody, hs⟩)⟩
  · rintro ⟨body, hbody, hsplit, hlongest⟩
    refine ⟨framed_iff.2 ⟨body, hbody, hsplit⟩, fun n d hframed => ?_⟩
    obtain ⟨body', hbody', hs⟩ := framed_iff.1 hframed
    obtain rfl := Option.some.inj (hbody.symm.trans hbody')
    exact hlongest n d hs

theorem ofFrame?_eq_bind :
    ofFrame? whole = (frameBody? whole).bind fun body =>
      (splitName? body).map fun out => ⟨String.ofList out.1, String.ofList out.2⟩ := by
  simp only [ofFrame?, frameBody?, Option.bind_eq_bind, Option.bind_assoc, Option.map_eq_bind]
  rfl

theorem ofFrame?_eq_some_iff {n d : String} :
    ofFrame? whole = some ⟨n, d⟩ ↔ FramedAtLast n.toList d.toList whole := by
  simp only [framedAtLast_iff, ofFrame?_eq_bind, Option.bind_eq_some_iff, Option.map_eq_some_iff]
  constructor
  · rintro ⟨body, hbody, ⟨n', d'⟩, hsplit, hout⟩
    obtain ⟨rfl, rfl⟩ := Definition.mk.inj hout
    exact ⟨body, hbody, by simpa using hsplit⟩
  · rintro ⟨body, hbody, hsplit⟩
    exact ⟨body, hbody, _, hsplit, by simp⟩

theorem ofFrame?_eq_none_iff : ofFrame? whole = none ↔ ¬ ∃ n d, Framed n d whole := by
  rw [ofFrame?_eq_bind]
  simp only [framed_iff]
  cases hbody : frameBody? whole with
  | none => simp
  | some body =>
    simp only [Option.bind_some, Option.map_eq_none_iff, splitName?_eq_none_iff, Option.some.injEq,
      exists_eq_left', not_exists]

/-! ### Pasted templates -/

/-- The frame with the templates between its quotes as they stand. -/
def pasted (name description : String) : String :=
  "\x7b\"name\":\"" ++ name ++ "\",\"description\":\"" ++ description ++ "\"\x7d"

theorem toList_pasted (n d : String) :
    (pasted n d).toList = '\x7b' :: ("\"name\":\"".toList ++ ((n.toList ++
      ('"' :: ",\"description\":\"".toList ++ d.toList)) ++ '"' :: (Blanks.none.chars ++ ['\x7d']))) := by
  simp [pasted, String.toList_append, Blanks.none]

theorem frameBody?_pasted (n d : String) :
    frameBody? (pasted n d).toList =
      some (n.toList ++ ('"' :: ",\"description\":\"".toList ++ d.toList)) :=
  frameBody?_eq_some_iff.2
    ⟨_, .none, .cons .none (.cons .none (.cons .none .nil)), toList_pasted n d⟩

/-- Where no name can be cut off there is no separator. -/
theorem splitName?_eq_none_iff_not_exists :
    splitName? cs = none ↔ ¬ ∃ separator, IsSeparator separator ∧ separator <:+: cs := by
  rw [splitName?_eq_none_iff]
  constructor
  · rintro h ⟨s, hs, n, d, rfl⟩
    exact h n d ⟨s, hs, List.append_assoc ..⟩
  · rintro h n d ⟨s, hs, rfl⟩
    exact h ⟨s, hs, n, d, List.append_assoc ..⟩

theorem splitName?_cons_eq_none {c : Char} (hc : afterName? (c :: cs) = none)
    (hcs : splitName? cs = none) : splitName? (c :: cs) = none := by
  rw [splitName?, hcs, hc]
  rfl

/-- No name ends where no quote stands. -/
theorem splitName?_append_eq_none {xs : List Char} (hxs : '"' ∉ xs) (hcs : splitName? cs = none) :
    splitName? (xs ++ cs) = none := by
  induction xs with
  | nil => exact hcs
  | cons x xs ih =>
    rw [List.mem_cons, not_or] at hxs
    refine splitName?_cons_eq_none ?_ (ih hxs.2)
    unfold afterName?
    split
    · rename_i heq
      exact absurd (List.cons.inj heq).1.symm hxs.1
    · rfl

/-- Behind the quote that ends the pasted name, only the quote in front of the description may begin a
separator. -/
theorem splitName?_pasted (n : List Char) {d : List Char}
    (hd : ¬ ∃ separator, IsSeparator separator ∧ separator <:+: '"' :: d) :
    splitName? (n ++ ('"' :: ",\"description\":\"".toList ++ d)) = some (n, d) := by
  induction n with
  | nil =>
    have hafter : afterName? ('"' :: (",\"description\":\"".toList ++ d)) = some d :=
      afterName?_eq_some_iff.2 ⟨_, ⟨_, .cons .none (.cons .none (.cons .none (.cons .none .nil))), rfl⟩,
        rfl⟩
    have hrest : splitName? (",\"description\":\"".toList ++ d) = none := by
      change splitName? ([','] ++ ('"' :: ("description".toList ++ '"' :: ([':'] ++ '"' :: d)))) = none
      refine splitName?_append_eq_none (by decide) (splitName?_cons_eq_none rfl ?_)
      refine splitName?_append_eq_none (by decide) (splitName?_cons_eq_none rfl ?_)
      exact splitName?_append_eq_none (by decide) (splitName?_eq_none_iff_not_exists.2 hd)
    rw [List.nil_append, List.cons_append, splitName?, hrest, hafter]
    rfl
  | cons c n ih => rw [List.cons_append, splitName?, ih]

theorem ofFrame?_pasted (n d : String)
    (hd : ¬ ∃ separator, IsSeparator separator ∧ separator <:+: '"' :: d.toList) :
    ofFrame? (pasted n d).toList = some ⟨n, d⟩ := by
  rw [ofFrame?_eq_bind, frameBody?_pasted, Option.bind_some, splitName?_pasted _ hd]
  simp

theorem exists_pasted_eq (n d : String) : ∃ cs, (pasted n d).toList = '\x7b' :: (cs ++ ['\x7d']) := by
  rw [toList_pasted]
  simp only [← List.cons_append, ← List.append_assoc]
  exact ⟨_, rfl⟩

/-! ### Templates that need no escapes -/

/-- The character is written between quotes as it stands. -/
def IsPlain (c : Char) : Prop :=
  c ≠ '"' ∧ c ≠ '\\' ∧ 32 ≤ c.toNat
deriving Decidable

theorem escape_of_isPlain {c : Char} (h : IsPlain c) : Json.escape false c = [c] := by
  obtain ⟨hquote, hslash, hcontrol⟩ := h
  have hne : ∀ x : Char, x.toNat < 32 → c ≠ x := by
    rintro x hx rfl
    omega
  rw [Json.escape, if_neg (not_or.2 ⟨hquote, hslash⟩), if_neg (hne _ (by decide)),
    if_neg (hne _ (by decide)), if_neg (hne _ (by decide)), if_neg (hne _ (by decide)),
    if_neg (hne _ (by decide)), if_neg (by simp; omega)]

theorem toList_quote_of_isPlain {s : String} (h : ∀ c ∈ s.toList, IsPlain c) :
    (Json.quote false s).toList = '"' :: (s.toList ++ ['"']) := by
  have hescape : Json.escapeAll false s.toList = s.toList := by
    rw [Json.escapeAll, List.flatMap_def,
      List.map_congr_left fun c hc => escape_of_isPlain (h c hc), ← List.flatMap_def,
      List.flatMap_singleton']
  rw [Json.quote, hescape, String.toList_ofList]
  rfl

/-- The body of such a definition is the frame with the templates as they stand. -/
theorem toList_body_of_isPlain {n d : String} (hn : ∀ c ∈ n.toList, IsPlain c)
    (hd : ∀ c ∈ d.toList, IsPlain c) : (body ⟨n, d⟩).toList = (pasted n d).toList := by
  rw [toList_body, bodyFields, toList_quote_of_isPlain hn, toList_quote_of_isPlain hd, toList_pasted]
  simp [Json.quote, Json.escapeAll, Json.escape, Blanks.none]

theorem Spaced.mem {token : String} {c : Char} (h : Spaced tokens cs) (htoken : token ∈ tokens)
    (hc : c ∈ token.toList) : c ∈ cs := by
  induction h with
  | nil => simp at htoken
  | cons b h ih =>
    simp only [List.mem_append]
    obtain rfl | htoken := List.mem_cons.1 htoken
    · exact .inr (.inl hc)
    · exact .inr (.inr (ih htoken))

/-- A separator has more quotes than the one it begins with. -/
theorem not_exists_isSeparator {d : List Char} (hd : '"' ∉ d) :
    ¬ ∃ separator, IsSeparator separator ∧ separator <:+: '"' :: d := by
  rintro ⟨_, ⟨xs, hxs, rfl⟩, hinfix⟩
  have hmem : '"' ∈ xs := hxs.mem (show "\"" ∈ _ by simp) (by decide)
  have hcount := hinfix.sublist.count_le '"'
  rw [List.count_cons_self, List.count_cons_self, List.count_eq_zero_of_not_mem hd] at hcount
  have := List.count_pos_iff.2 hmem
  omega

/-! ### Reading -/

theorem read_of_ofJson_eq_error {s : String} {flaws : List Flaw}
    (hhead : (payload s).head? = some '\x7b') (hjson : ofJson (payload s) = .error flaws) :
    read s = (ofFrame? (payload s)).elim (.error (.flawed flaws)) .ok := by
  rw [read, if_neg (not_not.2 hhead), hjson]
  cases ofFrame? (payload s) <;> rfl

theorem read_eq_ok_iff_of_ofJson_eq_error {s : String} {flaws : List Flaw} {d : Definition}
    (hhead : (payload s).head? = some '\x7b') (hjson : ofJson (payload s) = .error flaws) :
    read s = .ok d ↔ ofFrame? (payload s) = some d := by
  rw [read_of_ofJson_eq_error hhead hjson]
  cases ofFrame? (payload s) <;> simp

/-- A payload that begins with a brace and is refused as plain JSON is read as the frame it is, with the
longest name, and refused exactly where it is no frame. So templates that are pasted into the frame are
read back if no separator stands behind theirs, be it one that begins with the quote in front of the
description. Where they need no escapes, both readers read them. -/
theorem read_frame :
    (∀ (s : String) (flaws : List Flaw), (payload s).head? = some '\x7b' →
      ofJson (payload s) = .error flaws →
        (∀ n d : String, read s = .ok ⟨n, d⟩ ↔ FramedAtLast n.toList d.toList (payload s)) ∧
        (read s = .error (.flawed flaws) ↔ ¬ ∃ n d, Framed n d (payload s))) ∧
    (∀ (n d : String) (flaws : List Flaw), ofJson (pasted n d).toList = .error flaws →
      (¬ ∃ separator, IsSeparator separator ∧ separator <:+: '"' :: d.toList) →
        read (pasted n d) = .ok ⟨n, d⟩ ∧ read (marker ++ pasted n d) = .ok ⟨n, d⟩) ∧
    (∀ n d : String, (∀ c ∈ n.toList, IsPlain c) → (∀ c ∈ d.toList, IsPlain c) →
      ofJson (pasted n d).toList = .ok ⟨n, d⟩ ∧ ofFrame? (pasted n d).toList = some ⟨n, d⟩) := by
  refine ⟨fun s flaws hhead hjson => ⟨fun n d => ?_, ?_⟩, fun n d flaws hjson hsep => ?_,
    fun n d hn hd => ⟨?_, ?_⟩⟩
  · rw [read_eq_ok_iff_of_ofJson_eq_error hhead hjson, ofFrame?_eq_some_iff]
  · rw [← ofFrame?_eq_none_iff, read_of_ofJson_eq_error hhead hjson]
    cases ofFrame? (payload s) <;> simp
  · obtain ⟨cs, hcs⟩ := exists_pasted_eq n d
    have hempty : ∀ c ∈ "".toList, isBlank c = true := by simp
    have hunmarked : payload (pasted n d) = (pasted n d).toList := by
      simpa using payload_unmarked hcs hempty hempty
    have hmarked : payload (marker ++ pasted n d) = (pasted n d).toList := by
      simpa using payload_marked hcs hempty hempty
    have hread : ∀ s, payload s = (pasted n d).toList → read s = .ok ⟨n, d⟩ := fun s hs =>
      (read_eq_ok_iff_of_ofJson_eq_error (by rw [hs, hcs]; rfl) (hs ▸ hjson)).2
        (hs ▸ ofFrame?_pasted n d hsep)
    exact ⟨hread _ hunmarked, hread _ hmarked⟩
  · rw [← toList_body_of_isPlain hn hd, ofJson_body]
  · exact ofFrame?_pasted n d (not_exists_isSeparator fun hquote => (hd _ hquote).1 rfl)

/-- A name goes on to the last separator, and pasted templates may hold quotes. -/
theorem read_frame_lookalikes :
    let choice := "\x7ba.b[\"c\"||\"\"]\x7d"
    let s := "custom:\x7b\"name\":\"" ++ choice ++ "\",\"description\":\"\" ,\"description\":\"\"\x7d\n"
    let longest := choice ++ "\",\"description\":\""
    (payload s).head? = some '\x7b' ∧ ofJson (payload s) = .error [.notJson] ∧
      FramedAtLast longest.toList [] (payload s) ∧
      ofJson (pasted choice choice).toList = .error [.notJson] ∧
      read (pasted choice choice) = .ok ⟨choice, choice⟩ ∧
      (∀ c ∈ "\x7ba.b\x7d".toList, IsPlain c) ∧
      ofFrame? (pasted "\x7ba.b\x7d" "").toList = some ⟨"\x7ba.b\x7d", ""⟩ := by
  intro choice s longest
  have hhead : (payload s).head? = some '\x7b' := by decide +kernel
  have hjson : ofJson (payload s) = .error [.notJson] := by decide +kernel
  have hread : read s = .ok ⟨longest, ""⟩ := by decide +kernel
  have hpasted : ofJson (pasted choice choice).toList = .error [.notJson] := by cbv
  have hsep : ¬ ∃ separator, IsSeparator separator ∧ separator <:+: '"' :: choice.toList :=
    splitName?_eq_none_iff_not_exists.1 (by cbv)
  have hall : "\x7ba.b\x7d".toList.all (fun c => decide (IsPlain c)) = true := by decide
  have hplain : ∀ c ∈ "\x7ba.b\x7d".toList, IsPlain c := fun c hc =>
    of_decide_eq_true (List.all_eq_true.1 hall c hc)
  exact ⟨hhead, hjson, ((read_frame.1 s _ hhead hjson).1 _ _).1 hread, hpasted,
    (read_frame.2.1 _ _ _ hpasted hsep).1, hplain, (read_frame.2.2 _ _ hplain (by simp)).2⟩

end Definition

end StreamLabel
