import StreamLabel.Template.Parser

/-!
# Spans of a text

`c.Spans xs d` says that exactly `xs` stands between the cursors `c` and `d`. Each side of a span
fixes the other, and the spans of an append are split and put together at the cursor between its
parts, so no proof about a reader has to count positions. A run that is read as far as it goes ends
at `d` when the text at `d` stops it (`Stops`).
-/

namespace StreamLabel
open Unicode

/-- The first character, if there is one, is not picked by `p`. -/
def Stops (p : Char → Bool) (cs : List Char) : Prop := ∀ c ∈ cs.head?, p c = false

namespace Stops
variable {p : Char → Bool} {c : Char} {cs ds : List Char}

@[simp] theorem nil : Stops p [] := by simp [Stops]

@[simp] theorem cons_iff : Stops p (c :: cs) ↔ p c = false := by simp [Stops]

instance : Decidable (Stops p cs) :=
  match cs with
  | [] => isTrue nil
  | _ :: _ => decidable_of_iff _ cons_iff.symm

theorem append (hc : ∀ c ∈ cs, p c = false) (hd : Stops p ds) : Stops p (cs ++ ds) := by
  cases cs with
  | nil => exact hd
  | cons c cs => exact cons_iff.2 (hc c (by simp))

theorem takeWhile_append (hc : ∀ c ∈ cs, p c = true) (hd : Stops p ds) :
    (cs ++ ds).takeWhile p = cs := by
  rw [List.takeWhile_append_of_pos hc]
  cases ds with
  | nil => simp
  | cons d ds => simp [cons_iff.1 hd]

theorem dropWhile_append (hc : ∀ c ∈ cs, p c = true) (hd : Stops p ds) :
    (cs ++ ds).dropWhile p = ds := by
  rw [List.dropWhile_append_of_pos hc]
  cases ds with
  | nil => rfl
  | cons d ds => simp [cons_iff.1 hd]

theorem dropWhile (p : Char → Bool) (cs : List Char) : Stops p (cs.dropWhile p) := by
  induction cs with
  | nil => exact nil
  | cons c cs ih =>
    by_cases hc : p c = true
    · rw [List.dropWhile_cons_of_pos hc]; exact ih
    · rw [List.dropWhile_cons_of_neg hc]; simpa using hc

theorem dropWhile_eq (h : Stops p cs) : cs.dropWhile p = cs := by
  cases cs with
  | nil => rfl
  | cons c cs => exact List.dropWhile_cons_of_neg (by simp [cons_iff.1 h])

theorem of_isPrefix (h : Stops p cs) (hp : ds <+: cs) : Stops p ds := by
  cases ds with
  | nil => exact nil
  | cons d ds =>
    obtain ⟨r, rfl⟩ := hp
    exact cons_iff.2 (cons_iff.1 h)

end Stops

namespace Cursor

/-- The text `xs` stands between `c` and `d`. -/
structure Spans (c : Cursor) (xs : List Char) (d : Cursor) : Prop where
  rest : c.rest = xs ++ d.rest
  pos : d.pos = c.pos + xs.length

variable {c d e : Cursor} {xs ys : List Char} {x : Char} {p : Char → Bool}

namespace Spans

theorem refl (c : Cursor) : c.Spans [] c := ⟨rfl, rfl⟩

theorem trans (h : c.Spans xs d) (h' : d.Spans ys e) : c.Spans (xs ++ ys) e :=
  ⟨by rw [h.rest, h'.rest, List.append_assoc], by rw [h'.pos, h.pos, List.length_append]; omega⟩

theorem cons (h : c.Spans [x] d) (h' : d.Spans ys e) : c.Spans (x :: ys) e := h.trans h'

theorem of_rest {r : List Char} (h : c.rest = xs ++ r) : c.Spans xs ⟨c.pos + xs.length, r⟩ :=
  ⟨h, rfl⟩

theorem of_cons {r : List Char} (h : c.rest = x :: r) : c.Spans [x] ⟨c.pos + 1, r⟩ := of_rest h

theorem eq_right (h : c.Spans xs d) (h' : c.Spans xs e) : d = e := by
  have hr : d.rest = e.rest := List.append_cancel_left (h.rest.symm.trans h'.rest)
  have hp : d.pos = e.pos := by rw [h.pos, h'.pos]
  cases d; cases e; cases hr; cases hp; rfl

theorem eq_left (h : c.Spans xs d) (h' : c.Spans ys d) : xs = ys :=
  List.append_cancel_right (h.rest.symm.trans h'.rest)

theorem skip_eq (h : c.Spans xs d) : c.skip xs.length = d := by
  rw [skip, h.rest, List.drop_left, ← h.pos]

theorem rest_cons (h : c.Spans (x :: xs) d) : c.rest = x :: (xs ++ d.rest) := h.rest

theorem stops (h : c.Spans (x :: xs) d) (hx : p x = false) : Stops p c.rest := by
  rw [h.rest_cons]; exact Stops.cons_iff.2 hx

theorem stops_append (h : c.Spans xs d) (hx : ∀ x ∈ xs, p x = false) (hd : Stops p d.rest) :
    Stops p c.rest := by
  rw [h.rest]; exact Stops.append hx hd

end Spans

theorem spans_append_iff : c.Spans (xs ++ ys) e ↔ ∃ d, c.Spans xs d ∧ d.Spans ys e := by
  refine ⟨fun h => ?_, fun ⟨_, h, h'⟩ => h.trans h'⟩
  have h1 : c.Spans xs ⟨c.pos + xs.length, ys ++ e.rest⟩ :=
    Spans.of_rest (by rw [h.rest, List.append_assoc])
  exact ⟨_, h1, rfl, by rw [h.pos, List.length_append]; exact (Nat.add_assoc ..).symm⟩

theorem spans_cons_iff : c.Spans (x :: xs) e ↔ ∃ d, c.Spans [x] d ∧ d.Spans xs e := by
  rw [show x :: xs = [x] ++ xs from rfl, spans_append_iff]

theorem spans_nil_iff : c.Spans [] d ↔ d = c :=
  ⟨fun h => h.eq_right (Spans.refl c), fun h => h ▸ Spans.refl c⟩

/-! ### Runs -/

theorem spans_skip {r : List Char} (h : c.rest = xs ++ r) : c.Spans xs (c.skip xs.length) := by
  rw [(Spans.of_rest h).skip_eq]; exact Spans.of_rest h

theorem spans_skipWhile (p : Char → Bool) (c : Cursor) :
    c.Spans (c.rest.takeWhile p) (c.skipWhile p) := by
  obtain ⟨r, hr⟩ := List.takeWhile_prefix p (l := c.rest)
  exact spans_skip hr.symm

theorem stops_skipWhile (p : Char → Bool) (c : Cursor) : Stops p (c.skipWhile p).rest := by
  have hrest : c.rest.takeWhile p ++ (c.skipWhile p).rest = c.rest.takeWhile p ++ c.rest.dropWhile p :=
    (spans_skipWhile p c).rest.symm.trans List.takeWhile_append_dropWhile.symm
  rw [List.append_cancel_left hrest]
  exact Stops.dropWhile p c.rest

theorem Spans.skipWhile_eq (h : c.Spans xs d) (hx : ∀ x ∈ xs, p x = true) (hd : Stops p d.rest) :
    c.skipWhile p = d := by
  have hrun : c.rest.takeWhile p = xs := by rw [h.rest]; exact Stops.takeWhile_append hx hd
  rw [skipWhile, hrun, h.skip_eq]

/-- Two runs from one cursor that the same kind of character ends are the same run. -/
theorem Spans.run_unique (h : c.Spans xs d) (hx : ∀ x ∈ xs, p x = true) (hd : Stops p d.rest)
    (h' : c.Spans ys e) (hy : ∀ y ∈ ys, p y = true) (he : Stops p e.rest) : xs = ys ∧ d = e := by
  have hde : d = e := (h.skipWhile_eq hx hd).symm.trans (h'.skipWhile_eq hy he)
  subst hde
  exact ⟨h.eq_left h', rfl⟩

/-! ### Tokens -/

theorem startsWith_iff {token : String} :
    c.startsWith token = true ↔ ∃ d, c.Spans token.toList d := by
  rw [startsWith, List.isPrefixOf_iff_prefix]
  exact ⟨fun ⟨r, hr⟩ => ⟨_, Spans.of_rest hr.symm⟩, fun ⟨d, hd⟩ => ⟨d.rest, hd.rest.symm⟩⟩

theorem startsWith_eq_false_iff {token : String} :
    c.startsWith token = false ↔ ¬ token.toList <+: c.rest := by
  rw [startsWith, Bool.eq_false_iff, ne_eq, List.isPrefixOf_iff_prefix]

theorem startsWith_eq_false_of_stops {token : String} (x : Char) (cs : List Char)
    (ht : token.toList = x :: cs) (h : Stops (· == x) c.rest) : c.startsWith token = false := by
  rw [Bool.eq_false_iff]
  intro hs
  obtain ⟨d, hd⟩ := startsWith_iff.1 hs
  rw [ht] at hd
  rw [hd.rest_cons, Stops.cons_iff] at h
  simp at h

end Cursor

end StreamLabel
