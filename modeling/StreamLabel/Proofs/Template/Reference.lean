import StreamLabel.Proofs.Template.Condition

/-!
# Reading references

A reference is read as the longest blanks and names (`reference_eq`), and a reading of one comes to a
reference or breaks off at a part that is missing or unknown (`reference_cases`).
-/

namespace StreamLabel
open Unicode Reader Cursor Layout

variable {c d e : Cursor} {start n : Nat}

theorem bind_eq_ok {ε α β : Type} {x : Except ε α} {f : α → Except ε β} {b : β} :
    (x >>= f) = .ok b ↔ ∃ a, x = .ok a ∧ f a = .ok b := by
  cases x <;> simp [bind, Except.bind]

theorem bind_eq_error {ε α β : Type} {x : Except ε α} {g : α → Except ε β} {f : ε} :
    (x >>= g) = .error f ↔ x = .error f ∨ ∃ a, x = .ok a ∧ g a = .error f := by
  cases x <;> simp [bind, Except.bind]

/-! ### Blanks and names -/

theorem skipBlanks_eq (b : Blanks) (h : c.Spans b.chars d) (hd : Stops isBlank d.rest) :
    c.skipBlanks = d :=
  h.skipWhile_eq b.blank hd

theorem exists_blanks (c : Cursor) : ∃ b : Blanks, c.Spans b.chars c.skipBlanks :=
  ⟨⟨_, fun _ hx => List.mem_takeWhile_imp hx⟩, spans_skipWhile isBlank c⟩

theorem isBlank_of_isAsciiNamePart {x : Char} (h : isAsciiNamePart x = true) : isBlank x = false := by
  have hx : 48 ≤ x.toNat ∧ x.toNat ≤ 122 := by
    simp only [isAsciiNamePart, isAsciiNameStart, Bool.or_eq_true, decide_eq_true_eq, Char.le_def,
      UInt32.le_iff_toNat_le] at h
    rcases h with (⟨h, h'⟩ | ⟨h, h'⟩ | rfl) | ⟨h, h'⟩
    · exact ⟨Nat.le_trans (by decide) h, Nat.le_trans h' (by decide)⟩
    · exact ⟨Nat.le_trans (by decide) h, Nat.le_trans h' (by decide)⟩
    · decide
    · exact ⟨h, Nat.le_trans h' (by decide)⟩
  simp only [isBlank, Bool.or_eq_false_iff, Bool.and_eq_false_iff, decide_eq_false_iff_not,
    beq_eq_false_iff_ne]
  omega

theorem isAsciiNamePart_of_isBlank {x : Char} (h : isBlank x = true) : isAsciiNamePart x = false :=
  Bool.eq_false_iff.2 fun hx => by simp [isBlank_of_isAsciiNamePart hx] at h

theorem isAsciiNamePart_of_start {x : Char} (h : isAsciiNameStart x = true) :
    isAsciiNamePart x = true := by
  simp [isAsciiNamePart, h]

namespace Name

theorem exists_cons (n : Name) :
    ∃ x xs, n.chars = x :: xs ∧ isAsciiNameStart x = true ∧ ∀ y ∈ xs, isAsciiNamePart y = true := by
  obtain ⟨cs, hn⟩ := n
  cases cs with
  | nil => exact hn.elim
  | cons x xs => exact ⟨x, xs, rfl, hn⟩

theorem isAsciiNamePart (n : Name) : ∀ x ∈ n.chars, isAsciiNamePart x = true := by
  obtain ⟨x, xs, hn, hx, hxs⟩ := n.exists_cons
  rw [hn]
  intro y hy
  rcases List.mem_cons.1 hy with rfl | hy
  · exact isAsciiNamePart_of_start hx
  · exact hxs y hy

theorem ofList_ne_empty (n : Name) : String.ofList n.chars ≠ "" := by
  obtain ⟨x, xs, hn, -⟩ := n.exists_cons
  rw [hn]
  intro h
  have := congrArg String.toList h
  simp at this

theorem stops_append (n : Name) (cs : List Char) : Stops isBlank (n.chars ++ cs) := by
  obtain ⟨x, xs, hn, hx, -⟩ := n.exists_cons
  rw [hn]
  exact Stops.cons_iff.2 (isBlank_of_isAsciiNamePart (isAsciiNamePart_of_start hx))

theorem stops_isBlank (n : Name) (h : c.Spans n.chars d) : Stops isBlank c.rest := by
  rw [h.rest]
  exact n.stops_append _

end Name

theorem name_eq (n : Name) (h : c.Spans n.chars d) (hd : Stops isAsciiNamePart d.rest) :
    name c = (String.ofList n.chars, d) := by
  have hrun : c.rest.takeWhile isAsciiNamePart = n.chars := by
    rw [h.rest]; exact Stops.takeWhile_append n.isAsciiNamePart hd
  obtain ⟨x, xs, hn, hx, -⟩ := n.exists_cons
  have hrest : c.rest = x :: (xs ++ d.rest) := by rw [h.rest, hn]; rfl
  unfold name
  split
  · simp_all
  · rename_i y ys hy
    obtain ⟨rfl, -⟩ := List.cons.inj (hrest.symm.trans hy)
    simp only [hx, ↓reduceIte, hrun, h.skip_eq]

theorem exists_name (h : (name c).1 ≠ "") :
    ∃ n : Name, (name c).1 = String.ofList n.chars ∧ c.Spans n.chars (name c).2 := by
  unfold name at h ⊢
  split at h
  · simp at h
  · rename_i x xs hrest
    split at h
    · rename_i hx
      rw [if_pos hx]
      refine ⟨⟨_, ?_⟩, rfl, spans_skipWhile isAsciiNamePart c⟩
      rw [hrest, List.takeWhile_cons_of_pos (isAsciiNamePart_of_start hx)]
      exact ⟨hx, fun y hy => List.mem_takeWhile_imp hy⟩
    · simp at h

theorem name_eq_empty (h : (name c).1 = "") : (name c).2 = c ∧ Stops isAsciiNameStart c.rest := by
  unfold name at h ⊢
  split
  · rename_i hrest
    rw [hrest]
    exact ⟨rfl, Stops.nil⟩
  · rename_i x xs hrest
    split
    · rename_i hx
      rw [hrest] at h
      simp [hx, isAsciiNamePart_of_start hx] at h
    · rename_i hx
      rw [hrest]
      exact ⟨rfl, Stops.cons_iff.2 (by simpa using hx)⟩

theorem stops_name (h : (name c).1 ≠ "") : Stops isAsciiNamePart (name c).2.rest := by
  unfold name at h ⊢
  split at h
  · simp at h
  · split at h
    · rename_i hx
      rw [if_pos hx]
      exact stops_skipWhile isAsciiNamePart c
    · simp at h

/-! ### References -/

theorem Namespace.isName (s : Namespace) : IsName s.name.toList := by
  cases s <;> exact ⟨rfl, List.all_eq_true.1 rfl⟩

theorem Namespace.ofName?_name (s : Namespace) : Namespace.ofName? s.name = some s := by
  cases s <;> decide

theorem Namespace.name_of_ofName? {s : String} {space : Namespace}
    (h : Namespace.ofName? s = some space) : space.name = s := by
  simpa using List.find?_some h

theorem reference_eq (r : Ref) (h : c.Spans r.chars d) (hd : Stops isAsciiNamePart d.rest) :
    reference start c = .ok (r.reference, d) := by
  obtain ⟨c₁, h₁, h⟩ := spans_append_iff.1 h
  obtain ⟨c₂, h₂, h⟩ := spans_append_iff.1 h
  obtain ⟨c₃, h₃, h⟩ := spans_append_iff.1 h
  obtain ⟨c₄, h₄, h⟩ := spans_cons_iff.1 h
  obtain ⟨c₅, h₅, h₆⟩ := spans_append_iff.1 h
  let space : Name := ⟨r.space.name.toList, r.space.isName⟩
  have hb₁ := skipBlanks_eq r.beforeSpace h₁ (space.stops_isBlank h₂)
  have hn₁ : name c₁ = (r.space.name, c₂) := by
    rw [name_eq space h₂ (h₃.stops_append _ (h₄.stops rfl)), String.ofList_toList]
    exact fun x hx => isAsciiNamePart_of_isBlank (r.beforeDot.blank x hx)
  have hne : r.space.name ≠ "" := by cases r.space <;> decide
  have hb₂ := skipBlanks_eq r.beforeDot h₃ (h₄.stops rfl)
  have hdot : c₃.startsWith "." = true := startsWith_iff.2 ⟨c₄, h₄⟩
  have hb₃ := skipBlanks_eq r.beforeProperty h₅ (r.property.stops_isBlank h₆)
  have hn₂ := name_eq r.property h₆ hd
  have hskip : c₃.skip 1 = c₄ := h₄.skip_eq
  simp only [reference, hb₁, hn₁, hne, ↓reduceIte, Namespace.ofName?_name, hb₂, hdot, hskip, hb₃, hn₂,
    r.property.ofList_ne_empty]
  rfl

/-- A reference that cannot be read from `c`, in the placeholder that opens at `start`. -/
inductive ReferenceBreaks (start : Nat) (c : Cursor) : Fault → Prop
  | space (b : Blanks) {d : Cursor} (h : c.Spans b.chars d) (hd : Stops isBlank d.rest)
      (hn : Stops isAsciiNameStart d.rest) : ReferenceBreaks start c (placeholderFault start .space d)
  | unknown (b : Blanks) (name : Name) {d e : Cursor} (h : c.Spans b.chars d)
      (hname : d.Spans name.chars e) (he : Stops isAsciiNamePart e.rest)
      (hs : Namespace.ofName? (String.ofList name.chars) = none) :
      ReferenceBreaks start c ⟨.unknownNamespace (String.ofList name.chars), d.pos⟩
  | dot (b₁ : Blanks) (s : Namespace) (b₂ : Blanks) {d : Cursor}
      (h : c.Spans (b₁.chars ++ (s.name.toList ++ b₂.chars)) d) (hd : Stops isBlank d.rest)
      (hdot : d.startsWith "." = false) : ReferenceBreaks start c (placeholderFault start .dot d)
  | property (b₁ : Blanks) (s : Namespace) (b₂ b₃ : Blanks) {d : Cursor}
      (h : c.Spans (b₁.chars ++ (s.name.toList ++ (b₂.chars ++ '.' :: b₃.chars))) d)
      (hd : Stops isBlank d.rest) (hn : Stops isAsciiNameStart d.rest) :
      ReferenceBreaks start c (placeholderFault start .property d)

/-- What reading a reference comes to. -/
theorem reference_cases (start : Nat) (c : Cursor) :
    (∃ f, ReferenceBreaks start c f ∧ reference start c = .error f) ∨
      ∃ (r : Ref) (d : Cursor), c.Spans r.chars d ∧ reference start c = .ok (r.reference, d) := by
  obtain ⟨b₁, h₁⟩ := exists_blanks c
  have hstop₁ : Stops isBlank c.skipBlanks.rest := stops_skipWhile isBlank c
  simp only [reference]
  by_cases hs : (name c.skipBlanks).1 = ""
  · obtain ⟨hstay, hstart⟩ := name_eq_empty hs
    exact .inl ⟨_, .space b₁ h₁ hstop₁ hstart, by rw [if_pos hs, hstay]⟩
  rw [if_neg hs]
  obtain ⟨n₁, hn₁, h₂⟩ := exists_name hs
  have hstop₂ := stops_name hs
  cases hspace : Namespace.ofName? (name c.skipBlanks).1 with
  | none =>
    rw [hn₁] at hspace ⊢
    exact .inl ⟨_, .unknown b₁ n₁ h₁ h₂ hstop₂ hspace, rfl⟩
  | some space =>
    have hname : space.name.toList = n₁.chars := by
      rw [Namespace.name_of_ofName? hspace, hn₁, String.toList_ofList]
    rw [← hname] at h₂
    obtain ⟨b₂, h₃⟩ := exists_blanks (name c.skipBlanks).2
    dsimp only
    by_cases hdot : (name c.skipBlanks).2.skipBlanks.startsWith "." = true
    · obtain ⟨c₄, h₄⟩ := startsWith_iff.1 hdot
      have hskip : (name c.skipBlanks).2.skipBlanks.skip 1 = c₄ := h₄.skip_eq
      rw [if_pos hdot, hskip]
      obtain ⟨b₃, h₅⟩ := exists_blanks c₄
      have hfront := h₁.trans (h₂.trans (h₃.trans (h₄.trans h₅)))
      by_cases hp : (name c₄.skipBlanks).1 = ""
      · obtain ⟨hstay, hstart⟩ := name_eq_empty hp
        refine .inl ⟨_, .property b₁ space b₂ b₃ hfront (stops_skipWhile isBlank c₄) hstart, ?_⟩
        rw [if_pos hp, hstay]
      · obtain ⟨n₂, hn₂, h₆⟩ := exists_name hp
        refine .inr ⟨⟨b₁, space, b₂, b₃, n₂⟩, _, ?_, by rw [if_neg hp, hn₂]; rfl⟩
        exact h₁.trans (h₂.trans (h₃.trans (h₄.trans (h₅.trans h₆))))
    · rw [if_neg hdot]
      refine .inl ⟨_, .dot b₁ space b₂ (h₁.trans (h₂.trans h₃)) (stops_skipWhile isBlank _) ?_, rfl⟩
      simpa using hdot

end StreamLabel
