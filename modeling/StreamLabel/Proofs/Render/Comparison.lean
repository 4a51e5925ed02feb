import StreamLabel.Proofs.Number.Float64
import StreamLabel.Proofs.Render.CanonicalText

/-!
# Comparisons

A value stands to an operand in one order, that of the exact numbers or that of the texts, or in none
(`Resolved.compare_cases`); only a number that is not written has no text to compare. Operands of one
kind share that order, so what is above the greater one is above the lesser one. An operand is read as
the number that it denotes if it is written as a whole number, and else as the nearest binary fraction
(`Literal.Reads`): two spellings of a number that is no binary fraction are told apart exactly when one
of them is whole (`comparisons_form_one_order`).
-/

namespace StreamLabel
open Unicode

/-! ### Operators -/

/-- The relation that an operator stands for. -/
def CompareOp.Rel {α : Type} [LE α] [LT α] : CompareOp → α → α → Prop
  | .ge, a, b => b ≤ a
  | .le, a, b => a ≤ b
  | .gt, a, b => b < a
  | .lt, a, b => a < b
  | .eq, a, b => a = b

theorem CompareOp.holds_iff {α : Type} [LinearOrder α] {a b : α} {hlt : Decidable (a < b)}
    {heq : DecidableEq α} (op : CompareOp) :
    op.holds (@compareOfLessAndEq α a b _ hlt heq) = true ↔ op.Rel a b := by
  unfold compareOfLessAndEq
  rcases lt_trichotomy a b with h | rfl | h
  · rw [if_pos h]
    cases op <;> simp [holds, Rel, h, h.le, h.not_gt, h.not_ge, h.ne]
  · rw [if_neg (lt_irrefl a), if_pos rfl]
    cases op <;> simp [holds, Rel]
  · rw [if_neg h.not_gt, if_neg h.ne']
    cases op <;> simp [holds, Rel, h, h.le, h.not_gt, h.not_ge, h.ne']

theorem CompareOp.exists_rel {α : Type} [LinearOrder α] (a b : α) :
    ∃ op ∈ [CompareOp.lt, .eq, .gt], op.Rel a b := by
  rcases lt_trichotomy a b with h | h | h
  · exact ⟨.lt, by simp, h⟩
  · exact ⟨.eq, by simp, h⟩
  · exact ⟨.gt, by simp, h⟩

theorem CompareOp.eq_of_rel {α : Type} [LinearOrder α] {a b : α} {op op' : CompareOp}
    (hop : op ∈ [CompareOp.lt, .eq, .gt]) (hop' : op' ∈ [CompareOp.lt, .eq, .gt]) (h : op.Rel a b)
    (h' : op'.Rel a b) : op = op' := by
  simp only [List.mem_cons, List.not_mem_nil, or_false] at hop hop'
  rcases hop with rfl | rfl | rfl <;> rcases hop' with rfl | rfl | rfl <;> simp only [Rel] at h h' <;>
    first | rfl | order

namespace Resolved

variable {v : Resolved} {o : String} {op : CompareOp}

/-- The comparison comes out true. -/
def Meets (v : Resolved) (op : CompareOp) (o : String) : Prop := v.compare op o = .ok true

/-- The comparison comes out: the operand is a number, or the value has a text. -/
def Comparable (v : Resolved) (o : String) : Prop :=
  (Number.read? o).isSome = true ∨ v.isWritable = true

instance (v : Resolved) (o : String) : Decidable (v.Comparable o) :=
  inferInstanceAs (Decidable (_ ∨ _))

theorem compare_of_comparable (h : v.Comparable o) (op : CompareOp) :
    v.compare op o = .ok (v.satisfies op o) := by
  rw [compare_eq, if_neg]
  rintro ⟨hwritable, hread⟩
  simp [Comparable, hwritable, hread] at h

theorem compare_of_not_comparable (h : ¬ v.Comparable o) (op : CompareOp) :
    v.compare op o = .error .tooManyDigits := by
  rw [compare_eq, if_pos]
  simpa [Comparable, and_comm] using h

theorem meets_iff (h : v.Comparable o) : v.Meets op o ↔ v.satisfies op o = true := by
  rw [Meets, compare_of_comparable h, Except.ok.injEq]

theorem Meets.comparable (h : v.Meets op o) : v.Comparable o := by
  by_contra hnot
  cases (compare_of_not_comparable hnot op).symm.trans h

theorem Meets.isAbsent_eq_false (h : v.Meets op o) : v.isAbsent = false := by
  rw [meets_iff h.comparable] at h
  cases v with
  | absent => exact absurd h Bool.false_ne_true
  | bool b | number m | text s => rfl

/-- Numbers are compared by their exact values. -/
theorem meets_iff_of_numbers {m n : Number} (hm : v.asNumber? = some m)
    (hn : Number.read? o = some n) : v.Meets op o ↔ op.Rel m.toRat n.toRat := by
  rw [meets_iff (.inl (by rw [hn]; rfl)), satisfies_eq, isAbsent_eq_false_of_asNumber? hm, hn, hm,
    ← CompareOp.holds_iff]
  rfl

/-- With any other operand it is the texts that are compared. -/
theorem meets_iff_of_texts (hv : v.isAbsent = false) (hw : v.isWritable = true)
    (ho : Number.read? o = none) : v.Meets op o ↔ op.Rel v.asText.toList o.toList := by
  rw [meets_iff (.inr hw), satisfies_eq, hv, ho, ← CompareOp.holds_iff]
  rfl

/-- The value fails every comparison with the operand. -/
def Unordered (v : Resolved) (o : String) : Prop := ∀ op, v.compare op o = .ok false

/-- The value is on one side of the operand, or the same, and every comparison comes out. -/
structure Ordered (v : Resolved) (o : String) : Prop where
  comparable : v.Comparable o
  one : ∃! op, op ∈ [CompareOp.lt, .eq, .gt] ∧ v.Meets op o
  ge_iff : v.Meets .ge o ↔ v.Meets .gt o ∨ v.Meets .eq o
  le_iff : v.Meets .le o ↔ v.Meets .lt o ∨ v.Meets .eq o

theorem ordered_of_rel {α : Type} [LinearOrder α] {a b : α} (hv : v.Comparable o)
    (h : ∀ op, v.Meets op o ↔ op.Rel a b) : v.Ordered o := by
  obtain ⟨op, hop, hrel⟩ := CompareOp.exists_rel a b
  refine ⟨hv, ⟨op, ⟨hop, (h op).2 hrel⟩, fun op' ⟨hop', hop'o⟩ => ?_⟩, ?_, ?_⟩
  · exact CompareOp.eq_of_rel hop' hop ((h op').1 hop'o) hrel
  · simp only [h, CompareOp.Rel]
    rw [le_iff_lt_or_eq, eq_comm]
  · simp only [h, CompareOp.Rel]
    exact le_iff_lt_or_eq

/-- What is absent, and what has no number where the operand is one. -/
def HasNoOrder (v : Resolved) (o : String) : Prop :=
  v.isAbsent = true ∨ (Number.read? o).isSome = true ∧ v.asNumber? = none

theorem HasNoOrder.unordered (h : v.HasNoOrder o) : v.Unordered o := by
  intro op
  rcases h with hv | ⟨ho, hv⟩
  · have hwritable : v.isWritable = true := by
      cases v with
      | absent => rfl
      | bool b | number m | text s => cases hv
    rw [compare_of_comparable (.inr hwritable), satisfies_eq, hv]
    rfl
  · obtain ⟨n, hn⟩ := Option.isSome_iff_exists.1 ho
    rw [compare_of_comparable (.inl ho), satisfies_eq, hn, hv]
    simp

theorem compare_cases (v : Resolved) (o : String) :
    (v.HasNoOrder o → v.Unordered o) ∧
    (¬ v.HasNoOrder o → v.Comparable o → v.Ordered o) ∧
    (¬ v.Comparable o → ∀ op, v.compare op o = .error .tooManyDigits) := by
  refine ⟨HasNoOrder.unordered, fun hv hcomparable => ?_, compare_of_not_comparable⟩
  rw [HasNoOrder, not_or, Bool.not_eq_true] at hv
  cases ho : Number.read? o with
  | none =>
    have hw : v.isWritable = true := hcomparable.resolve_left (by simp [ho])
    exact ordered_of_rel hcomparable fun op => meets_iff_of_texts hv.1 hw ho
  | some n =>
    have hsome : v.asNumber? ≠ none := fun hm => hv.2 ⟨by rw [ho]; rfl, hm⟩
    obtain ⟨m, hm⟩ := Option.ne_none_iff_exists'.1 hsome
    exact ordered_of_rel hcomparable fun op => meets_iff_of_numbers hm ho

end Resolved

/-! ### Literals -/

/-- A finite binary fraction. -/
def Representable (q : ℚ) : Prop := ∃ x : Finite64, x.InRange ∧ x.toRat = q

theorem Representable.rounds {q : ℚ} (h : Representable q) : Float64.Rounds q q := by
  obtain ⟨x, hx, rfl⟩ := h
  exact Float64.rounds_toRat hx

namespace Literal

variable {l l₁ l₂ : Literal} {n n₁ n₂ : Number}

/-- The digits after the point. -/
def places (l : Literal) : List ℕ := l.fraction.getD []

/-- The number that is written. -/
def toRat (l : Literal) : ℚ :=
  let q : ℚ := ofDigitValues (l.whole ++ l.places) * 10 ^ (l.power.getD 0 - l.places.length)
  if l.negative then -q else q

/-- A whole number of no more digits than may be written. -/
def IsExact (l : Literal) : Prop := l.isWhole = true ∧ l.whole.length ≤ digitLimit

/-- What a literal is read as. -/
inductive Reads (l : Literal) : Number → Prop
  | exact (h : l.IsExact) : Reads l (.int l.toInt)
  | nearest {x : Finite64} (h : ¬ l.IsExact) (hx : x.InRange) (hr : Float64.Rounds l.toRat x.toRat) :
    Reads l (.float x)

theorem toRat_of_isWhole (h : l.isWhole = true) : l.toRat = l.toInt := by
  obtain ⟨negative, whole, fraction, power⟩ := l
  simp only [isWhole, Bool.and_eq_true, Option.isNone_iff_eq_none] at h
  obtain ⟨rfl, rfl⟩ := h
  cases negative <;> simp [toRat, places, toInt, signed]

theorem Reads.toRat_eq_of_isExact (h : l.Reads n) (hl : l.IsExact) : n.toRat = l.toRat := by
  cases h with
  | exact h => exact (toRat_of_isWhole h.1).symm
  | nearest h hx hr => exact absurd hl h

theorem Reads.rounds_of_not_isExact (h : l.Reads n) (hl : ¬ l.IsExact) :
    Float64.Rounds l.toRat n.toRat ∧ Representable n.toRat := by
  cases h with
  | exact h => exact absurd h hl
  | nearest h hx hr => exact ⟨hr, _, hx, rfl⟩

/-- Numbers that are exact or representable are read as they are. -/
theorem Reads.toRat_eq (h : l.Reads n) (hl : l.IsExact ∨ Representable l.toRat) :
    n.toRat = l.toRat := by
  by_cases he : l.IsExact
  · exact h.toRat_eq_of_isExact he
  · obtain ⟨hr, -⟩ := h.rounds_of_not_isExact he
    have hself := (hl.resolve_left he).rounds
    exact le_antisymm (hr.mono hself le_rfl) (hself.mono hr le_rfl)

/-- Larger numbers are not read as smaller ones, unless one of them is rounded and the other is exact
and no binary fraction. -/
theorem Reads.mono (h₁ : l₁.Reads n₁) (h₂ : l₂.Reads n₂) (hle : l₁.toRat ≤ l₂.toRat)
    (h : (l₁.IsExact ↔ l₂.IsExact) ∨ Representable l₁.toRat ∨ Representable l₂.toRat) :
    n₁.toRat ≤ n₂.toRat := by
  rcases h with h | h | h
  · by_cases he : l₁.IsExact
    · rw [h₁.toRat_eq_of_isExact he, h₂.toRat_eq_of_isExact (h.1 he)]
      exact hle
    · obtain ⟨hr₁, -⟩ := h₁.rounds_of_not_isExact he
      obtain ⟨hr₂, -⟩ := h₂.rounds_of_not_isExact (h.not.1 he)
      exact hr₁.mono hr₂ hle
  · rw [h₁.toRat_eq (.inr h)]
    by_cases he : l₂.IsExact
    · rw [h₂.toRat_eq_of_isExact he]
      exact hle
    · exact h.rounds.mono (h₂.rounds_of_not_isExact he).1 hle
  · rw [h₂.toRat_eq (.inr h)]
    by_cases he : l₁.IsExact
    · rw [h₁.toRat_eq_of_isExact he]
      exact hle
    · exact (h₁.rounds_of_not_isExact he).1.mono h.rounds hle

end Literal

/-- The operand is a number, written as `l`. -/
structure IsNumeral (o : String) (l : Literal) : Prop where
  read : Literal.read? (strip o.toList) = some l
  isSome : (Number.read? o).isSome = true

theorem exists_isNumeral {o : String} {n : Number} (h : Number.read? o = some n) :
    ∃ l, IsNumeral o l ∧ l.Reads n := by
  have hsome : (Number.read? o).isSome = true := by rw [h]; rfl
  rw [Number.read?] at h
  cases hl : Literal.read? (strip o.toList) with
  | none => simp [hl] at h
  | some l =>
    rw [hl] at h
    refine ⟨l, ⟨hl, hsome⟩, ?_⟩
    dsimp only at h
    split at h
    · rename_i he
      obtain rfl := Option.some.inj h
      exact .exact he
    · rename_i he
      cases hx : l.toFloat64 with
      | infinity negative | nan negative => simp [hx] at h
      | finite x =>
        rw [hx] at h
        obtain rfl := Option.some.inj h
        obtain ⟨hrange, hr⟩ := Float64.rounds_of_ofDecimal_eq_finite hx
        exact .nearest he hrange hr

theorem IsNumeral.exists_reads {o : String} {l : Literal} (h : IsNumeral o l) :
    ∃ n, Number.read? o = some n ∧ l.Reads n := by
  obtain ⟨n, hn⟩ := Option.isSome_iff_exists.1 h.isSome
  obtain ⟨l', hl', hreads⟩ := exists_isNumeral hn
  obtain rfl := Option.some.inj (h.read.symm.trans hl'.read)
  exact ⟨n, hn, hreads⟩

/-! ### Operands of one kind -/

/-- What is above the second operand is above the first, and what is below the first is below the
second. -/
structure Below (o₁ o₂ : String) : Prop where
  gt : ∀ v : Resolved, v.Meets .gt o₂ → v.Meets .gt o₁
  lt : ∀ v : Resolved, v.Meets .lt o₁ → v.Meets .lt o₂

/-- No comparison tells the operands apart. -/
def SameOperand (o₁ o₂ : String) : Prop :=
  ∀ (v : Resolved) (op : CompareOp), v.compare op o₁ = v.compare op o₂

variable {o o₁ o₂ : String} {l l₁ l₂ : Literal} {n n₁ n₂ : Number}

theorem Resolved.Meets.exists_number {v : Resolved} {op : CompareOp} (h : v.Meets op o)
    (ho : Number.read? o = some n) : ∃ m, v.asNumber? = some m ∧ op.Rel m.toRat n.toRat := by
  cases hm : v.asNumber? with
  | some m => exact ⟨m, rfl, (meets_iff_of_numbers hm ho).1 h⟩
  | none =>
    have hnone : v.HasNoOrder o := .inr ⟨by rw [ho]; rfl, hm⟩
    cases (hnone.unordered op).symm.trans h

theorem below_of_numbers (h₁ : Number.read? o₁ = some n₁) (h₂ : Number.read? o₂ = some n₂)
    (hle : n₁.toRat ≤ n₂.toRat) : Below o₁ o₂ := by
  refine ⟨fun v hv => ?_, fun v hv => ?_⟩
  · obtain ⟨m, hm, hrel⟩ := hv.exists_number h₂
    exact (Resolved.meets_iff_of_numbers hm h₁).2 (lt_of_le_of_lt hle hrel)
  · obtain ⟨m, hm, hrel⟩ := hv.exists_number h₁
    exact (Resolved.meets_iff_of_numbers hm h₂).2 (lt_of_lt_of_le hrel hle)

theorem below_of_texts (h₁ : Number.read? o₁ = none) (h₂ : Number.read? o₂ = none)
    (hle : o₁.toList ≤ o₂.toList) : Below o₁ o₂ := by
  refine ⟨fun v hv => ?_, fun v hv => ?_⟩
  · have hpresent := hv.isAbsent_eq_false
    have hw : v.isWritable = true := hv.comparable.resolve_left (by simp [h₂])
    rw [Resolved.meets_iff_of_texts hpresent hw h₂] at hv
    exact (Resolved.meets_iff_of_texts hpresent hw h₁).2 (lt_of_le_of_lt hle hv)
  · have hpresent := hv.isAbsent_eq_false
    have hw : v.isWritable = true := hv.comparable.resolve_left (by simp [h₁])
    rw [Resolved.meets_iff_of_texts hpresent hw h₁] at hv
    exact (Resolved.meets_iff_of_texts hpresent hw h₂).2 (lt_of_lt_of_le hv hle)

theorem sameOperand_iff (h₁ : Number.read? o₁ = some n₁) (h₂ : Number.read? o₂ = some n₂) :
    SameOperand o₁ o₂ ↔ n₁.toRat = n₂.toRat := by
  constructor
  · intro h
    have hself : (Resolved.number n₁).Meets .eq o₁ :=
      (Resolved.meets_iff_of_numbers rfl h₁).2 rfl
    rw [Resolved.Meets, h] at hself
    exact (Resolved.meets_iff_of_numbers rfl h₂).1 hself
  · intro heq v op
    have hmeets : v.Meets op o₁ ↔ v.Meets op o₂ := by
      constructor
      · intro h
        obtain ⟨m, hm, hrel⟩ := h.exists_number h₁
        exact (Resolved.meets_iff_of_numbers hm h₂).2 (heq ▸ hrel)
      · intro h
        obtain ⟨m, hm, hrel⟩ := h.exists_number h₂
        exact (Resolved.meets_iff_of_numbers hm h₁).2 (heq ▸ hrel)
    have hc₁ : v.Comparable o₁ := .inl (by rw [h₁]; rfl)
    have hc₂ : v.Comparable o₂ := .inl (by rw [h₂]; rfl)
    rw [Resolved.meets_iff hc₁, Resolved.meets_iff hc₂, ← Bool.eq_iff_iff] at hmeets
    rw [Resolved.compare_of_comparable hc₁, Resolved.compare_of_comparable hc₂, hmeets]

/-- Two spellings of a number are the same operand if both are exact, if both are rounded, or if there
is nothing to round, and only then. -/
theorem sameOperand_iff_of_spellings (h₁ : IsNumeral o₁ l₁) (h₂ : IsNumeral o₂ l₂)
    (heq : l₁.toRat = l₂.toRat) :
    SameOperand o₁ o₂ ↔ ((l₁.IsExact ↔ l₂.IsExact) ∨ Representable l₁.toRat) := by
  obtain ⟨n₁, hn₁, hr₁⟩ := h₁.exists_reads
  obtain ⟨n₂, hn₂, hr₂⟩ := h₂.exists_reads
  rw [sameOperand_iff hn₁ hn₂]
  constructor
  · intro hn
    by_cases he₁ : l₁.IsExact <;> by_cases he₂ : l₂.IsExact
    · exact .inl (iff_of_true he₁ he₂)
    · right
      rw [← hr₁.toRat_eq_of_isExact he₁, hn]
      exact (hr₂.rounds_of_not_isExact he₂).2
    · right
      rw [heq, ← hr₂.toRat_eq_of_isExact he₂, ← hn]
      exact (hr₁.rounds_of_not_isExact he₁).2
    · exact .inl (iff_of_false he₁ he₂)
  · rintro (he | hrep)
    · exact le_antisymm (hr₁.mono hr₂ heq.le (.inl he)) (hr₂.mono hr₁ heq.ge (.inl he.symm))
    · rw [hr₁.toRat_eq (.inr hrep), hr₂.toRat_eq (.inr (heq ▸ hrep)), heq]

theorem below_of_spellings (h₁ : IsNumeral o₁ l₁) (h₂ : IsNumeral o₂ l₂) (hle : l₁.toRat ≤ l₂.toRat)
    (h : (l₁.IsExact ↔ l₂.IsExact) ∨ Representable l₁.toRat ∨ Representable l₂.toRat) :
    Below o₁ o₂ := by
  obtain ⟨n₁, hn₁, hr₁⟩ := h₁.exists_reads
  obtain ⟨n₂, hn₂, hr₂⟩ := h₂.exists_reads
  exact below_of_numbers hn₁ hn₂ (hr₁.mono hr₂ hle h)

/-- A value and an operand stand in one order or in none, and numbers in that of their exact values;
only where a number that is not written is compared with a text, no comparison comes out. Operands
follow one another in the order of the numbers that they are read as, or in that of their texts. Two
spellings of one number are the same operand unless just one of them is read exactly and the number is
no binary fraction; and so are spellings of two numbers in their order. -/
theorem comparisons_form_one_order :
    (∀ (v : Resolved) (o : String),
      (v.HasNoOrder o → v.Unordered o) ∧
      (¬ v.HasNoOrder o → v.Comparable o → v.Ordered o) ∧
      (¬ v.Comparable o → ∀ op, v.compare op o = .error .tooManyDigits)) ∧
    (∀ (v : Resolved) (op : CompareOp) (o : String) (m n : Number), v.asNumber? = some m →
      Number.read? o = some n → (v.Meets op o ↔ op.Rel m.toRat n.toRat)) ∧
    (∀ (o : String) (n : Number), Number.read? o = some n → ∃ l, IsNumeral o l ∧ l.Reads n) ∧
    (∀ (o₁ o₂ : String) (l₁ l₂ : Literal), IsNumeral o₁ l₁ → IsNumeral o₂ l₂ →
      (l₁.toRat = l₂.toRat →
        (SameOperand o₁ o₂ ↔ ((l₁.IsExact ↔ l₂.IsExact) ∨ Representable l₁.toRat))) ∧
      (l₁.toRat ≤ l₂.toRat →
        (l₁.IsExact ↔ l₂.IsExact) ∨ Representable l₁.toRat ∨ Representable l₂.toRat →
          Below o₁ o₂)) ∧
    (∀ (o₁ o₂ : String) (n₁ n₂ : Number), Number.read? o₁ = some n₁ → Number.read? o₂ = some n₂ →
      n₁.toRat ≤ n₂.toRat → Below o₁ o₂) ∧
    (∀ o₁ o₂ : String, Number.read? o₁ = none → Number.read? o₂ = none →
      o₁.toList ≤ o₂.toList → Below o₁ o₂) :=
  ⟨Resolved.compare_cases, fun _ _ _ _ _ => Resolved.meets_iff_of_numbers,
    fun _ _ => exists_isNumeral,
    fun _ _ _ _ h₁ h₂ => ⟨sameOperand_iff_of_spellings h₁ h₂, below_of_spellings h₁ h₂⟩,
    fun _ _ _ _ => below_of_numbers, fun _ _ => below_of_texts⟩

/-- Spellings of three quarters, and texts that are no numbers. -/
theorem comparisons_form_one_order_spelled :
    let o₁ := " +007.50e-1"
    let o₂ := "0.75\n"
    let l₁ : Literal := ⟨false, [0, 0, 7], some [5, 0], some (-1)⟩
    let l₂ : Literal := ⟨false, [0], some [7, 5], none⟩
    let v : Resolved := .text "0075e-2"
    IsNumeral o₁ l₁ ∧ IsNumeral o₂ l₂ ∧ l₁.toRat = l₂.toRat ∧ SameOperand o₁ o₂ ∧ Below o₁ o₂ ∧
      v.Meets .eq o₁ ∧ ¬ v.HasNoOrder "1e400" ∧ v.Comparable "1e400" ∧ v.Ordered "1e400" ∧
      Below "1e400" "nan" ∧ Below "0.75" "1" := by
  intro o₁ o₂ l₁ l₂ v
  have h₁ : IsNumeral o₁ l₁ := ⟨by decide +kernel, by decide +kernel⟩
  have h₂ : IsNumeral o₂ l₂ := ⟨by decide +kernel, by decide +kernel⟩
  have heq : l₁.toRat = l₂.toRat := by
    norm_num [l₁, l₂, Literal.toRat, Literal.places, ofDigitValues]
  have hkind : l₁.IsExact ↔ l₂.IsExact :=
    iff_of_false (fun h => Bool.false_ne_true h.1) fun h => Bool.false_ne_true h.1
  have hv : v.asNumber? = some (.float ⟨false, 3 * 2 ^ 51, -53⟩) := by decide +kernel
  have ho : Number.read? o₁ = some (.float ⟨false, 3 * 2 ^ 51, -53⟩) := by decide +kernel
  have hfraction : Number.read? "0.75" = some (.float ⟨false, 3 * 2 ^ 51, -53⟩) := by decide +kernel
  have hone : Number.read? "1" = some (.int 1) := by decide +kernel
  have hlarge : Number.read? "1e400" = none := by decide +kernel
  have hword : Number.read? "nan" = none := by decide +kernel
  have hcomparable : v.Comparable "1e400" := .inr rfl
  have horder : ¬ v.HasNoOrder "1e400" := by
    rintro (habsent | ⟨hsome, -⟩)
    · exact Bool.false_ne_true habsent
    · simp [hlarge] at hsome
  obtain ⟨hcases, hnumbers, -, hspellings, hread, htexts⟩ := comparisons_form_one_order
  obtain ⟨hsame, hbelow⟩ := hspellings o₁ o₂ l₁ l₂ h₁ h₂
  exact ⟨h₁, h₂, heq, (hsame heq).2 (.inl hkind), hbelow heq.le (.inl hkind),
    (hnumbers v .eq o₁ _ _ hv ho).2 rfl, horder, hcomparable,
    (hcases v "1e400").2.1 horder hcomparable, htexts _ _ hlarge hword (by decide),
    hread _ _ _ _ hfraction hone (by decide +kernel)⟩

/-- A whole number is read exactly, and the same number with a point as the nearest binary fraction,
which may be another one. -/
theorem exists_spellings_not_same :
    ¬ ∀ (o₁ o₂ : String) (l₁ l₂ : Literal), IsNumeral o₁ l₁ → IsNumeral o₂ l₂ →
      l₁.toRat = l₂.toRat → ∀ (v : Resolved) (op : CompareOp), v.compare op o₁ = v.compare op o₂ := by
  intro h
  let whole : List ℕ := [9, 0, 0, 7, 1, 9, 9, 2, 5, 4, 7, 4, 0, 9, 9, 3]
  have h₁ : IsNumeral "9007199254740993" ⟨false, whole, none, none⟩ :=
    ⟨by decide +kernel, by decide +kernel⟩
  have h₂ : IsNumeral "9007199254740993.0" ⟨false, whole, some [0], none⟩ :=
    ⟨by decide +kernel, by decide +kernel⟩
  have heq : Literal.toRat ⟨false, whole, none, none⟩ =
      Literal.toRat ⟨false, whole, some [0], none⟩ := by
    norm_num [whole, Literal.toRat, Literal.places, ofDigitValues]
  let v : Resolved := .number (.int 9007199254740993)
  have htrue : v.satisfies .eq "9007199254740993" = true := by decide +kernel
  have hfalse : v.satisfies .eq "9007199254740993.0" = false := by decide +kernel
  have hresults := h _ _ _ _ h₁ h₂ heq v .eq
  rw [Resolved.compare_of_comparable (.inl h₁.isSome), htrue,
    Resolved.compare_of_comparable (.inl h₂.isSome), hfalse, Except.ok.injEq] at hresults
  exact absurd hresults.symm Bool.false_ne_true

end StreamLabel
