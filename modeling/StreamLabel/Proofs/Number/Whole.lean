import StreamLabel.Number.Literal
import StreamLabel.Proofs.Template.Span

/-!
# Whole numbers are read back

The text of a whole number is a sign, if it is negative, and its digits. As long as there are no more
digits than a literal may have, the literal is whole and has the number as its value (`read?_toString`).
-/

namespace StreamLabel
open Unicode

theorem digitValue?_of_isDigit {c : Char} (h : c.isDigit = true) :
    digitValue? c = some (c.toNat - '0'.toNat) := by
  have hc : '0' ≤ c ∧ c ≤ '9' := by simpa [Char.isDigit, Char.le_def] using h
  rw [digitValue?, if_pos hc]

theorem isBlank_of_isDigit {c : Char} (h : c.isDigit = true) : isBlank c = false := by
  have hc := Char.isDigit_iff_toNat.1 h
  simp only [Char.reduceToNat] at hc
  simp only [isBlank, Bool.or_eq_false_iff, Bool.and_eq_false_iff, decide_eq_false_iff_not,
    beq_eq_false_iff_ne]
  omega

/-- Digits are taken before what follows them. -/
theorem takeDigits_append {ds : List Char} (h : ∀ d ∈ ds, d.isDigit = true) (cs : List Char) :
    takeDigits (ds ++ cs) =
      ((ds.map fun d => d.toNat - '0'.toNat) ++ (takeDigits cs).1, (takeDigits cs).2) := by
  induction ds with
  | nil => rfl
  | cons d ds ih =>
    rw [List.cons_append, takeDigits, digitValue?_of_isDigit (h d (List.mem_cons_self ..)),
      ih fun c hc => h c (List.mem_cons_of_mem _ hc)]
    rfl

/-- Digits are taken to the end. -/
theorem takeDigits_eq {cs : List Char} (h : ∀ c ∈ cs, c.isDigit = true) :
    takeDigits cs = (cs.map fun c => c.toNat - '0'.toNat, []) := by
  simpa [takeDigits] using takeDigits_append h []

theorem ofDigitValues_toDigits (n : Nat) :
    ofDigitValues ((decimalDigits n).map fun c => c.toNat - '0'.toNat) = n := by
  have hdigits := Nat.ofDigitChars_ten_toDigits (n := n)
  rw [Nat.ofDigitChars_eq_foldl] at hdigits
  rw [ofDigitValues, List.foldl_map, decimalDigits]
  simpa only [Nat.mul_comm] using hdigits

theorem isDigit_of_mem_decimalDigits {n : Nat} {c : Char} (h : c ∈ decimalDigits n) :
    c.isDigit = true :=
  Nat.isDigit_of_mem_toDigits (by decide) (by decide) h

theorem decimalDigits_ne_nil (n : Nat) : decimalDigits n ≠ [] := Nat.toDigits_ne_nil

/-- A digit is no sign. -/
theorem takeSign_cons_of_isDigit {d : Char} {cs : List Char} (h : d.isDigit = true) :
    takeSign (d :: cs) = (false, d :: cs) := by
  unfold takeSign
  split
  · rename_i hcons
    obtain rfl := (List.cons.inj hcons).1
    exact absurd h (by decide)
  · rename_i hcons
    obtain rfl := (List.cons.inj hcons).1
    exact absurd h (by decide)
  · rfl

theorem takeSign_of_isDigit {cs : List Char} (h : ∀ c ∈ cs, c.isDigit = true) :
    takeSign cs = (false, cs) := by
  cases cs with
  | nil => rfl
  | cons d ds => exact takeSign_cons_of_isDigit (h d (List.mem_cons_self ..))

/-- Digits behind a sign, and nothing else, are a whole literal. -/
theorem Literal.read?_of_isDigit {cs ds : List Char} {negative : Bool}
    (hsign : takeSign cs = (negative, ds)) (hds : ∀ c ∈ ds, c.isDigit = true) (hne : ds ≠ []) :
    Literal.read? cs = some ⟨negative, ds.map fun c => c.toNat - '0'.toNat, none, none⟩ := by
  obtain ⟨d, ds, rfl⟩ := List.exists_cons_of_ne_nil hne
  rw [Literal.read?, hsign]
  dsimp only
  rw [takeDigits_eq hds]
  rfl

theorem toList_toString_of_nonneg (n : Nat) : (toString (n : Int)).toList = decimalDigits n :=
  Nat.toList_repr

theorem toList_toString_of_neg (n : Nat) :
    (toString (Int.negSucc n)).toList = '-' :: decimalDigits (n + 1) := by
  have hrepr : toString (Int.negSucc n) = "-" ++ (n + 1).repr := rfl
  rw [hrepr, String.toList_append, Nat.toList_repr]
  rfl

/-- No end of a number's text is blank. -/
theorem strip_toString (n : Int) : strip (toString n).toList = (toString n).toList := by
  have hblank : ∀ c ∈ (toString n).toList, isBlank c = false := by
    intro c hc
    cases n with
    | ofNat n =>
      rw [Int.ofNat_eq_natCast, toList_toString_of_nonneg] at hc
      exact isBlank_of_isDigit (isDigit_of_mem_decimalDigits hc)
    | negSucc n =>
      rw [toList_toString_of_neg] at hc
      rcases List.mem_cons.1 hc with rfl | hc
      · decide
      · exact isBlank_of_isDigit (isDigit_of_mem_decimalDigits hc)
  have hstops : ∀ cs : List Char, (∀ c ∈ cs, c ∈ (toString n).toList) → Stops isBlank cs :=
    fun cs hcs c hc => hblank c (hcs c (List.mem_of_mem_head? hc))
  rw [strip, stripBy, stripRight, (hstops _ fun c hc => hc).dropWhile_eq,
    (hstops _ fun c hc => List.mem_reverse.1 hc).dropWhile_eq, List.reverse_reverse]

theorem Literal.read?_toString (n : Int) :
    ∃ l, Literal.read? (toString n).toList = some l ∧ l.isWhole = true ∧ l.toInt = n ∧
      l.whole.length = (decimalDigits n.natAbs).length := by
  cases n with
  | ofNat n =>
    have hds := fun c => isDigit_of_mem_decimalDigits (n := n) (c := c)
    rw [Int.ofNat_eq_natCast, toList_toString_of_nonneg]
    refine ⟨_, read?_of_isDigit (takeSign_of_isDigit hds) hds (decimalDigits_ne_nil n), rfl, ?_, ?_⟩
    · rw [toInt, ofDigitValues_toDigits]
      rfl
    · rw [List.length_map, Int.natAbs_natCast]
  | negSucc n =>
    have hds := fun c => isDigit_of_mem_decimalDigits (n := n + 1) (c := c)
    rw [toList_toString_of_neg]
    refine ⟨_, read?_of_isDigit (by rfl) hds (decimalDigits_ne_nil _), rfl, ?_, ?_⟩
    · rw [toInt, ofDigitValues_toDigits]
      rfl
    · rw [List.length_map, Int.natAbs_negSucc]

theorem Number.read?_toString {n : Int} (h : (decimalDigits n.natAbs).length ≤ digitLimit) :
    Number.read? (toString n) = some (.int n) := by
  obtain ⟨l, hread, hwhole, hvalue, hlength⟩ := Literal.read?_toString n
  rw [← hlength] at h
  rw [Number.read?, strip_toString, hread]
  dsimp only
  rw [if_pos ⟨hwhole, h⟩, hvalue]

end StreamLabel
