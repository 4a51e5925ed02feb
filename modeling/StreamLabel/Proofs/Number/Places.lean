import StreamLabel.Number.Decimal
import StreamLabel.Proofs.Number.Whole

/-!
# Decimal places

A fixed number of places is written from the digits of a rounded whole number, the last of which stand
behind the point (`Decimal.ofList_fixed_two`). A number with two places is read back digit by digit
(`Decimal.read?_hundredths`), and its digits are those of the hundredths
(`Decimal.ofDigitValues_hundredths`).
-/

namespace StreamLabel

variable {n : Nat}

/-! ### Digits -/

theorem decimalDigits_of_lt (h : n < 10) : decimalDigits n = [n.digitChar] :=
  Nat.toDigits_of_lt_base h

theorem length_decimalDigits_mod (n : Nat) : (decimalDigits (n % 10)).length = 1 := by
  rw [decimalDigits_of_lt (Nat.mod_lt n (by decide))]
  rfl

theorem decimalDigits_eq_append (h : 10 ≤ n) :
    decimalDigits n = decimalDigits (n / 10) ++ decimalDigits (n % 10) := by
  rw [decimalDigits, Nat.toDigits_of_base_le (by decide) h,
    decimalDigits_of_lt (Nat.mod_lt n (by decide)), decimalDigits]

theorem padZeros_decimalDigits (width n : Nat) :
    padZeros (width + 2) (decimalDigits n) =
      padZeros (width + 1) (decimalDigits (n / 10)) ++ decimalDigits (n % 10) := by
  by_cases h : n < 10
  · rw [Nat.div_eq_of_lt h, Nat.mod_eq_of_lt h, decimalDigits_of_lt h]
    simp [padZeros, decimalDigits, List.replicate_succ']
  · rw [decimalDigits_eq_append (Nat.le_of_not_lt h), padZeros, padZeros, List.length_append,
      length_decimalDigits_mod, Nat.add_sub_add_right _ 1, List.append_assoc]

theorem padZeros_one (n : Nat) : padZeros 1 (decimalDigits n) = decimalDigits n := by
  have hpos : 1 ≤ (decimalDigits n).length := Nat.length_toDigits_pos
  rw [padZeros, Nat.sub_eq_zero_of_le hpos]
  rfl

theorem ofDigitValues_append (ds : List Nat) (d : Nat) :
    ofDigitValues (ds ++ [d]) = ofDigitValues ds * 10 + d := by
  rw [ofDigitValues, List.foldl_append]
  rfl

theorem digitValues_mod (n : Nat) :
    ((decimalDigits (n % 10)).map fun c => c.toNat - '0'.toNat) = [n % 10] := by
  obtain ⟨c, hc⟩ := List.length_eq_one_iff.1 (length_decimalDigits_mod n)
  have hvalue := ofDigitValues_toDigits (n % 10)
  rw [hc] at hvalue ⊢
  simpa [ofDigitValues] using hvalue

namespace Decimal

/-! ### Writing -/

/-- The text of `m / 100` with two decimal places. -/
def hundredths (m : Nat) : String :=
  toString (m / 100) ++ "." ++ toString (m / 10 % 10) ++ toString (m % 10)

theorem toList_hundredths (m : Nat) :
    (hundredths m).toList =
      decimalDigits (m / 100) ++ '.' :: (decimalDigits (m / 10 % 10) ++ decimalDigits (m % 10)) := by
  simp [hundredths, decimalDigits]

/-- The last two digits stand behind the point. -/
theorem ofList_fixed_two (num den : Nat) :
    String.ofList (fixed 2 num den) = hundredths (roundHalfEven (num * 100) den) := by
  rw [← String.toList_inj, String.toList_ofList, toList_hundredths]
  have hpow : num * Nat.pow 10 2 = num * 100 := rfl
  simp only [fixed, hpow]
  generalize roundHalfEven (num * 100) den = k
  have hdigits : padZeros 3 (decimalDigits k) =
      decimalDigits (k / 100) ++ (decimalDigits (k / 10 % 10) ++ decimalDigits (k % 10)) := by
    rw [padZeros_decimalDigits, padZeros_decimalDigits, padZeros_one, Nat.div_div_eq_div_mul,
      List.append_assoc]
  have hlength : (padZeros 3 (decimalDigits k)).length - 2 = (decimalDigits (k / 100)).length := by
    simp [hdigits, length_decimalDigits_mod]
  rw [hlength, hdigits, List.take_left, List.drop_left]
  rfl

theorem ofList_fixed_zero (num den : Nat) :
    String.ofList (fixed 0 num den) = toString (roundHalfEven num den) := by
  have hpow : num * Nat.pow 10 0 = num := Nat.mul_one num
  rw [← String.toList_inj, String.toList_ofList, fixed, hpow, padZeros_one]
  simp [decimalDigits]

/-! ### Reading -/

/-- Digits on both sides of a point are all taken. -/
theorem read?_of_point {whole places : List Char} (hne : whole ≠ [])
    (hwhole : ∀ c ∈ whole, c.isDigit = true) (hplaces : ∀ c ∈ places, c.isDigit = true) :
    Literal.read? (whole ++ '.' :: places) =
      some ⟨false, whole.map fun c => c.toNat - '0'.toNat,
        some (places.map fun c => c.toNat - '0'.toNat), none⟩ := by
  obtain ⟨d, ds, rfl⟩ := List.exists_cons_of_ne_nil hne
  have hpoint : takeDigits ('.' :: places) = ([], '.' :: places) := rfl
  rw [Literal.read?, List.cons_append, takeSign_cons_of_isDigit (hwhole d (List.mem_cons_self ..)),
    ← List.cons_append]
  dsimp only
  rw [takeDigits_append hwhole, hpoint, List.append_nil]
  change Literal.finish? false _ (some (takeDigits places).1) (takeDigits places).2 = _
  rw [takeDigits_eq hplaces]
  rfl

theorem read?_hundredths (m : Nat) :
    Literal.read? (hundredths m).toList =
      some ⟨false, (decimalDigits (m / 100)).map fun c => c.toNat - '0'.toNat,
        some [m / 10 % 10, m % 10], none⟩ := by
  have hdigit : ∀ n, ∀ c ∈ decimalDigits n, c.isDigit = true :=
    fun _ _ hc => isDigit_of_mem_decimalDigits hc
  have hread := read?_of_point (decimalDigits_ne_nil (m / 100)) (hdigit _)
    (List.forall_mem_append.2 ⟨hdigit (m / 10 % 10), hdigit (m % 10)⟩)
  rwa [← toList_hundredths, List.map_append, digitValues_mod, digitValues_mod] at hread

theorem ofDigitValues_hundredths (m : Nat) :
    ofDigitValues (((decimalDigits (m / 100)).map fun c => c.toNat - '0'.toNat) ++
      [m / 10 % 10, m % 10]) = m := by
  rw [← List.singleton_append, ← List.append_assoc, ofDigitValues_append, ofDigitValues_append,
    ofDigitValues_toDigits]
  omega

end Decimal

end StreamLabel
