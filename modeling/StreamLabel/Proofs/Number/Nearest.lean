import StreamLabel.Number.Rounding
import Mathlib

/-!
# Rounding to binary places

A positive number is rounded to a whole multiple of a power of two, the place of its last digit, which
depends on the number alone (`place`). So larger numbers are not rounded to smaller ones
(`RoundsTo.mono`), a number that has few enough digits stays as it is (`roundsTo_self`), and whether a
number is rounded beyond the finite range can be told beforehand (`RoundsTo.lt_iff`).
-/

namespace StreamLabel

/-! ### Whole numbers -/

/-- `m` is a whole number nearest to `q`, and of two such numbers the even one. -/
structure IsNearest (q : ℚ) (m : ℕ) : Prop where
  near : |q - m| ≤ 1 / 2
  even_of_tie : |q - m| = 1 / 2 → m % 2 = 0

namespace IsNearest

theorem natCast (m : ℕ) : IsNearest m m := ⟨by norm_num, by norm_num⟩

theorem mono {q q' : ℚ} {m m' : ℕ} (h : IsNearest q m) (h' : IsNearest q' m') (hq : q ≤ q') :
    m ≤ m' := by
  by_contra hlt
  have hle : (m' : ℚ) + 1 ≤ m := by exact_mod_cast Nat.lt_of_not_le hlt
  have hm := (abs_le.1 h.near).1
  have hm' := (abs_le.1 h'.near).2
  -- both numbers are halfway between two neighbours, and no two neighbours are even
  have htie : |q - m| = 1 / 2 := by
    rw [abs_of_nonpos (by linarith)]
    linarith
  have htie' : |q' - m'| = 1 / 2 := by
    rw [abs_of_nonneg (by linarith)]
    linarith
  have hsucc : m = m' + 1 := by
    have : (m : ℚ) = m' + 1 := by linarith
    exact_mod_cast this
  have := h.even_of_tie htie
  have := h'.even_of_tie htie'
  omega

theorem unique {q : ℚ} {m m' : ℕ} (h : IsNearest q m) (h' : IsNearest q m') : m = m' :=
  le_antisymm (h.mono h' le_rfl) (h'.mono h le_rfl)

theorem of_le {m : ℕ} {r : ℚ} (hr : 0 ≤ r) (h : r < 1 / 2 ∨ r = 1 / 2 ∧ m % 2 = 0) :
    IsNearest (m + r) m := by
  have habs : |(m : ℚ) + r - m| = r := by rw [add_sub_cancel_left, abs_of_nonneg hr]
  refine ⟨?_, ?_⟩ <;> rw [habs]
  · exact h.elim le_of_lt fun h => h.1.le
  · exact fun htie => (h.resolve_left htie.not_lt).2

theorem of_ge {m : ℕ} {r : ℚ} (hr : r ≤ 1) (h : 1 / 2 < r ∨ r = 1 / 2 ∧ (m + 1) % 2 = 0) :
    IsNearest (m + r) (m + 1 : ℕ) := by
  have habs : |(m : ℚ) + r - (m + 1 : ℕ)| = 1 - r := by
    rw [Nat.cast_succ, add_sub_add_left_eq_sub, abs_sub_comm, abs_of_nonneg (sub_nonneg.2 hr)]
  refine ⟨?_, ?_⟩ <;> rw [habs]
  · rcases h with h | ⟨rfl, -⟩ <;> linarith
  · exact fun htie => (h.resolve_left (by linarith)).2

end IsNearest

theorem isNearest_roundHalfEven (num : ℕ) {den : ℕ} (hden : 0 < den) :
    IsNearest (num / den) (roundHalfEven num den) := by
  have hden' : (0 : ℚ) < den := by exact_mod_cast hden
  have hdiv : (num : ℚ) / den = (num / den : ℕ) + (num % den : ℕ) / den := by
    have hnum : (num : ℚ) = den * (num / den : ℕ) + (num % den : ℕ) := by
      exact_mod_cast (Nat.div_add_mod num den).symm
    rw [div_eq_iff hden'.ne', add_mul, div_mul_cancel₀ _ hden'.ne', mul_comm, ← hnum]
  have hnonneg : (0 : ℚ) ≤ ((num % den : ℕ) : ℚ) / den := by positivity
  have hle : ((num % den : ℕ) : ℚ) / den ≤ 1 :=
    (div_le_one hden').2 (by exact_mod_cast (Nat.mod_lt num hden).le)
  have hbelow : 2 * (num % den) < den ↔ ((num % den : ℕ) : ℚ) / den < 1 / 2 := by
    rw [div_lt_div_iff₀ hden' two_pos, one_mul, mul_comm]
    exact_mod_cast Iff.rfl
  have habove : den < 2 * (num % den) ↔ (1 : ℚ) / 2 < ((num % den : ℕ) : ℚ) / den := by
    rw [div_lt_div_iff₀ two_pos hden', one_mul, mul_comm]
    exact_mod_cast Iff.rfl
  rw [hdiv]
  unfold roundHalfEven
  dsimp only
  split_ifs with hlow hhigh heven
  · exact .of_le hnonneg (.inl (hbelow.1 hlow))
  · exact .of_ge hle (.inl (habove.1 hhigh))
  · have htie := le_antisymm (not_lt.1 (habove.not.1 hhigh)) (not_lt.1 (hbelow.not.1 hlow))
    exact .of_le hnonneg (.inr ⟨htie, heven⟩)
  · have htie := le_antisymm (not_lt.1 (habove.not.1 hhigh)) (not_lt.1 (hbelow.not.1 hlow))
    exact .of_ge hle (.inr ⟨htie, by omega⟩)

/-! ### Places -/

namespace Float64

/-- The power of two that the last digit of a positive number counts. -/
def place (q : ℚ) : ℤ := max (Int.log 2 q - 52) (-1074)

/-- A positive number `q` is rounded to `v`, if `v` is not too large. -/
def RoundsTo (q v : ℚ) : Prop := ∃ m : ℕ, IsNearest (q / 2 ^ place q) m ∧ v = m * 2 ^ place q

theorem two_zpow_pos (e : ℤ) : (0 : ℚ) < 2 ^ e := zpow_pos two_pos e

theorem neg_le_place (q : ℚ) : -1074 ≤ place q := le_max_right ..

theorem place_mono {q q' : ℚ} (hq : 0 < q) (hle : q ≤ q') : place q ≤ place q' := by
  have hlog := Int.log_mono_right (b := 2) hq hle
  simp only [place]
  omega

theorem lt_two_zpow_place (q : ℚ) : q < 2 ^ (53 + place q) := by
  have hlog := Int.lt_zpow_succ_log_self (b := 2) (by decide) q
  refine lt_of_lt_of_le (by exact_mod_cast hlog) (zpow_le_zpow_right₀ one_le_two ?_)
  simp only [place]
  omega

theorem two_zpow_place_le {q : ℚ} (hq : 0 < q) (hplace : -1074 < place q) :
    2 ^ (52 + place q) ≤ q := by
  have hlog := Int.zpow_log_le_self (b := 2) (by decide) hq
  refine le_trans (zpow_le_zpow_right₀ one_le_two ?_) (by exact_mod_cast hlog)
  simp only [place] at hplace ⊢
  omega

variable {q q' v v' : ℚ} {k : ℕ}

namespace RoundsTo

theorem nonneg (h : RoundsTo q v) : 0 ≤ v := by
  obtain ⟨m, -, rfl⟩ := h
  have := two_zpow_pos (place q)
  positivity

/-- Multiples of the last place bound what a number is rounded to. -/
theorem le_of_le (h : RoundsTo q v) (hq : q ≤ k * 2 ^ place q) : v ≤ k * 2 ^ place q := by
  obtain ⟨m, hm, rfl⟩ := h
  have hpos := two_zpow_pos (place q)
  have hmk : m ≤ k := hm.mono (.natCast k) ((div_le_iff₀ hpos).2 hq)
  gcongr

theorem le_of_ge (h : RoundsTo q v) (hq : k * 2 ^ place q ≤ q) : k * 2 ^ place q ≤ v := by
  obtain ⟨m, hm, rfl⟩ := h
  have hpos := two_zpow_pos (place q)
  have hkm : k ≤ m := (IsNearest.natCast k).mono hm ((le_div_iff₀ hpos).2 hq)
  gcongr

theorem le_two_zpow (h : RoundsTo q v) : v ≤ 2 ^ (53 + place q) := by
  have hsplit : (2 : ℚ) ^ (53 + place q) = (2 ^ 53 : ℕ) * 2 ^ place q := by
    rw [zpow_add₀ two_ne_zero]
    norm_num
  rw [hsplit]
  refine h.le_of_le ?_
  rw [← hsplit]
  exact (lt_two_zpow_place q).le

theorem two_zpow_le (h : RoundsTo q v) (hq : 0 < q) (hplace : -1074 < place q) :
    2 ^ (52 + place q) ≤ v := by
  have hsplit : (2 : ℚ) ^ (52 + place q) = (2 ^ 52 : ℕ) * 2 ^ place q := by
    rw [zpow_add₀ two_ne_zero]
    norm_num
  rw [hsplit]
  refine h.le_of_ge ?_
  rw [← hsplit]
  exact two_zpow_place_le hq hplace

/-- Larger numbers are not rounded to smaller ones. -/
theorem mono (h : RoundsTo q v) (h' : RoundsTo q' v') (hq : 0 < q) (hle : q ≤ q') : v ≤ v' := by
  rcases (place_mono hq hle).eq_or_lt with hplace | hplace
  · obtain ⟨m, hm, rfl⟩ := h
    obtain ⟨m', hm', rfl⟩ := h'
    rw [← hplace] at hm' ⊢
    have hpos := two_zpow_pos (place q)
    have hmm : m ≤ m' := hm.mono hm' (by gcongr)
    gcongr
  · -- a power of two stands between numbers of different places
    have hlow : -1074 < place q' := lt_of_le_of_lt (neg_le_place q) hplace
    calc v ≤ 2 ^ (53 + place q) := h.le_two_zpow
      _ ≤ 2 ^ (52 + place q') := zpow_le_zpow_right₀ one_le_two (by omega)
      _ ≤ v' := h'.two_zpow_le (hq.trans_le hle) hlow

theorem unique (h : RoundsTo q v) (h' : RoundsTo q v') (hq : 0 < q) : v = v' :=
  le_antisymm (h.mono h' hq le_rfl) (h'.mono h hq le_rfl)

end RoundsTo

/-- What is written with 53 digits and is not below the last place of all stays as it is. -/
theorem roundsTo_self {m : ℕ} {e : ℤ} (hm : m < 2 ^ 53) (he : -1074 ≤ e) (hpos : 0 < m) :
    RoundsTo (m * 2 ^ e) (m * 2 ^ e) := by
  have hq : (0 : ℚ) < m * 2 ^ e := mul_pos (by exact_mod_cast hpos) (two_zpow_pos e)
  have hplace : place (m * 2 ^ e) ≤ e := by
    have hlt : (m * 2 ^ e : ℚ) < (2 : ℕ) ^ (53 + e) := by
      rw [Nat.cast_ofNat, zpow_add₀ two_ne_zero]
      have := two_zpow_pos e
      have hm' : (m : ℚ) < 2 ^ (53 : ℤ) := by exact_mod_cast hm
      gcongr
    have hlog := (Int.lt_zpow_iff_log_lt (b := 2) (by decide) hq).1 hlt
    simp only [place]
    omega
  have hsplit : (m * 2 ^ e : ℚ) =
      (m * 2 ^ (e - place (m * 2 ^ e)).toNat : ℕ) * 2 ^ place (m * 2 ^ e) := by
    push_cast
    rw [mul_assoc, ← zpow_natCast, ← zpow_add₀ two_ne_zero]
    congr 2
    omega
  refine ⟨_, ?_, hsplit⟩
  rw [div_eq_iff (two_zpow_pos _).ne' |>.2 hsplit]
  exact .natCast _

theorem roundsTo_zero (hq : 0 < q) (hlt : q < 2 ^ (-1075 : ℤ)) : RoundsTo q 0 := by
  have hplace : place q = -1074 := by
    have hlog := (Int.lt_zpow_iff_log_lt (b := 2) (by decide) hq).1 (by exact_mod_cast hlt)
    simp only [place]
    omega
  have hhalf : q / 2 ^ place q < 1 / 2 := by
    rw [hplace, div_lt_iff₀ (two_zpow_pos _)]
    refine hlt.trans_eq ?_
    rw [show (-1075 : ℤ) = -1 + -1074 by norm_num, zpow_add₀ two_ne_zero]
    norm_num
  have hpos : 0 ≤ q / 2 ^ place q := (div_pos hq (two_zpow_pos _)).le
  refine ⟨0, ⟨?_, fun _ => rfl⟩, by simp⟩
  rw [Nat.cast_zero, sub_zero, abs_of_nonneg hpos]
  exact hhalf.le

/-! ### The finite range -/

/-- The least number that is rounded beyond the finite range. -/
def bound : ℚ := 2 ^ 1024 - 2 ^ 970

theorem two_pow_eq : (2 : ℚ) ^ 1024 = 2 ^ 53 * 2 ^ (971 : ℤ) := by
  rw [zpow_ofNat, ← pow_add]

theorem bound_eq : bound = (2 ^ 53 - 1 / 2) * 2 ^ (971 : ℤ) := by
  have hhalf : (2 : ℚ) ^ 970 = 1 / 2 * 2 ^ (971 : ℤ) := by
    rw [zpow_ofNat, pow_succ 2 970, mul_comm, mul_assoc]
    norm_num
  rw [bound, two_pow_eq, hhalf, sub_mul]

theorem bound_pos : 0 < bound := by
  rw [bound_eq]
  exact mul_pos (by norm_num) (two_zpow_pos _)

theorem place_bound : place bound = 971 := by
  have hpos := two_zpow_pos 971
  have hlow : (2 : ℕ) ^ (1023 : ℤ) ≤ bound := by
    rw [bound_eq, Nat.cast_ofNat, show (1023 : ℤ) = 52 + 971 by rfl, zpow_add₀ two_ne_zero]
    gcongr
    norm_num
  have hhigh : bound < (2 : ℕ) ^ (1024 : ℤ) := by
    rw [bound_eq, Nat.cast_ofNat, show (1024 : ℤ) = 53 + 971 by rfl, zpow_add₀ two_ne_zero]
    gcongr
    norm_num
  have hlog : Int.log 2 bound = 1023 := by
    have := (Int.zpow_le_iff_le_log (by decide) bound_pos).1 hlow
    have := (Int.lt_zpow_iff_log_lt (by decide) bound_pos).1 hhigh
    omega
  rw [place, hlog]
  rfl

/-- Halfway between the last multiple of the place that is in range and the next, which is even. -/
theorem roundsTo_bound : RoundsTo bound (2 ^ 1024) := by
  refine ⟨2 ^ 53, ?_, ?_⟩
  · rw [place_bound, bound_eq, mul_div_cancel_right₀ _ (two_zpow_pos _).ne']
    refine ⟨?_, fun _ => by norm_num⟩
    norm_num
  · rw [place_bound, two_pow_eq]
    norm_num

namespace RoundsTo

/-- Whether a number is rounded beyond the finite range can be told beforehand. -/
theorem lt_iff (h : RoundsTo q v) (hq : 0 < q) : v < 2 ^ 1024 ↔ q < bound := by
  constructor
  · intro hv
    by_contra hle
    exact (roundsTo_bound.mono h bound_pos (not_lt.1 hle)).not_gt hv
  · intro hlt
    have hplace : place q ≤ 971 := place_bound ▸ place_mono hq hlt.le
    rcases hplace.lt_or_eq with hplace | hplace
    · calc v ≤ 2 ^ (53 + place q) := h.le_two_zpow
        _ ≤ 2 ^ (1023 : ℤ) := zpow_le_zpow_right₀ one_le_two (by omega)
        _ < 2 ^ 1024 := by
          rw [zpow_ofNat]
          exact pow_lt_pow_right₀ one_lt_two (by decide)
    · obtain ⟨m, hm, rfl⟩ := h
      rw [hplace] at hm ⊢
      -- the mantissa is not rounded up to 2 ^ 53, which is half a place above the bound
      have hq' : q / 2 ^ (971 : ℤ) < 2 ^ 53 - 1 / 2 := by
        rw [div_lt_iff₀ (two_zpow_pos _), ← bound_eq]
        exact hlt
      have hlt' : m < 2 ^ 53 := by
        have hm' := (abs_le.1 hm.near).1
        have : (m : ℚ) < 2 ^ 53 := by linarith
        exact_mod_cast this
      calc (m : ℚ) * 2 ^ (971 : ℤ) < 2 ^ 53 * 2 ^ (971 : ℤ) := by
            have : (m : ℚ) < 2 ^ 53 := by exact_mod_cast hlt'
            have := two_zpow_pos 971
            gcongr
        _ = 2 ^ 1024 := two_pow_eq.symm

end RoundsTo

end Float64

end StreamLabel
