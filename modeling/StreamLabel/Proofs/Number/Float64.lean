import StreamLabel.Number.Float64
import StreamLabel.Proofs.Number.Nearest

/-!
# Binary fractions are the nearest ones

A fraction and a decimal are kept as what their exact value is rounded to (`keeps_ofFraction`,
`keeps_ofDecimal`), so it does not matter how they are written. That goes for decimals that are not
expanded, too. Beyond the finite range only an infinity is left.
-/

namespace StreamLabel

namespace Float64

/-! ### Fractions -/

/-- A fraction stands for a power of `b`. -/
structure IsPower (b : ℕ) (e : ℤ) (p : ℕ × ℕ) : Prop where
  num_pos : 0 < p.1
  den_pos : 0 < p.2
  div_eq : (p.1 : ℚ) / p.2 = b ^ e

theorem isPower {b : ℕ} (hb : 0 < b) (e : ℤ) :
    IsPower b e (if 0 ≤ e then (Nat.pow b e.toNat, 1) else (1, Nat.pow b (-e).toNat)) := by
  split
  · rename_i he
    obtain ⟨n, rfl⟩ := Int.eq_ofNat_of_zero_le he
    exact ⟨Nat.pow_pos hb, Nat.one_pos, by simp⟩
  · rename_i he
    obtain ⟨n, hn⟩ := Int.eq_ofNat_of_zero_le (show 0 ≤ -e by omega)
    obtain rfl : e = -n := by omega
    exact ⟨Nat.one_pos, Nat.pow_pos hb, by simp⟩

theorem isPower_powerOfTwo (e : ℤ) : IsPower 2 e (powerOfTwo e) := isPower two_pos e

theorem isPower_powerOfTen (e : ℤ) : IsPower 10 e (powerOfTen e) := isPower (by decide) e

variable {num den : ℕ}

theorem binaryExponent_eq (hnum : 0 < num) (hden : 0 < den) :
    binaryExponent num den = Int.log 2 ((num : ℚ) / den) := by
  have hnum' : (0 : ℚ) < num := by exact_mod_cast hnum
  have hden' : (0 : ℚ) < den := by exact_mod_cast hden
  have hpos : 0 < (num : ℚ) / den := div_pos hnum' hden'
  obtain ⟨-, hb, hpower⟩ := isPower_powerOfTwo ((num.log2 : ℤ) - den.log2)
  have hb' : (0 : ℚ) < (powerOfTwo ((num.log2 : ℤ) - den.log2)).2 := by exact_mod_cast hb
  -- the digits of both numbers leave two candidates, which are told apart by a comparison
  have hlow : (2 : ℕ) ^ ((num.log2 : ℤ) - den.log2 - 1) ≤ (num : ℚ) / den := by
    have hn : (2 : ℚ) ^ num.log2 ≤ num := by exact_mod_cast Nat.log2_self_le hnum.ne'
    have hd : (den : ℚ) ≤ 2 ^ (den.log2 + 1) := by exact_mod_cast Nat.lt_log2_self.le
    rw [Nat.cast_ofNat, sub_sub, zpow_sub₀ two_ne_zero, zpow_natCast,
      show (den.log2 : ℤ) + 1 = (den.log2 + 1 : ℕ) by norm_num, zpow_natCast]
    gcongr
  have hhigh : (num : ℚ) / den < (2 : ℕ) ^ ((num.log2 : ℤ) - den.log2 + 1) := by
    have hn : (num : ℚ) < 2 ^ (num.log2 + 1) := by exact_mod_cast Nat.lt_log2_self
    have hd : (2 : ℚ) ^ den.log2 ≤ den := by exact_mod_cast Nat.log2_self_le hden.ne'
    rw [Nat.cast_ofNat, sub_add_eq_add_sub, zpow_sub₀ two_ne_zero, zpow_natCast,
      show (num.log2 : ℤ) + 1 = (num.log2 + 1 : ℕ) by norm_num, zpow_natCast]
    gcongr
  have hlog := (Int.zpow_le_iff_le_log (by decide) hpos).1 hlow
  have hlog' := (Int.lt_zpow_iff_log_lt (by decide) hpos).1 hhigh
  have hcompare : num * (powerOfTwo ((num.log2 : ℤ) - den.log2)).2 <
        den * (powerOfTwo ((num.log2 : ℤ) - den.log2)).1 ↔
      Int.log 2 ((num : ℚ) / den) < (num.log2 : ℤ) - den.log2 := by
    rw [← Int.lt_zpow_iff_log_lt (by decide) hpos, ← hpower,
      div_lt_div_iff₀ hden' hb', mul_comm (_ : ℚ) (den : ℚ)]
    exact_mod_cast Iff.rfl
  unfold binaryExponent
  dsimp only
  split_ifs with hlt
  · rw [hcompare] at hlt
    omega
  · rw [hcompare] at hlt
    omega

theorem lastPlace_eq (hnum : 0 < num) (hden : 0 < den) :
    lastPlace num den = place (num / den) := by
  rw [lastPlace, place, binaryExponent_eq hnum hden]

end Float64

namespace Finite64

/-- The absolute value on the rational line. -/
def magnitude (x : Finite64) : ℚ := x.mantissa * 2 ^ x.exponent

theorem toRat_eq (x : Finite64) : x.toRat = if x.negative then -x.magnitude else x.magnitude := by
  have hmk : mkRat (x.fraction.1) (x.fraction.2) = x.magnitude := by
    have hpower := (Float64.isPower_powerOfTwo x.exponent).div_eq
    rw [Rat.mkRat_eq_div, magnitude, ← Nat.cast_ofNat, ← hpower, fraction]
    push_cast
    rw [mul_div_assoc]
  simp only [toRat, hmk]

/-- The mantissa and the exponent are those of the interchange format. -/
structure InRange (x : Finite64) : Prop where
  mantissa_lt : x.mantissa < 2 ^ 53
  le_exponent : -1074 ≤ x.exponent
  exponent_le : x.exponent ≤ 971

theorem inRange_zero (negative : Bool) : (zero negative).InRange :=
  ⟨Nat.two_pow_pos 53, le_rfl, show (-1074 : ℤ) ≤ 971 by decide⟩

@[simp] theorem magnitude_zero (negative : Bool) : (zero negative).magnitude = 0 := by
  simp [magnitude, zero]

theorem InRange.magnitude_lt {x : Finite64} (h : x.InRange) : x.magnitude < 2 ^ 1024 := by
  have hm : (x.mantissa : ℚ) < 2 ^ 53 := by exact_mod_cast h.mantissa_lt
  have hpos := Float64.two_zpow_pos x.exponent
  calc x.magnitude < 2 ^ 53 * 2 ^ x.exponent := by
        rw [magnitude]
        gcongr
    _ ≤ 2 ^ 53 * 2 ^ (971 : ℤ) := by
        gcongr
        · exact one_le_two
        · exact h.exponent_le
    _ = 2 ^ 1024 := Float64.two_pow_eq.symm

end Finite64

namespace Float64

/-- What a positive number is kept as, with a sign. -/
inductive Keeps (negative : Bool) (q : ℚ) : Float64 → Prop
  | finite {x : Finite64} (hx : x.negative = negative) (hrange : x.InRange)
      (h : RoundsTo q x.magnitude) : Keeps negative q (.finite x)
  | infinity (h : bound ≤ q) : Keeps negative q (.infinity negative)

variable {negative : Bool} {q : ℚ} {num den : ℕ}

theorem two_mul_hiddenBit : 2 * hiddenBit = 2 ^ 53 := rfl

theorem keeps_ofFraction (negative : Bool) (hnum : 0 < num) (hden : 0 < den) :
    Keeps negative (num / den) (ofFraction negative num den) := by
  have hq : (0 : ℚ) < num / den := by positivity
  have hplace := two_zpow_pos (place (num / den))
  obtain ⟨ha, hb, hpower⟩ := isPower_powerOfTwo (place (num / den))
  have hnear := isNearest_roundHalfEven (num * (powerOfTwo (place (num / den))).2)
    (Nat.mul_pos hden ha)
  have hscaled : ((num * (powerOfTwo (place (num / den))).2 : ℕ) : ℚ) /
      (den * (powerOfTwo (place (num / den))).1 : ℕ) = num / den / 2 ^ place (num / den) := by
    rw [← Nat.cast_ofNat (R := ℚ), ← hpower]
    push_cast
    field_simp
  rw [hscaled] at hnear
  unfold ofFraction
  rw [if_neg hnum.ne', lastPlace_eq hnum hden]
  dsimp only
  generalize roundHalfEven _ _ = m at hnear
  generalize he : place (num / den : ℚ) = e at hnear hplace
  have hrounds : RoundsTo (num / den) (m * 2 ^ e) := ⟨m, he ▸ hnear, by rw [he]⟩
  have hle : m ≤ 2 ^ 53 := by
    have hv := hrounds.le_two_zpow
    rw [he, zpow_add₀ two_ne_zero, mul_le_mul_iff_of_pos_right hplace] at hv
    exact_mod_cast hv
  have hlow : -1074 ≤ e := he ▸ neg_le_place _
  have hinfinite : (2 : ℚ) ^ (1024 : ℤ) ≤ m * 2 ^ e → bound ≤ (num : ℚ) / den := by
    rw [zpow_ofNat]
    exact fun hv => not_lt.1 fun hlt => hv.not_gt ((hrounds.lt_iff hq).2 hlt)
  rw [two_mul_hiddenBit]
  split_ifs with hm htop htop
  · refine .infinity (hinfinite ?_)
    rw [hm, Nat.cast_pow, Nat.cast_ofNat, ← zpow_natCast, ← zpow_add₀ two_ne_zero]
    exact zpow_le_zpow_right₀ one_le_two (by omega)
  · have hmagnitude : (m : ℚ) * 2 ^ e = hiddenBit * 2 ^ (e + 1) := by
      rw [hm, zpow_add_one₀ two_ne_zero, ← two_mul_hiddenBit]
      push_cast
      ring
    rw [hmagnitude] at hrounds
    exact .finite rfl ⟨show hiddenBit < 2 ^ 53 by decide, by dsimp only; omega, by dsimp only; omega⟩
      hrounds
  · refine .infinity (hinfinite ?_)
    have hlarge := hrounds.two_zpow_le hq (by omega)
    rw [he] at hlarge
    exact (zpow_le_zpow_right₀ one_le_two (by omega)).trans hlarge
  · exact .finite rfl ⟨by dsimp only; omega, hlow, by dsimp only; omega⟩ hrounds

theorem bound_le_ten_zpow : bound ≤ 10 ^ (401 : ℤ) := by
  have hpow : (2 : ℚ) ^ 1024 ≤ 10 ^ 401 := by
    exact_mod_cast (by decide +kernel : (2 : ℕ) ^ 1024 ≤ 10 ^ 401)
  have hsub : bound ≤ 2 ^ 1024 := sub_le_self _ (pow_nonneg two_pos.le _)
  rw [zpow_ofNat]
  exact hsub.trans hpow

theorem ten_zpow_lt : (10 : ℚ) ^ (-401 : ℤ) < 2 ^ (-1075 : ℤ) := by
  have hpow : (2 : ℚ) ^ 1075 < 10 ^ 401 := by
    exact_mod_cast (by decide +kernel : (2 : ℕ) ^ 1075 < 10 ^ 401)
  rw [zpow_neg, zpow_neg, zpow_ofNat, zpow_ofNat]
  exact inv_strictAnti₀ (pow_pos two_pos _) hpow

/-- Three binary digits are less than one decimal digit. -/
theorem lt_ten_pow (digits : ℕ) : digits < 10 ^ (digits.log2 / 3 + 1) :=
  calc digits < 2 ^ (digits.log2 + 1) := Nat.lt_log2_self
    _ ≤ 2 ^ (3 * (digits.log2 / 3 + 1)) := Nat.pow_le_pow_right (by decide) (by omega)
    _ = 8 ^ (digits.log2 / 3 + 1) := Nat.pow_mul ..
    _ ≤ 10 ^ (digits.log2 / 3 + 1) := Nat.pow_le_pow_left (by decide) _

/-- What is not expanded is kept as if it were. -/
theorem keeps_ofDecimal (negative : Bool) {digits : ℕ} (hdigits : 0 < digits) (scale : ℤ) :
    Keeps negative (digits * 10 ^ scale) (ofDecimal negative digits scale) := by
  have hdigits' : (0 : ℚ) < digits := by exact_mod_cast hdigits
  have hone : (1 : ℚ) ≤ digits := by exact_mod_cast hdigits
  have hpower : (0 : ℚ) < 10 ^ scale := zpow_pos (by norm_num) scale
  unfold ofDecimal
  rw [if_neg hdigits.ne']
  split_ifs with hhigh hlow
  · refine .infinity ?_
    calc bound ≤ 10 ^ (401 : ℤ) := bound_le_ten_zpow
      _ ≤ 10 ^ scale := zpow_le_zpow_right₀ (by norm_num) (by omega)
      _ ≤ digits * 10 ^ scale := le_mul_of_one_le_left hpower.le hone
  · refine .finite rfl (Finite64.inRange_zero negative) ?_
    have hlt : (digits : ℚ) * 10 ^ scale < 2 ^ (-1075 : ℤ) := by
      have hlt : (digits : ℚ) < 10 ^ (digits.log2 / 3 + 1 : ℕ) := by
        exact_mod_cast lt_ten_pow digits
      calc (digits : ℚ) * 10 ^ scale < 10 ^ (digits.log2 / 3 + 1 : ℕ) * 10 ^ scale := by gcongr
        _ = 10 ^ (scale + (digits.log2 / 3 + 1 : ℕ)) := by
          rw [← zpow_natCast, ← zpow_add₀ (by norm_num), add_comm]
        _ ≤ 10 ^ (-401 : ℤ) := zpow_le_zpow_right₀ (by norm_num) (by omega)
        _ < 2 ^ (-1075 : ℤ) := ten_zpow_lt
    rw [Finite64.magnitude_zero]
    exact roundsTo_zero (mul_pos hdigits' hpower) hlt
  · obtain ⟨ha, hb, hscale⟩ := isPower_powerOfTen scale
    have hkeeps := keeps_ofFraction negative (Nat.mul_pos hdigits ha) hb
    rw [Nat.cast_mul, mul_div_assoc, hscale, Nat.cast_ofNat] at hkeeps
    exact hkeeps

/-! ### Either sign -/

/-- A number of any sign is rounded to `r`, if `r` is not too large. -/
inductive Rounds : ℚ → ℚ → Prop
  | zero : Rounds 0 0
  | positive {q v : ℚ} (hq : 0 < q) (h : RoundsTo q v) : Rounds q v
  | negative {q v : ℚ} (hq : 0 < q) (h : RoundsTo q v) : Rounds (-q) (-v)

variable {r r' q' : ℚ}

theorem Rounds.mono (h : Rounds q r) (h' : Rounds q' r') (hle : q ≤ q') : r ≤ r' := by
  cases h with
  | zero =>
    cases h' with
    | zero => exact le_rfl
    | positive hq' h' => exact h'.nonneg
    | negative hq' h' => linarith
  | positive hq h =>
    cases h' with
    | zero => linarith
    | positive hq' h' => exact h.mono h' hq hle
    | negative hq' h' => linarith
  | negative hq h =>
    have hv := h.nonneg
    cases h' with
    | zero => linarith
    | positive hq' h' => linarith [h'.nonneg]
    | negative hq' h' => exact neg_le_neg (h'.mono h hq' (neg_le_neg_iff.1 hle))

/-- A finite number stays as it is. -/
theorem rounds_toRat {x : Finite64} (hx : x.InRange) : Rounds x.toRat x.toRat := by
  rw [x.toRat_eq]
  rcases x.mantissa.eq_zero_or_pos with hm | hm
  · have hzero : x.magnitude = 0 := by simp [Finite64.magnitude, hm]
    simpa [hzero] using Rounds.zero
  · have hself := roundsTo_self hx.mantissa_lt hx.le_exponent hm
    have hpos : 0 < x.magnitude := mul_pos (by exact_mod_cast hm) (two_zpow_pos _)
    split
    · exact .negative hpos hself
    · exact .positive hpos hself

/-- A finite result is the rounded number, with its sign. -/
theorem Keeps.rounds {x : Finite64} (h : Keeps negative q (.finite x)) (hq : 0 < q) :
    Rounds (if negative then -q else q) x.toRat := by
  cases h with
  | finite hx hrange h =>
    rw [x.toRat_eq, hx]
    cases negative with
    | false => exact .positive hq h
    | true => exact .negative hq h

/-- The finite range ends at the bound. -/
theorem Keeps.exists_finite_iff {y : Float64} (h : Keeps negative q y) (hq : 0 < q) :
    (∃ x, y = .finite x) ↔ q < bound := by
  cases h with
  | finite hx hrange h => exact ⟨fun _ => (h.lt_iff hq).1 hrange.magnitude_lt, fun _ => ⟨_, rfl⟩⟩
  | infinity h => exact ⟨fun ⟨_, hx⟩ => by simp at hx, fun hlt => absurd h hlt.not_ge⟩

/-- A decimal in the finite range is read as the number that it is rounded to. -/
theorem rounds_of_ofDecimal_eq_finite {digits : ℕ} {scale : ℤ} {x : Finite64}
    (h : ofDecimal negative digits scale = .finite x) :
    x.InRange ∧ Rounds (if negative then -(digits * 10 ^ scale) else digits * 10 ^ scale) x.toRat := by
  rcases digits.eq_zero_or_pos with rfl | hdigits
  · obtain rfl := Float64.finite.inj h
    refine ⟨Finite64.inRange_zero _, ?_⟩
    simpa [Finite64.toRat_eq] using Rounds.zero
  · have hkeeps := keeps_ofDecimal negative hdigits scale
    rw [h] at hkeeps
    have hpos : (0 : ℚ) < digits * 10 ^ scale :=
      mul_pos (by exact_mod_cast hdigits) (zpow_pos (by norm_num) scale)
    refine ⟨?_, hkeeps.rounds hpos⟩
    cases hkeeps with
    | finite hx hrange h => exact hrange

end Float64

end StreamLabel
