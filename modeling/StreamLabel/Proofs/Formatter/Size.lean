import StreamLabel.Proofs.Number.Places
import StreamLabel.Proofs.Render.BuiltIn
import StreamLabel.Proofs.Render.Comparison

/-!
# Sizes are accurate and in order

The text of a whole count (`Size.Shows`) says the count itself below 1024. From there on it says how
many hundredths there are of the largest unit that the count reaches, where the count is rounded twice:
to 53 binary digits and then to hundredths. Each rounding keeps the order, and so does the choice of the
unit, since a count below a unit is rounded to no more than that unit (`Size.Shows.mono`). A text can be
read back (`Size.shown?`), so its value stands for it.
-/

namespace StreamLabel

variable {n m u : ℕ} {r value : ℚ} {text : String}

/-! ### Reading back -/

namespace Size

/-- The value of a text: a number up to the blank, counted in the unit behind it. -/
def shown? (text : String) : Option ℚ := do
  let cs := text.toList
  let number := cs.takeWhile (· != ' ')
  let l ← Literal.read? number
  let u ← ("B" :: units).idxOf? (String.ofList (cs.drop (number.length + 1)))
  return l.toRat * 1024 ^ u

theorem shown?_append {number unit : String} {l : Literal} (hblank : ' ' ∉ number.toList)
    (hl : Literal.read? number.toList = some l) (hu : ("B" :: units).idxOf? unit = some u) :
    shown? (number ++ " " ++ unit) = some (l.toRat * 1024 ^ u) := by
  have hchars : (number ++ " " ++ unit).toList = number.toList ++ ' ' :: unit.toList := by simp
  have hnumber : (number.toList ++ ' ' :: unit.toList).takeWhile (· != ' ') = number.toList :=
    Stops.takeWhile_append (fun c hc => bne_iff_ne.2 (ne_of_mem_of_not_mem hc hblank))
      (Stops.cons_iff.2 rfl)
  have hrest : (number.toList ++ ' ' :: unit.toList).drop (number.toList.length + 1) =
      unit.toList := by
    rw [← List.drop_drop, List.drop_left]
    rfl
  simp only [shown?, hchars, hnumber, hrest, hl, String.ofList_toList, hu, Option.bind_eq_bind,
    Option.bind_some, Option.pure_def]

/-- Two decimal places are read as hundredths. -/
theorem read?_hundredths (m : ℕ) :
    ∃ l, Literal.read? (Decimal.hundredths m).toList = some l ∧ l.toRat = m / 100 := by
  refine ⟨_, Decimal.read?_hundredths m, ?_⟩
  simp only [Literal.toRat, Literal.places, Option.getD_some, Option.getD_none,
    Decimal.ofDigitValues_hundredths]
  norm_num
  ring

/-! ### Units -/

/-- A power of 1024 needs one binary digit. -/
theorem roundsTo_pow (u : ℕ) : Float64.RoundsTo (1024 ^ u) (1024 ^ u) := by
  have hself := Float64.roundsTo_self (m := 1) (e := (10 * u : ℕ)) (by norm_num) (by omega) one_pos
  rwa [Nat.cast_one, one_mul, zpow_natCast, pow_mul, show (2 : ℚ) ^ 10 = 1024 by norm_num] at hself

/-- A count that has few enough binary digits is not rounded. -/
theorem roundsTo_natCast (hpos : 0 < n) (hn : n < 2 ^ 53) : Float64.RoundsTo n n := by
  have hself := Float64.roundsTo_self (e := 0) hn (by decide) hpos
  rwa [zpow_zero, mul_one] at hself

/-- Rounding takes no count across a unit. -/
theorem pow_le_iff (hr : Float64.RoundsTo n r) (hpos : 0 < n) (hu : u ≤ 5) :
    (1024 : ℚ) ^ u ≤ r ↔ 1024 ^ u ≤ n := by
  have hpos' : (0 : ℚ) < n := by exact_mod_cast hpos
  constructor
  · intro h
    by_contra hlt
    have hsmall : n < 2 ^ 53 := calc
      n < 1024 ^ u := not_le.1 hlt
      _ ≤ 1024 ^ 5 := Nat.pow_le_pow_right (by decide) hu
      _ < 2 ^ 53 := by norm_num
    obtain rfl := hr.unique (roundsTo_natCast hpos hsmall) hpos'
    exact hlt (by exact_mod_cast h)
  · intro h
    exact (roundsTo_pow u).mono hr (by positivity) (by exact_mod_cast h)

theorem unitIndex_le (num den left : ℕ) : unitIndex num den left ≤ left := by
  induction left with
  | zero => exact le_rfl
  | succ left ih =>
    rw [unitIndex]
    split
    · exact le_rfl
    · exact ih.trans (Nat.le_succ left)

/-- The unit is the largest that the fraction reaches. -/
theorem le_unitIndex_iff {num den : ℕ} (hden : 0 < den) (hu : 0 < u) {left : ℕ} (hleft : u ≤ left) :
    u ≤ unitIndex num den left ↔ (1024 : ℚ) ^ u ≤ num / den := by
  have hden' : (0 : ℚ) < den := by exact_mod_cast hden
  induction left with
  | zero => omega
  | succ left ih =>
    have htest : Nat.pow 1024 (left + 1) * den ≤ num ↔ (1024 : ℚ) ^ (left + 1) ≤ num / den := by
      rw [le_div_iff₀ hden']
      exact_mod_cast Iff.rfl
    rw [unitIndex]
    split_ifs with h
    · exact iff_of_true hleft ((pow_le_pow_right₀ (by norm_num) hleft).trans (htest.1 h))
    · rcases hleft.lt_or_eq with hlt | rfl
      · exact ih (Nat.le_of_lt_succ hlt)
      · have hle := unitIndex_le num den left
        exact iff_of_false (by omega) (htest.not.1 h)

/-! ### Texts -/

/-- The text of the count `n`, which has the value `value`, in the unit `1024 ^ u`. -/
inductive Shows (n : ℕ) : (u : ℕ) → (value : ℚ) → (text : String) → Prop
  | bytes (h : n < 1024) : Shows n 0 n (toString n ++ " B")
  | scaled {u m : ℕ} {r : ℚ} {unit : String}
      (hu : IsGreatest {u | 1 ≤ u ∧ u ≤ 5 ∧ 1024 ^ u ≤ n} u) (hunit : units[u - 1]? = some unit)
      (hr : Float64.RoundsTo n r) (hexact : n < 2 ^ 53 → r = n)
      (hm : IsNearest (100 * (r / 1024 ^ u)) m) :
      Shows n u (m / 100 * 1024 ^ u) (Decimal.hundredths m ++ " " ++ unit)

theorem exists_fraction (x : Finite64) :
    ∃ num den, x.fraction = (num, den) ∧ 0 < den ∧ (num : ℚ) / den = x.magnitude := by
  obtain ⟨-, hden, hdiv⟩ := Float64.isPower_powerOfTwo x.exponent
  refine ⟨x.mantissa * (powerOfTwo x.exponent).1, (powerOfTwo x.exponent).2, rfl, hden, ?_⟩
  rw [Nat.cast_mul, mul_div_assoc, hdiv, Nat.cast_ofNat, Finite64.magnitude]

/-- A count below 1024 is said as it is. -/
theorem ofFinite_of_lt {x : Finite64} (hx : x.negative = false) (hr : Float64.RoundsTo n x.magnitude)
    (hpos : 0 < n) (hn : n < 1024) : Shows n 0 n (ofFinite x) := by
  obtain ⟨num, den, hfraction, hden, hdiv⟩ := exists_fraction x
  have hunit : unitIndex num den units.length = 0 := by
    by_contra hne
    have hle := (le_unitIndex_iff hden one_pos (by decide)).1 (Nat.one_le_iff_ne_zero.2 hne)
    rw [hdiv, pow_le_iff hr hpos (by decide)] at hle
    omega
  have hexact := hr.unique (roundsTo_natCast hpos (by omega)) (by exact_mod_cast hpos)
  have hnearest := isNearest_roundHalfEven num hden
  rw [hdiv, hexact] at hnearest
  have htext : ofFinite x = toString n ++ " B" := by
    simp only [ofFinite, hfraction, hx, hunit, Finite64.fixedText, Finite64.withSign,
      Decimal.ofList_fixed_zero, hnearest.unique (.natCast n), ↓reduceIte, Bool.false_eq_true]
  rw [htext]
  exact .bytes hn

theorem isGreatest_unitIndex {num den : ℕ} (hden : 0 < den) (hdiv : (num : ℚ) / den = r)
    (hr : Float64.RoundsTo n r) (hn : 1024 ≤ n) :
    IsGreatest {u | 1 ≤ u ∧ u ≤ 5 ∧ 1024 ^ u ≤ n} (unitIndex num den units.length) := by
  have hle : ∀ {u}, 0 < u → u ≤ 5 → (u ≤ unitIndex num den units.length ↔ 1024 ^ u ≤ n) := by
    intro u hpos hu
    have hleft : u ≤ units.length := hu
    rw [le_unitIndex_iff hden hpos hleft, hdiv, pow_le_iff hr (by omega) hu]
  have hone := (hle one_pos (by decide)).2 hn
  exact ⟨⟨hone, unitIndex_le .., (hle hone (unitIndex_le ..)).1 le_rfl⟩,
    fun u ⟨hpos, hu, hun⟩ => (hle hpos hu).2 hun⟩

/-- From 1024 on, the hundredths of the largest unit that the count reaches are said. -/
theorem ofFinite_of_ge {x : Finite64} (hx : x.negative = false) (hr : Float64.RoundsTo n x.magnitude)
    (hn : 1024 ≤ n) : ∃ u value, Shows n u value (ofFinite x) := by
  obtain ⟨num, den, hfraction, hden, hdiv⟩ := exists_fraction x
  have hgreatest := isGreatest_unitIndex hden hdiv hr hn
  obtain ⟨hone, hle, -⟩ := hgreatest.1
  generalize hu : unitIndex num den units.length = u at hgreatest hone hle
  have hlt : u - 1 < units.length := by
    change u - 1 < 5
    omega
  have hunit : units[u - 1]? = some units[u - 1] := List.getElem?_eq_getElem hlt
  have hpow : 0 < 1024 ^ u := Nat.pow_pos (by decide)
  have hnearest := isNearest_roundHalfEven (num * 100) (Nat.mul_pos hden hpow)
  have hscaled : ((num * 100 : ℕ) : ℚ) / (den * 1024 ^ u : ℕ) = 100 * (x.magnitude / 1024 ^ u) := by
    rw [← hdiv]
    push_cast
    field_simp
  rw [hscaled] at hnearest
  have htext : ofFinite x =
      Decimal.hundredths (roundHalfEven (num * 100) (den * 1024 ^ u)) ++ " " ++ units[u - 1] := by
    have hne : u ≠ 0 := by omega
    simp only [ofFinite, hfraction, hx, hu, hne, hunit, Decimal.ofList_fixed_two, ↓reduceIte,
      Bool.false_eq_true]
    rfl
  rw [htext]
  exact ⟨u, _, .scaled hgreatest hunit hr
    (fun h => hr.unique (roundsTo_natCast (by omega) h) (by exact_mod_cast (by omega : 0 < n))) hnearest⟩

/-- A count that is not beyond the finite range has a text. -/
theorem exists_shows {x : Finite64} (hx : Float64.ofInt n = .finite x) :
    ∃ u value, Shows n u value (ofFinite x) := by
  rcases n.eq_zero_or_pos with rfl | hpos
  · obtain rfl := Float64.finite.inj hx
    have htext : ofFinite (.zero false) = toString 0 ++ " B" := by decide +kernel
    refine ⟨0, (0 : ℕ), ?_⟩
    change Shows 0 0 (0 : ℕ) (ofFinite (.zero false))
    rw [htext]
    exact .bytes (by decide)
  · have hkeeps := Float64.keeps_ofFraction (decide ((n : ℤ) < 0)) hpos Nat.one_pos
    rw [Nat.cast_one, div_one] at hkeeps
    rw [Float64.ofInt, Int.natAbs_natCast] at hx
    rw [hx] at hkeeps
    cases hkeeps with
    | finite hneg hrange hr =>
      have hneg' : x.negative = false := hneg.trans (decide_eq_false (by omega))
      rcases lt_or_ge n 1024 with hn | hn
      · exact ⟨0, n, ofFinite_of_lt hneg' hr hpos hn⟩
      · exact ofFinite_of_ge hneg' hr hn

namespace Shows
variable {n' u' : ℕ} {value' : ℚ} {text' : String}

theorem idxOf?_unit {unit : String} (hpos : 1 ≤ u) (hle : u ≤ 5) (h : units[u - 1]? = some unit) :
    ("B" :: units).idxOf? unit = some u := by
  interval_cases u <;> obtain rfl := Option.some.inj h <;> decide

/-- The text is read as the value. -/
theorem shown?_eq (h : Shows n u value text) : shown? text = some value := by
  have hblank : ∀ {n}, ' ' ∉ decimalDigits n :=
    fun hmem => absurd (isDigit_of_mem_decimalDigits hmem) (by decide)
  cases h with
  | bytes hn =>
    have hchars : (toString n).toList = decimalDigits n := Nat.toList_repr
    obtain ⟨l, hl, hwhole, hvalue, -⟩ := Literal.read?_toString (n : ℤ)
    rw [toList_toString_of_nonneg, ← hchars] at hl
    have hnumber : ' ' ∉ (toString n).toList := hchars ▸ hblank
    have htext : toString n ++ " B" = toString n ++ " " ++ "B" := by
      rw [String.append_assoc]
      rfl
    rw [htext, shown?_append hnumber hl (u := 0) (by decide), Literal.toRat_of_isWhole hwhole, hvalue]
    norm_num
  | @scaled _ m r unit hu hunit hr hexact hm =>
    obtain ⟨l, hl, hvalue⟩ := read?_hundredths m
    obtain ⟨hpos, hle, -⟩ := hu.1
    have hnumber : ' ' ∉ (Decimal.hundredths m).toList := by
      rw [Decimal.toList_hundredths]
      simp [hblank]
    rw [shown?_append hnumber hl (idxOf?_unit hpos hle hunit), hvalue]

theorem pow_le_value (hu : (1024 : ℚ) ^ u ≤ r) (hm : IsNearest (100 * (r / 1024 ^ u)) m) :
    (1024 : ℚ) ^ u ≤ m / 100 * 1024 ^ u := by
  have hpos : (0 : ℚ) < 1024 ^ u := by positivity
  have hratio : 1 ≤ r / 1024 ^ u := (one_le_div hpos).2 hu
  have hm' : 100 ≤ m := (IsNearest.natCast 100).mono hm (by push_cast; linarith)
  have hone : (1 : ℚ) ≤ m / 100 := by
    rw [one_le_div (by norm_num)]
    exact_mod_cast hm'
  exact le_mul_of_one_le_left hpos.le hone

/-- Rounding up ends at the next unit. -/
theorem value_le_pow (hu : r ≤ 1024 ^ (u + 1)) (hm : IsNearest (100 * (r / 1024 ^ u)) m) :
    (m : ℚ) / 100 * 1024 ^ u ≤ 1024 ^ (u + 1) := by
  have hpos : (0 : ℚ) < 1024 ^ u := by positivity
  have hratio : r / 1024 ^ u ≤ 1024 := by
    rw [div_le_iff₀ hpos, ← pow_succ']
    exact hu
  have hm' : m ≤ 102400 := hm.mono (.natCast 102400) (by push_cast; linarith)
  have hle : (m : ℚ) / 100 ≤ 1024 := by
    rw [div_le_iff₀ (by norm_num)]
    norm_num
    exact_mod_cast hm'
  rw [pow_succ']
  gcongr

/-- Larger counts have no smaller values. -/
theorem mono (h : Shows n u value text) (h' : Shows n' u' value' text') (hle : n ≤ n') :
    value ≤ value' := by
  have hunder : ∀ {n u : ℕ}, 1 ≤ u → 1024 ^ u ≤ n → 1024 ≤ n :=
    fun hu hn => (Nat.le_self_pow (by omega) 1024).trans hn
  cases h with
  | bytes hn =>
    cases h' with
    | bytes hn' => exact_mod_cast hle
    | scaled hu' hunit' hr' hexact' hm' =>
      obtain ⟨hone', hfive', hn'⟩ := hu'.1
      have hpos' : 0 < n' := (hunder hone' hn').trans_lt' (by decide)
      calc (n : ℚ) ≤ 1024 ^ 1 := by exact_mod_cast hn.le
        _ ≤ 1024 ^ u' := pow_le_pow_right₀ (by norm_num) hone'
        _ ≤ _ := pow_le_value ((pow_le_iff hr' hpos' hfive').2 hn') hm'
  | scaled hu hunit hr hexact hm =>
    obtain ⟨hone, hfive, hn⟩ := hu.1
    have hpos : 0 < n := (hunder hone hn).trans_lt' (by decide)
    cases h' with
    | bytes hn' => exact absurd (hunder hone hn) (by omega)
    | scaled hu' hunit' hr' hexact' hm' =>
      obtain ⟨hone', hfive', hn'⟩ := hu'.1
      have hposQ : (0 : ℚ) < n := by exact_mod_cast hpos
      rcases (hu'.2 ⟨hone, hfive, hn.trans hle⟩).eq_or_lt with rfl | hlt
      · have hrr := hr.mono hr' hposQ (by exact_mod_cast hle)
        have hmm := hm.mono hm' (by gcongr)
        gcongr
      · -- the smaller count is below the next unit, and is rounded to no more than that
        have hbelow : n < 1024 ^ (u + 1) := by
          by_contra hge
          exact absurd (hu.2 ⟨by omega, by omega, not_lt.1 hge⟩) (by omega)
        have hrle := hr.mono (roundsTo_pow (u + 1)) hposQ (by exact_mod_cast hbelow.le)
        calc _ ≤ (1024 : ℚ) ^ (u + 1) := value_le_pow hrle hm
          _ ≤ 1024 ^ u' := pow_le_pow_right₀ (by norm_num) hlt
          _ ≤ _ := pow_le_value ((pow_le_iff hr' (hpos.trans_le hle) hfive').2 hn') hm'

/-- A count that is not rounded to binary digits differs from what is shown by half a hundredth of the
unit at most. -/
theorem abs_sub_le (h : Shows n u value text) (hn : n < 2 ^ 53) :
    |value - n| ≤ 5 / 1000 * 1024 ^ u := by
  cases h with
  | bytes hn =>
    rw [sub_self, abs_zero]
    norm_num
  | @scaled _ m r unit hu hunit hr hexact hm =>
    have hscale : (0 : ℚ) < 1024 ^ u / 100 := by positivity
    have hnear := hm.near
    rw [hexact hn] at hnear
    have hsplit : (m : ℚ) / 100 * 1024 ^ u - n =
        -(100 * (n / 1024 ^ u) - m) * (1024 ^ u / 100) := by
      field_simp
      ring
    rw [hsplit, abs_mul, abs_neg, abs_of_pos hscale]
    calc |100 * ((n : ℚ) / 1024 ^ u) - m| * (1024 ^ u / 100) ≤ 1 / 2 * (1024 ^ u / 100) := by gcongr
      _ = 5 / 1000 * 1024 ^ u := by ring

end Shows

end Size

/-- A count in the finite range of binary fractions has a text: the count itself in bytes below 1024, and
then two decimal places of the largest unit that it reaches, rounded from the count to 53 binary digits.
The text reads as a value. Smaller counts have no larger values, and below `2 ^ 53` the value differs from
the count by half a hundredth of the unit at most. -/
theorem size_accurate_and_in_order {n : ℕ} {x : Finite64} (hx : Float64.ofInt n = .finite x) :
    ∃ (u : ℕ) (value : ℚ) (text : String),
      Size.ofInt n = .ok text ∧ Size.format (.number (.int n)) = .ok text ∧
      Size.Shows n u value text ∧ Size.shown? text = some value ∧
      (n < 2 ^ 53 → |value - n| ≤ 5 / 1000 * 1024 ^ u) ∧
      ∀ k ≤ n, ∃ (value' : ℚ) (text' : String),
        Size.ofInt k = .ok text' ∧ Size.shown? text' = some value' ∧ value' ≤ value := by
  have hofInt : ∀ {k : ℕ} {y : Finite64}, Float64.ofInt k = .finite y →
      Size.ofInt k = .ok (Size.ofFinite y) := by
    intro k y hy
    rw [Size.ofInt, hy]
  obtain ⟨u, value, hshows⟩ := Size.exists_shows hx
  have hformat : Size.format (.number (.int n)) = Size.ofInt n := by
    have hnonneg : ¬ (Number.int n).toRat < 0 := not_lt.2 (Int.cast_nonneg (Int.natCast_nonneg n))
    change (if (Number.int n).toRat < 0 then .ok "" else Size.ofInt n) = _
    rw [if_neg hnonneg]
  refine ⟨u, value, Size.ofFinite x, hofInt hx, hformat.trans (hofInt hx), hshows, hshows.shown?_eq,
    hshows.abs_sub_le, fun k hk => ?_⟩
  have hn := (Float64.exists_ofInt_eq_finite_iff (Int.natCast_nonneg n)).1 ⟨x, hx⟩
  obtain ⟨y, hy⟩ := (Float64.exists_ofInt_eq_finite_iff (Int.natCast_nonneg k)).2 (by omega)
  obtain ⟨u', value', hshows'⟩ := Size.exists_shows hy
  exact ⟨value', _, hofInt hy, hshows'.shown?_eq, hshows'.mono hshows hk⟩

/-- One byte below the next unit, which is what the value is rounded to. -/
theorem size_accurate_and_in_order_below_unit :
    Float64.ofInt (1048575 : ℕ) = .finite ⟨false, 1048575 * 2 ^ 33, -33⟩ ∧
      Size.ofInt (1048575 : ℕ) = .ok "1024.00 KB" ∧
      ∃ value, Size.shown? "1024.00 KB" = some value ∧ |value - 1048575| ≤ 5 / 1000 * 1024 ∧
        ∃ value', Size.ofInt (1047552 : ℕ) = .ok "1023.00 KB" ∧
          Size.shown? "1023.00 KB" = some value' ∧ value' ≤ value := by
  have hx : Float64.ofInt (1048575 : ℕ) = .finite ⟨false, 1048575 * 2 ^ 33, -33⟩ := by
    decide +kernel
  have htext : Size.ofInt (1048575 : ℕ) = .ok "1024.00 KB" := by rfl
  have htext' : Size.ofInt (1047552 : ℕ) = .ok "1023.00 KB" := by rfl
  obtain ⟨u, value, text, hok, -, hshows, hread, herror, hmono⟩ := size_accurate_and_in_order hx
  obtain ⟨value', text', hok', hread', hle⟩ := hmono 1047552 (by norm_num)
  have hu : u ≤ 1 := by
    cases hshows with
    | bytes h => exact Nat.zero_le 1
    | scaled hu =>
      by_contra hlt
      have hpow : 1024 ^ 2 ≤ 1024 ^ u := Nat.pow_le_pow_right (by decide) (by omega)
      exact absurd (hpow.trans hu.1.2.2) (by norm_num)
  obtain rfl := Except.ok.inj (htext.symm.trans hok)
  obtain rfl := Except.ok.inj (htext'.symm.trans hok')
  refine ⟨hx, htext, value, hread, (herror (by norm_num)).trans ?_, value', htext', hread', hle⟩
  have hpow : (1024 : ℚ) ^ u ≤ 1024 ^ 1 := pow_le_pow_right₀ (by norm_num) hu
  linarith

end StreamLabel
