import Mathlib.Algebra.Order.Field.Power
import Mathlib.Data.Int.Log
import Mathlib.Data.Rat.Floor
import Mathlib.Tactic.Linarith
import Mathlib.Tactic.NormNum
import Mathlib.Tactic.Positivity
import Mathlib.Tactic.Ring
import SearchMapper.Floating.Double

/-!
# Exact numbers

A fraction that is the value of a magnitude is rounded to that magnitude, in every format. Every
finite single has the value of a finite double, so widening it and narrowing it back gives the
same bits. No integer of 64 bits is too large for a double.
-/

namespace SearchMapper.Floating

/-! ## Fractions -/

/-- The value of a fraction. -/
def ratio (fraction : Nat × Nat) : ℚ := (fraction.1 : ℚ) / fraction.2

theorem scaleDown_den_pos (e : ℤ) (num : Nat) {den : Nat} (hden : 0 < den) :
    0 < (scaleDown 2 e num den).2 := by
  by_cases he : 0 ≤ e
  · simp [scaleDown, he, hden]
  · simp [scaleDown, he, hden]

theorem two_zpow_of_nonneg {e : ℤ} (he : 0 ≤ e) : (2 : ℚ) ^ e = 2 ^ e.toNat := by
  rw [← zpow_natCast, Int.toNat_of_nonneg he]

theorem two_zpow_of_neg {e : ℤ} (he : ¬ 0 ≤ e) : (2 : ℚ) ^ e = (2 ^ (-e).toNat)⁻¹ := by
  rw [← zpow_natCast, Int.toNat_of_nonneg (by omega), ← zpow_neg, neg_neg]

theorem ratio_scaleDown (e : ℤ) (num den : Nat) :
    ratio (scaleDown 2 e num den) = ratio (num, den) / 2 ^ e := by
  by_cases he : 0 ≤ e
  · simp [scaleDown, he, ratio, two_zpow_of_nonneg he, div_div]
  · simp [scaleDown, he, ratio, two_zpow_of_neg he, mul_div_right_comm]

theorem one_le_ratio_iff {num den : Nat} (hden : 0 < den) :
    1 ≤ ratio (num, den) ↔ den ≤ num := by
  have hpos : (0 : ℚ) < den := by exact_mod_cast hden
  rw [ratio, le_div_iff₀ hpos, one_mul, Nat.cast_le]

/-- The logarithm is fixed by the two powers of two around the number. -/
theorem log_eq_of_bounds {q : ℚ} {k : ℤ} (hlow : 2 ^ k ≤ q) (hhigh : q < 2 ^ (k + 1)) :
    Int.log 2 q = k := by
  have hpos : 0 < q := lt_of_lt_of_le (by positivity) hlow
  have hle : k ≤ Int.log 2 q :=
    (Int.zpow_le_iff_le_log Nat.one_lt_two hpos).mp (by exact_mod_cast hlow)
  have hlt : Int.log 2 q < k + 1 :=
    (Int.lt_zpow_iff_log_lt Nat.one_lt_two hpos).mp (by exact_mod_cast hhigh)
  omega

theorem floorLog2_eq_log {num den : Nat} (hnum : 0 < num) (hden : 0 < den) :
    floorLog2 num den = Int.log 2 (ratio (num, den)) := by
  have hnumPos : (0 : ℚ) < num := by exact_mod_cast hnum
  have hdenPos : (0 : ℚ) < den := by exact_mod_cast hden
  have hnumLow : (2 : ℚ) ^ (num.log2 : ℤ) ≤ num := by
    exact_mod_cast Nat.log2_self_le hnum.ne'
  have hnumHigh : (num : ℚ) < 2 ^ ((num.log2 : ℤ) + 1) := by
    exact_mod_cast Nat.lt_log2_self (n := num)
  have hdenLow : (2 : ℚ) ^ (den.log2 : ℤ) ≤ den := by
    exact_mod_cast Nat.log2_self_le hden.ne'
  have hdenHigh : (den : ℚ) < 2 ^ ((den.log2 : ℤ) + 1) := by
    exact_mod_cast Nat.lt_log2_self (n := den)
  -- the estimate is off by one at most, as each of the two logarithms is rounded down
  have hlow : (2 : ℚ) ^ ((num.log2 : ℤ) - den.log2 - 1) ≤ ratio (num, den) := by
    rw [show (num.log2 : ℤ) - den.log2 - 1 = num.log2 - (den.log2 + 1) by ring,
      zpow_sub₀ two_ne_zero]
    exact div_le_div₀ hnumPos.le hnumLow hdenPos hdenHigh.le
  have hhigh : ratio (num, den) < 2 ^ ((num.log2 : ℤ) - den.log2 + 1) := by
    rw [show (num.log2 : ℤ) - den.log2 + 1 = (num.log2 + 1) - den.log2 by ring,
      zpow_sub₀ two_ne_zero]
    exact div_lt_div₀ hnumHigh hdenLow (by positivity) (by positivity)
  have hcompare : (scaleDown 2 ((num.log2 : ℤ) - den.log2) num den).2 ≤
      (scaleDown 2 ((num.log2 : ℤ) - den.log2) num den).1 ↔
        (2 : ℚ) ^ ((num.log2 : ℤ) - den.log2) ≤ ratio (num, den) := by
    rw [← one_le_ratio_iff (scaleDown_den_pos _ num hden), Prod.mk.eta, ratio_scaleDown,
      one_le_div₀ (by positivity)]
  unfold floorLog2
  by_cases h : (2 : ℚ) ^ ((num.log2 : ℤ) - den.log2) ≤ ratio (num, den)
  · simp only [hcompare, h, if_true]
    exact (log_eq_of_bounds h hhigh).symm
  · simp only [hcompare, h, if_false]
    have hsucc : (num.log2 : ℤ) - den.log2 - 1 + 1 = num.log2 - den.log2 := by ring
    exact (log_eq_of_bounds hlow (by rw [hsucc]; exact not_le.mp h)).symm

/-- A quotient without remainder is not rounded. -/
theorem roundHalfEven_mul (q : Nat) {den : Nat} (hden : 0 < den) :
    roundHalfEven (q * den) den = q := by
  have hdiv : q * den / den = q := Nat.mul_div_cancel q hden
  have hmod : q * den % den = 0 := Nat.mul_mod_left q den
  have hne : ¬ 0 = den := hden.ne
  simp [roundHalfEven, hdiv, hmod, hne]

theorem roundHalfEven_of_ratio_eq {q : Nat} {fraction : Nat × Nat} (hden : 0 < fraction.2)
    (h : ratio fraction = q) : roundHalfEven fraction.1 fraction.2 = q := by
  have hpos : (0 : ℚ) < fraction.2 := by exact_mod_cast hden
  have hnum : fraction.1 = q * fraction.2 := by
    rw [ratio, div_eq_iff hpos.ne'] at h
    exact_mod_cast h
  rw [hnum, roundHalfEven_mul q hden]

/-- A fraction below a whole number is not rounded beyond it. -/
theorem roundHalfEven_le_of_ratio_lt {fraction : Nat × Nat} {bound : Nat} (hden : 0 < fraction.2)
    (h : ratio fraction < bound) : roundHalfEven fraction.1 fraction.2 ≤ bound := by
  have hpos : (0 : ℚ) < fraction.2 := by exact_mod_cast hden
  have hlt : fraction.1 < bound * fraction.2 := by
    rw [ratio, div_lt_iff₀ hpos] at h
    exact_mod_cast h
  have hquotient : fraction.1 / fraction.2 < bound := (Nat.div_lt_iff_lt_mul hden).mpr hlt
  unfold roundHalfEven
  dsimp only
  split
  · exact hquotient
  · exact hquotient.le

/-! ## Magnitudes -/

namespace Binary

/-- The value of a magnitude. -/
def value (format : Binary) (magnitude : Nat) : ℚ :=
  format.significand magnitude * 2 ^ format.exponent magnitude

variable (format : Binary)

theorem toRatio_den_pos (magnitude : Nat) : 0 < (format.toRatio magnitude).2 := by
  by_cases he : 0 ≤ format.exponent magnitude
  · simp [toRatio, he]
  · simp [toRatio, he]

theorem ratio_toRatio (magnitude : Nat) :
    ratio (format.toRatio magnitude) = format.value magnitude := by
  by_cases he : 0 ≤ format.exponent magnitude
  · simp [toRatio, he, ratio, value, two_zpow_of_nonneg he]
  · simp [toRatio, he, ratio, value, two_zpow_of_neg he, div_eq_mul_inv]

/-- Either a magnitude has the smallest exponent and its significand the leading bit unset, or
the significand has full length. -/
theorem significand_cases (magnitude : Nat) :
    (format.exponent magnitude = format.minExponent ∧
        format.significand magnitude < 2 ^ (format.precision - 1)) ∨
      (format.minExponent ≤ format.exponent magnitude ∧
        2 ^ (format.precision - 1) ≤ format.significand magnitude ∧
        format.significand magnitude < 2 * 2 ^ (format.precision - 1)) := by
  have hunit : 0 < 2 ^ (format.precision - 1) := by positivity
  have hmod := Nat.mod_lt magnitude hunit
  by_cases hfield : magnitude / 2 ^ (format.precision - 1) = 0
  · have hlt := (Nat.div_eq_zero_iff_lt hunit).mp hfield
    exact .inl ⟨by simp [exponent, hfield], by simp [significand, hfield, hlt]⟩
  · refine .inr ⟨by simp [exponent], ?_, ?_⟩
    · simp [significand, hfield]
    · simp only [significand, Nat.pow_eq, hfield, if_false]
      omega

/-- A magnitude is its significand behind its exponent. -/
theorem exponent_significand (magnitude : Nat) :
    (format.exponent magnitude - format.minExponent).toNat * 2 ^ (format.precision - 1) +
      format.significand magnitude = magnitude := by
  have hdiv := Nat.div_add_mod' magnitude (2 ^ (format.precision - 1))
  by_cases hfield : magnitude / 2 ^ (format.precision - 1) = 0
  · simp [exponent, significand, hfield]
  · obtain ⟨field, hsucc⟩ := Nat.exists_eq_succ_of_ne_zero hfield
    rw [hsucc, Nat.succ_mul] at hdiv
    simp [exponent, significand, hsucc]
    omega

theorem encode_exponent_significand {magnitude : Nat} (h : magnitude ≤ format.infinity) :
    format.encode (format.significand magnitude) (format.exponent magnitude) = magnitude := by
  simp only [encode, Nat.pow_eq, format.exponent_significand]
  exact min_eq_right h

/-- The exponent that rounding takes for the value of a magnitude. -/
theorem max_minExponent_log {magnitude : Nat} (h : 0 < format.significand magnitude) :
    max format.minExponent
        (Int.log 2 (format.value magnitude) - ((format.precision - 1 : Nat) : ℤ)) =
      format.exponent magnitude := by
  have hsig : (0 : ℚ) < format.significand magnitude := by exact_mod_cast h
  have hpow : (0 : ℚ) < 2 ^ format.exponent magnitude := by positivity
  have hvalue : 0 < format.value magnitude := mul_pos hsig hpow
  rcases format.significand_cases magnitude with ⟨hexp, hlt⟩ | ⟨hexp, hlow, hhigh⟩
  · have hbound : format.value magnitude <
        2 ^ (((format.precision - 1 : Nat) : ℤ) + format.exponent magnitude) := by
      rw [zpow_add₀ two_ne_zero, zpow_natCast]
      exact mul_lt_mul_of_pos_right (by exact_mod_cast hlt) hpow
    have hlog := (Int.lt_zpow_iff_log_lt Nat.one_lt_two hvalue).mp (by exact_mod_cast hbound)
    omega
  · have hlog : Int.log 2 (format.value magnitude) =
        ((format.precision - 1 : Nat) : ℤ) + format.exponent magnitude := by
      apply log_eq_of_bounds
      · rw [zpow_add₀ two_ne_zero, zpow_natCast]
        exact mul_le_mul_of_nonneg_right (by exact_mod_cast hlow) hpow.le
      · rw [zpow_add_one₀ two_ne_zero, zpow_add₀ two_ne_zero, zpow_natCast, mul_right_comm]
        refine mul_lt_mul_of_pos_right ?_ hpow
        exact_mod_cast (mul_comm 2 _) ▸ hhigh
    omega

/-- A fraction of the value of a magnitude is rounded to that magnitude. -/
theorem nearest_of_ratio_eq {fraction : Nat × Nat} (hden : 0 < fraction.2) {magnitude : Nat}
    (h : ratio fraction = format.value magnitude) (hinfinity : magnitude ≤ format.infinity) :
    format.nearest fraction.1 fraction.2 = magnitude := by
  have hdenPos : (0 : ℚ) < fraction.2 := by exact_mod_cast hden
  by_cases hnum : fraction.1 = 0
  · -- zero is the value of the magnitude zero only
    have hzero : format.value magnitude = 0 := by rw [← h, ratio, hnum]; simp
    have hsig : format.significand magnitude = 0 := by
      simpa [value, zpow_ne_zero] using hzero
    have hmagnitude := format.exponent_significand magnitude
    rcases format.significand_cases magnitude with ⟨hexp, _⟩ | ⟨_, hlow, _⟩
    · simp [hsig, hexp] at hmagnitude
      simp [nearest, hnum, hmagnitude]
    · simp [hsig] at hlow
  · have hratio : ratio fraction ≠ 0 := by
      have hnumNe : (fraction.1 : ℚ) ≠ 0 := by exact_mod_cast hnum
      exact div_ne_zero hnumNe hdenPos.ne'
    have hsig : 0 < format.significand magnitude := by
      refine Nat.pos_of_ne_zero fun hzero => hratio ?_
      rw [h, value, hzero]
      simp
    have hexponent := format.max_minExponent_log hsig
    rw [← h, ← Prod.mk.eta (p := fraction),
      ← floorLog2_eq_log (Nat.pos_of_ne_zero hnum) hden] at hexponent
    have hscaled : ratio (scaleDown 2 (format.exponent magnitude) fraction.1 fraction.2) =
        format.significand magnitude := by
      rw [ratio_scaleDown, Prod.mk.eta, h, value]
      exact mul_div_cancel_right₀ _ (by positivity)
    have hround := roundHalfEven_of_ratio_eq (scaleDown_den_pos _ _ hden) hscaled
    simp only [nearest, hnum, if_false, hexponent, hround]
    exact format.encode_exponent_significand hinfinity

/-! ## Singles as doubles -/

/-- The value of a magnitude that is put together of a significand of full length and the place
of its exponent. -/
theorem value_packed {significand : Nat} (hlow : 2 ^ (format.precision - 1) ≤ significand)
    (hhigh : significand < 2 * 2 ^ (format.precision - 1)) (place : Nat) :
    format.value (place * 2 ^ (format.precision - 1) + significand) =
      significand * 2 ^ (format.minExponent + place) := by
  have hunit : 0 < 2 ^ (format.precision - 1) := by positivity
  have hone : significand / 2 ^ (format.precision - 1) = 1 := by
    rw [Nat.div_eq_iff hunit]
    omega
  have hdiv : (place * 2 ^ (format.precision - 1) + significand) / 2 ^ (format.precision - 1) =
      place + 1 := by
    rw [Nat.mul_comm, Nat.mul_add_div hunit, hone]
  have hmod : significand % 2 ^ (format.precision - 1) + 2 ^ (format.precision - 1) =
      significand := by
    rw [Nat.mod_eq_sub_div_mul, hone]
    omega
  have hsig : format.significand (place * 2 ^ (format.precision - 1) + significand) =
      significand := by
    simp [Binary.significand, hdiv, hmod]
  rw [value, hsig]
  simp [exponent, hdiv]

theorem infinity_single : single.infinity = 255 * 2 ^ 23 := by decide

theorem infinity_double : double.infinity = 2047 * 2 ^ 52 := by decide

theorem exponent_single_bounds {magnitude : Nat} (h : magnitude < single.infinity) :
    -149 ≤ single.exponent magnitude ∧ single.exponent magnitude ≤ 104 := by
  have hfield : magnitude / 2 ^ 23 < 255 := by
    rw [infinity_single] at h
    omega
  simp only [exponent, single, Nat.pow_eq]
  omega

theorem significand_single_lt (magnitude : Nat) : single.significand magnitude < 2 ^ 24 := by
  have hcases := single.significand_cases magnitude
  simp only [single] at hcases ⊢
  omega

/-- A number of at most 53 bits, shifted up until it has exactly 53. -/
theorem shifted_bounds {n : Nat} (hzero : n ≠ 0) (hlog : n.log2 ≤ 52) :
    2 ^ 52 ≤ n * 2 ^ (52 - n.log2) ∧ n * 2 ^ (52 - n.log2) < 2 * 2 ^ 52 := by
  have hlow : 2 ^ 52 = 2 ^ n.log2 * 2 ^ (52 - n.log2) := by
    rw [← pow_add, Nat.add_sub_of_le hlog]
  have hhigh : 2 * 2 ^ 52 = 2 ^ (n.log2 + 1) * 2 ^ (52 - n.log2) := by
    rw [hlow, pow_succ', mul_assoc]
  constructor
  · rw [hlow]
    exact Nat.mul_le_mul_right _ (Nat.log2_self_le hzero)
  · rw [hhigh]
    exact Nat.mul_lt_mul_of_pos_right Nat.lt_log2_self (by positivity)

/-- Every finite single has the value of a finite double: its significand is shifted up to full
length, which the range of exponents has room for. -/
theorem exists_double_value {magnitude : Nat} (h : magnitude < single.infinity) :
    ∃ wide, wide < double.infinity ∧ double.value wide = single.value magnitude := by
  obtain ⟨hexpLow, hexpHigh⟩ := exponent_single_bounds h
  by_cases hzero : single.significand magnitude = 0
  · have hvalue : double.value 0 = 0 := by simp [value, significand]
    exact ⟨0, by decide, by rw [hvalue, value, hzero, Nat.cast_zero, zero_mul]⟩
  · have hlog : (single.significand magnitude).log2 < 24 :=
      (Nat.log2_lt hzero).mpr (significand_single_lt magnitude)
    obtain ⟨hlow, hhigh⟩ := shifted_bounds hzero (by omega)
    -- the exponent goes down by as many places as the significand goes up
    generalize hshift : 52 - (single.significand magnitude).log2 = shift at hlow hhigh
    generalize hplace : (single.exponent magnitude - shift + 1074).toNat = place
    refine ⟨place * 2 ^ 52 + single.significand magnitude * 2 ^ shift, ?_, ?_⟩
    · -- at most 104 + 23 - 52 + 1074, far below the exponent of infinity
      have hplaceLe : place ≤ 1149 := by omega
      rw [infinity_double]
      omega
    · rw [show (2 : Nat) ^ 52 = 2 ^ (double.precision - 1) from rfl,
        double.value_packed hlow hhigh, value]
      push_cast
      rw [mul_assoc, ← zpow_natCast, ← zpow_add₀ two_ne_zero]
      congr 2
      simp only [double]
      omega

/-! ## Integers as doubles -/

/-- The exponent that rounding takes leaves no more digits than the format has. -/
theorem ratio_scaleDown_lt {n : Nat} (hn : 0 < n) {e : ℤ}
    (he : floorLog2 n 1 - ((format.precision - 1 : Nat) : ℤ) ≤ e) :
    ratio (scaleDown 2 e n 1) < (2 * 2 ^ (format.precision - 1) : Nat) := by
  rw [floorLog2_eq_log hn Nat.one_pos] at he
  have hself : ratio (n, 1) < 2 ^ (Int.log 2 (ratio (n, 1)) + 1) := by
    exact_mod_cast Int.lt_zpow_succ_log_self Nat.one_lt_two (ratio (n, 1))
  rw [ratio_scaleDown, div_lt_iff₀ (by positivity)]
  calc ratio (n, 1) < 2 ^ (Int.log 2 (ratio (n, 1)) + 1) := hself
    _ ≤ 2 ^ (1 + ((format.precision - 1 : Nat) : ℤ) + e) :=
      zpow_le_zpow_right₀ one_le_two (by omega)
    _ = ((2 * 2 ^ (format.precision - 1) : Nat) : ℚ) * 2 ^ e := by
      rw [zpow_add₀ two_ne_zero, zpow_add₀ two_ne_zero, zpow_natCast, zpow_one]
      push_cast
      rfl

theorem floorLog2_one_le (n : Nat) : floorLog2 n 1 ≤ n.log2 := by
  have hone : Nat.log2 1 = 0 := by decide
  unfold floorLog2
  dsimp only
  split <;> omega

/-- No integer of 64 bits is rounded to infinity. -/
theorem nearest_double_lt_infinity {n : Nat} (h : n < 2 ^ 64) :
    double.nearest n 1 < double.infinity := by
  by_cases hzero : n = 0
  · subst hzero
    decide
  · have hn : 0 < n := Nat.pos_of_ne_zero hzero
    have hlog := floorLog2_one_le n
    have hbits : n.log2 < 64 := (Nat.log2_lt hzero).mpr h
    generalize hexponent : max double.minExponent
      (floorLog2 n 1 - ((double.precision - 1 : Nat) : ℤ)) = e
    have hround : roundHalfEven (scaleDown 2 e n 1).1 (scaleDown 2 e n 1).2 ≤ 2 * 2 ^ 52 :=
      roundHalfEven_le_of_ratio_lt (scaleDown_den_pos e n Nat.one_pos)
        (double.ratio_scaleDown_lt hn (hexponent ▸ le_max_right _ _))
    have hmin : double.minExponent = -1074 := rfl
    have hprecision : ((double.precision - 1 : Nat) : ℤ) = 52 := rfl
    have hplace : (e - double.minExponent).toNat ≤ 1085 := by omega
    have hnearest : double.nearest n 1 =
        double.encode (roundHalfEven (scaleDown 2 e n 1).1 (scaleDown 2 e n 1).2) e := by
      subst hexponent
      exact if_neg hzero
    -- rounding up gives 2 ^ 53 at most, at an exponent far below that of infinity
    rw [hnearest, encode, infinity_double]
    have hunit : Nat.pow 2 (double.precision - 1) = 2 ^ 52 := rfl
    refine (min_le_right _ _).trans_lt ?_
    rw [hunit]
    omega

end Binary
end SearchMapper.Floating

/-! ## Bits -/

namespace SearchMapper
open Floating

namespace Double

/-- The bits of a number without sign are those it is made of. -/
theorem magnitude_ofMagnitude (negative : Bool) {magnitude : Nat} (h : magnitude < 2 ^ 63) :
    (ofMagnitude negative magnitude).magnitude = magnitude := by
  cases negative with
  | false =>
    simp [ofMagnitude, Double.magnitude]
    omega
  | true =>
    simp [ofMagnitude, Double.magnitude]
    omega

theorem isNegative_ofMagnitude (negative : Bool) {magnitude : Nat} (h : magnitude < 2 ^ 63) :
    (ofMagnitude negative magnitude).isNegative = negative := by
  cases negative with
  | false =>
    simp [ofMagnitude, isNegative]
    omega
  | true =>
    simp [ofMagnitude, isNegative]
    omega

/-- An integer of 64 bits is a finite double. -/
theorem isFinite_ofInt {n : Int}
    (range : -0x8000000000000000 ≤ n ∧ n < 0x10000000000000000) :
    (ofInt n).isFinite = true := by
  have hlt : Binary.double.nearest n.natAbs 1 < Binary.double.infinity :=
    Binary.nearest_double_lt_infinity (by omega)
  have hbound : Binary.double.nearest n.natAbs 1 < 2 ^ 63 := hlt.trans (by decide)
  unfold ofInt ofRatio isFinite
  rw [magnitude_ofMagnitude _ hbound]
  exact decide_eq_true hlt

end Double

namespace Single

/-- The sign and the magnitude are all the bits. -/
theorem sign_add_magnitude (x : Single) :
    (if x.isNegative then Nat.pow 2 31 else 0) + x.magnitude = x.bits.toNat := by
  have hlt := x.bits.toNat_lt
  by_cases hneg : x.isNegative = true
  · simp only [isNegative, Nat.pow_eq, decide_eq_true_eq] at hneg
    simp [isNegative, magnitude, hneg]
    omega
  · simp only [isNegative, Nat.pow_eq, decide_eq_true_eq] at hneg
    simp [isNegative, magnitude, hneg]
    omega

/-- A finite single as a double is finite, and it has the sign and the value of the single. -/
theorem toDouble_eq {x : Single} (h : x.isFinite = true) :
    ∃ wide, wide < Binary.double.infinity ∧
      Binary.double.value wide = Binary.single.value x.magnitude ∧
      x.toDouble = .ofMagnitude x.isNegative wide := by
  obtain ⟨wide, hwide, hvalue⟩ := Binary.exists_double_value (of_decide_eq_true h)
  have hnearest : Binary.double.nearest (Binary.single.toRatio x.magnitude).1
      (Binary.single.toRatio x.magnitude).2 = wide := by
    apply Binary.double.nearest_of_ratio_eq (Binary.single.toRatio_den_pos _) _ hwide.le
    rw [Binary.ratio_toRatio, hvalue]
  exact ⟨wide, hwide, hvalue, congrArg (Double.ofMagnitude x.isNegative) hnearest⟩

theorem isFinite_toDouble {x : Single} (h : x.isFinite = true) : x.toDouble.isFinite = true := by
  obtain ⟨wide, hwide, _, heq⟩ := toDouble_eq h
  have hbound : wide < 2 ^ 63 := hwide.trans (by decide)
  simp [heq, Double.isFinite, Double.magnitude_ofMagnitude _ hbound, hwide]

/-- Widening a finite single and narrowing it back changes nothing. -/
theorem ofDouble_toDouble {x : Single} (h : x.isFinite = true) : ofDouble x.toDouble = x := by
  obtain ⟨wide, hwide, hvalue, heq⟩ := toDouble_eq h
  have hbound : wide < 2 ^ 63 := hwide.trans (by decide)
  have hfinite : x.magnitude < Binary.single.infinity := of_decide_eq_true h
  have hnearest : Binary.single.nearest (Binary.double.toRatio wide).1
      (Binary.double.toRatio wide).2 = x.magnitude := by
    apply Binary.single.nearest_of_ratio_eq (Binary.double.toRatio_den_pos _) _ hfinite.le
    rw [Binary.ratio_toRatio, hvalue]
  rw [ofDouble, heq, Double.magnitude_ofMagnitude _ hbound, Double.isNegative_ofMagnitude _ hbound]
  simp only [ofRatio, hnearest, sign_add_magnitude, UInt32.ofNat_toNat]

end Single
end SearchMapper
