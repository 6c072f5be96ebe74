import Mathlib
import LedgerCheck.Binary64.Basic

/-!
# Rounding between powers of two

A ratio is rounded to a number of its own binade, or to the power of two at the end of it.  So a
ratio that is clearly below the largest number is rounded to a finite one.

* `Binary64.binade_le`, `Binary64.lt_binade` — the binade of a ratio.
* `Binary64.le_magnitudeOfRatio`, `Binary64.magnitudeOfRatio_le` — rounding leaves a ratio on its
  side of a power of two.
* `Binary64.isFinite_ofRatio`, `Binary64.isFinite_ofRat`, `Binary64.isFinite_div` — results that are
  finite.
-/

namespace LedgerCheck
namespace Binary64

/-! ## Powers -/

/-- A power with an integer exponent, cleared of its denominator. -/
lemma zpow_mul_pow_toNat {b : ℚ} (hb : b ≠ 0) (k : Int) :
    b ^ k * b ^ (-k).toNat = b ^ k.toNat := by
  rw [← zpow_natCast, ← zpow_natCast, ← zpow_add₀ hb]
  congr 1
  omega

/-- A comparison with a power of two, without and with a fraction. -/
lemma mul_pow_le_iff (n d : Nat) (k : Int) :
    d * 2 ^ k.toNat ≤ n * 2 ^ (-k).toNat ↔ (2 : ℚ) ^ k * d ≤ n := by
  have hpos : (0 : ℚ) < 2 ^ (-k).toNat := by positivity
  rw [← mul_le_mul_iff_left₀ hpos, mul_right_comm, zpow_mul_pow_toNat two_ne_zero]
  constructor
  · intro h
    have hcast : ((d * 2 ^ k.toNat : Nat) : ℚ) ≤ ((n * 2 ^ (-k).toNat : Nat) : ℚ) := by
      exact_mod_cast h
    push_cast at hcast
    linarith
  · intro h
    have hcast : ((d * 2 ^ k.toNat : Nat) : ℚ) ≤ ((n * 2 ^ (-k).toNat : Nat) : ℚ) := by
      push_cast
      linarith
    exact_mod_cast hcast

/-- A smaller power of two of a ratio is less. -/
lemma zpow_mul_le_zpow_mul {j k : Int} (h : j ≤ k) (d : Nat) :
    (2 : ℚ) ^ j * d ≤ 2 ^ k * d :=
  mul_le_mul_of_nonneg_right (zpow_le_zpow_right₀ one_le_two h) (Nat.cast_nonneg d)

/-! ## The binade of a ratio -/

section Ratio

variable {n d : Nat} (hn : 0 < n) (hd : 0 < d)
include hn hd

/-- The difference of the logarithms is the exponent of the binade, or one more than it. -/
lemma log2_sub_log2 :
    (2 : ℚ) ^ ((n.log2 : Int) - d.log2 - 1) * d ≤ n ∧
      (n : ℚ) < 2 ^ ((n.log2 : Int) - d.log2 + 1) * d := by
  have hn₁ : (2 : ℚ) ^ n.log2 ≤ n := by exact_mod_cast Nat.log2_self_le hn.ne'
  have hn₂ : (n : ℚ) < 2 ^ (n.log2 + 1) := by exact_mod_cast Nat.lt_log2_self
  have hd₁ : (2 : ℚ) ^ d.log2 ≤ d := by exact_mod_cast Nat.log2_self_le hd.ne'
  have hd₂ : (d : ℚ) < 2 ^ (d.log2 + 1) := by exact_mod_cast Nat.lt_log2_self
  have hlow : (2 : ℚ) ^ ((n.log2 : Int) - d.log2 - 1) * 2 ^ (d.log2 + 1) = 2 ^ n.log2 := by
    rw [← zpow_natCast, ← zpow_natCast, ← zpow_add₀ two_ne_zero]
    congr 1
    push_cast
    ring
  have hhigh : (2 : ℚ) ^ ((n.log2 : Int) - d.log2 + 1) * 2 ^ d.log2 = 2 ^ (n.log2 + 1) := by
    rw [← zpow_natCast, ← zpow_natCast, ← zpow_add₀ two_ne_zero]
    congr 1
    push_cast
    ring
  constructor
  · calc (2 : ℚ) ^ ((n.log2 : Int) - d.log2 - 1) * d
        ≤ 2 ^ ((n.log2 : Int) - d.log2 - 1) * 2 ^ (d.log2 + 1) := by gcongr
      _ = 2 ^ n.log2 := hlow
      _ ≤ n := hn₁
  · calc (n : ℚ) < 2 ^ (n.log2 + 1) := hn₂
      _ = 2 ^ ((n.log2 : Int) - d.log2 + 1) * 2 ^ d.log2 := hhigh.symm
      _ ≤ 2 ^ ((n.log2 : Int) - d.log2 + 1) * d := by gcongr

/-- **The binade of a ratio**: its power of two is no more than the ratio. -/
lemma binade_le : (2 : ℚ) ^ binade n d * d ≤ n := by
  rw [binade]
  split_ifs with h
  · exact (mul_pow_le_iff n d _).mp h
  · exact (log2_sub_log2 hn hd).1

/-- The next power of two is more than the ratio. -/
lemma lt_binade : (n : ℚ) < 2 ^ (binade n d + 1) * d := by
  rw [binade]
  split_ifs with h
  · exact (log2_sub_log2 hn hd).2
  · rw [sub_add_cancel, ← not_le]
    exact fun hle => h ((mul_pow_le_iff n d _).mpr hle)

lemma le_binade_of_le {k : Int} (h : (2 : ℚ) ^ k * d ≤ n) : k ≤ binade n d := by
  by_contra hlt
  have := zpow_mul_le_zpow_mul (by omega : binade n d + 1 ≤ k) d
  linarith [lt_binade hn hd]

lemma binade_lt_of_lt {k : Int} (h : (n : ℚ) < 2 ^ k * d) : binade n d < k := by
  by_contra hle
  have := zpow_mul_le_zpow_mul (by omega : k ≤ binade n d) d
  linarith [binade_le hn hd]

end Ratio

/-! ## Rounding a ratio -/

section Quotient

variable {n d m : Nat}

lemma le_divHalfEven (hd : 0 < d) (h : d * m ≤ n) : m ≤ divHalfEven n d := by
  have hquotient : m ≤ n / d := (Nat.le_div_iff_mul_le hd).mpr (by rwa [mul_comm])
  rw [divHalfEven]
  split_ifs <;> omega

lemma divHalfEven_le (hd : 0 < d) (h : n < d * m) : divHalfEven n d ≤ m := by
  have hquotient : n / d < m := (Nat.div_lt_iff_lt_mul hd).mpr (by rwa [mul_comm])
  rw [divHalfEven]
  split_ifs <;> omega

end Quotient

/-- The ratio in its unit has at least as many units as a power of two. -/
lemma le_units {n d : Nat} (hd : 0 < d) (e : Int) (p : Nat) (h : (2 : ℚ) ^ (e + p) * d ≤ n) :
    2 ^ p ≤ divHalfEven (n * 2 ^ (-e).toNat) (d * 2 ^ e.toNat) := by
  refine le_divHalfEven (by positivity) ?_
  have hscaled : d * 2 ^ p * 2 ^ e.toNat ≤ n * 2 ^ (-e).toNat := by
    rw [mul_pow_le_iff]
    push_cast
    rw [zpow_add₀ two_ne_zero, zpow_natCast] at h
    linarith
  linarith

/-- The ratio in its unit has at most as many units as a power of two that is more. -/
lemma units_le {n d : Nat} (hd : 0 < d) (e : Int) (p : Nat) (h : (n : ℚ) < 2 ^ (e + p) * d) :
    divHalfEven (n * 2 ^ (-e).toNat) (d * 2 ^ e.toNat) ≤ 2 ^ p := by
  refine divHalfEven_le (by positivity) ?_
  have hscaled : ¬ d * 2 ^ p * 2 ^ e.toNat ≤ n * 2 ^ (-e).toNat := by
    rw [mul_pow_le_iff, not_le]
    push_cast
    rw [zpow_add₀ two_ne_zero, zpow_natCast] at h
    linarith
  linarith

/-- **A ratio that is no less than a power of two is not rounded below it.** -/
lemma le_magnitudeOfRatio {n d : Nat} (hd : 0 < d) {k : Int} (hlow : -1022 ≤ k) (hhigh : k ≤ 1024)
    (h : (2 : ℚ) ^ k * d ≤ n) : (k + 1023).toNat * 2 ^ 52 ≤ magnitudeOfRatio n d := by
  have hn : 0 < n := by
    have hpos : (0 : ℚ) < 2 ^ k * d := by positivity
    exact_mod_cast hpos.trans_le h
  have hbinade := le_binade_of_le hn hd h
  have hunit : unitOfRatio n d = binade n d - 52 := by
    rw [unitOfRatio]
    omega
  have hunits := le_units hd (binade n d - 52) 52 (by simpa using binade_le hn hd)
  rw [magnitudeOfRatio, if_neg hn.ne', hunit]
  simp only [infinityMagnitude, Nat.pow_eq]
  omega

/-- **A ratio that is less than a power of two is not rounded above it.** -/
lemma magnitudeOfRatio_le {n d : Nat} (hd : 0 < d) {k : Int} (hlow : -1022 ≤ k)
    (h : (n : ℚ) < 2 ^ k * d) : magnitudeOfRatio n d ≤ (k + 1023).toNat * 2 ^ 52 := by
  rcases Nat.eq_zero_or_pos n with rfl | hn
  · rw [magnitudeOfRatio, if_pos rfl]
    exact Nat.zero_le _
  have hbinade := binade_lt_of_lt hn hd h
  have hlt := lt_binade hn hd
  rw [magnitudeOfRatio, if_neg hn.ne']
  simp only [infinityMagnitude, Nat.pow_eq]
  -- Below the normal numbers the unit does not shrink with the binade.
  rcases le_or_gt (-1022) (binade n d) with hnormal | hsmall
  · have hunit : unitOfRatio n d = binade n d - 52 := by
      rw [unitOfRatio]
      omega
    have hunits := units_le hd (binade n d - 52) 53
      (by rwa [show binade n d - 52 + (53 : Nat) = binade n d + 1 by push_cast; ring])
    rw [hunit]
    omega
  · have hunit : unitOfRatio n d = -1074 := by
      rw [unitOfRatio]
      omega
    have hunits := units_le hd (-1074) 52
      (hlt.trans_le (zpow_mul_le_zpow_mul (by push_cast; omega) d))
    rw [hunit]
    omega

/-! ## Magnitudes -/

lemma magnitude_ofMagnitude (negative : Bool) {m : Nat} (hm : m < 2 ^ 63) :
    (ofMagnitude negative m).magnitude = m := by
  rw [magnitude, ofMagnitude, UInt64.toNat_ofNat']
  simp only [Nat.pow_eq]
  split_ifs <;> omega

lemma magnitudeOfRatio_le_infinity (n d : Nat) : magnitudeOfRatio n d ≤ infinityMagnitude := by
  rw [magnitudeOfRatio]
  split_ifs
  · exact Nat.zero_le _
  · exact Nat.min_le_left _ _

lemma magnitude_ofRatio (negative : Bool) (n d : Nat) :
    (ofRatio negative n d).magnitude = magnitudeOfRatio n d :=
  magnitude_ofMagnitude negative ((magnitudeOfRatio_le_infinity n d).trans_lt (by decide))

/-- Rounding a ratio gives a number or an infinity. -/
lemma isNaN_ofRatio (negative : Bool) (n d : Nat) : (ofRatio negative n d).isNaN = false := by
  rw [isNaN, magnitude_ofRatio, decide_eq_false_iff_not]
  exact Nat.not_lt.mpr (magnitudeOfRatio_le_infinity n d)

/-- The exact magnitude of a number is its significand in its unit. -/
lemma numerator_eq (x : Binary64) :
    (x.numerator : ℚ) = x.significand * 2 ^ x.unitExponent * x.denominator := by
  rw [numerator, denominator]
  simp only [Nat.pow_eq]
  push_cast
  rw [mul_assoc, zpow_mul_pow_toNat two_ne_zero]

/-- A finite number is less than the power of two after the largest number. -/
lemma numerator_lt {x : Binary64} (h : x.isFinite = true) :
    (x.numerator : ℚ) < 2 ^ (1024 : Int) * x.denominator := by
  have hmagnitude : x.magnitude < 2047 * 2 ^ 52 := of_decide_eq_true h
  have hden : (0 : ℚ) < x.denominator := by
    exact_mod_cast (Nat.pow_pos (by decide) : 0 < x.denominator)
  have hsignificand : x.significand < 2 ^ 53 := by
    rw [significand]
    simp only [Nat.pow_eq]
    split_ifs <;> omega
  have hunit : x.unitExponent ≤ 971 := by
    rw [unitExponent]
    simp only [Nat.pow_eq]
    split_ifs <;> omega
  rw [numerator_eq]
  refine mul_lt_mul_of_pos_right ?_ hden
  calc (x.significand : ℚ) * 2 ^ x.unitExponent < 2 ^ 53 * 2 ^ x.unitExponent := by
        gcongr
        exact_mod_cast hsignificand
    _ ≤ 2 ^ 53 * 2 ^ (971 : Int) := by
        gcongr
        exact one_le_two
    _ = 2 ^ (1024 : Int) := by
        rw [← zpow_natCast, ← zpow_add₀ two_ne_zero]
        norm_num

/-- A number of at least the magnitude of two is at least two. -/
lemma le_numerator {x : Binary64} (h : 1024 * 2 ^ 52 ≤ x.magnitude) :
    2 * (x.denominator : ℚ) ≤ x.numerator := by
  have hsignificand : 2 ^ 52 ≤ x.significand := by
    rw [significand]
    simp only [Nat.pow_eq]
    split_ifs <;> omega
  have hunit : -51 ≤ x.unitExponent := by
    rw [unitExponent]
    simp only [Nat.pow_eq]
    split_ifs <;> omega
  rw [numerator_eq]
  refine mul_le_mul_of_nonneg_right ?_ (Nat.cast_nonneg _)
  calc (2 : ℚ) = 2 ^ 52 * 2 ^ (-51 : Int) := by
        rw [← zpow_natCast, ← zpow_add₀ two_ne_zero]
        norm_num
    _ ≤ x.significand * 2 ^ (-51 : Int) := by
        gcongr
        exact_mod_cast hsignificand
    _ ≤ x.significand * 2 ^ x.unitExponent := by
        gcongr
        exact one_le_two

/-! ## Finite results -/

/-- **A ratio below the power of two before the largest number is rounded to a finite number.** -/
lemma isFinite_ofRatio (negative : Bool) {n d : Nat} (hd : 0 < d)
    (h : (n : ℚ) < 2 ^ (1023 : Int) * d) : (ofRatio negative n d).isFinite = true := by
  have hmagnitude := magnitudeOfRatio_le hd (by decide) h
  rw [isFinite, magnitude_ofRatio, decide_eq_true_iff]
  exact hmagnitude.trans_lt (by decide)

/-- **A rational of that size is rounded to a finite number.** -/
lemma isFinite_ofRat {q : ℚ} (h : |q| < 2 ^ (1023 : Int)) : (ofRat q).isFinite = true := by
  refine isFinite_ofRatio _ q.den_pos ?_
  have hden : (0 : ℚ) < q.den := by exact_mod_cast q.den_pos
  have hnum : (q.num.natAbs : ℚ) = |q| * q.den := by
    rw [Nat.cast_natAbs, Int.cast_abs, ← Rat.mul_den_eq_num, abs_mul, abs_of_pos hden]
  rw [hnum]
  exact mul_lt_mul_of_pos_right h hden

lemma isNaN_of_isFinite {x : Binary64} (h : x.isFinite = true) : x.isNaN = false :=
  decide_eq_false (Nat.not_lt_of_gt (of_decide_eq_true h))

/-- **A finite number divided by one of at least two is finite.** -/
lemma isFinite_div {x y : Binary64} (hx : x.isFinite = true) (hy : 1024 * 2 ^ 52 ≤ y.magnitude)
    (hnan : y.isNaN = false) : (x.div y).isFinite = true := by
  have hzero : y.isZero = false := by
    rw [isZero, beq_eq_false_iff_ne]
    omega
  rw [div]
  simp only [isNaN_of_isFinite hx, hnan, hx, hzero, Bool.or_self, Bool.false_eq_true, if_false,
    if_true]
  -- The quotient by an infinity is a zero.
  cases hfinite : y.isFinite with
  | false =>
      rw [isFinite, Bool.not_false, if_pos rfl, magnitude_ofMagnitude _ (by decide)]
      decide
  | true =>
      have hxden : (0 : ℚ) < x.denominator := by
        exact_mod_cast (Nat.pow_pos (by decide) : 0 < x.denominator)
      have hyden : (0 : ℚ) < y.denominator := by
        exact_mod_cast (Nat.pow_pos (by decide) : 0 < y.denominator)
      have hquotient := le_numerator hy
      have hynum : (0 : ℚ) < y.numerator := by linarith
      rw [Bool.not_true, if_neg Bool.false_ne_true]
      refine isFinite_ofRatio _ (by exact_mod_cast mul_pos hxden hynum) ?_
      rw [Nat.cast_mul, Nat.cast_mul]
      have htwo : (2 : ℚ) ^ (1024 : Int) = 2 ^ (1023 : Int) * 2 :=
        zpow_add_one₀ two_ne_zero 1023
      calc (x.numerator : ℚ) * y.denominator
          < 2 ^ (1024 : Int) * x.denominator * y.denominator :=
            mul_lt_mul_of_pos_right (numerator_lt hx) hyden
        _ = 2 ^ (1023 : Int) * x.denominator * (2 * y.denominator) := by rw [htwo]; ring
        _ ≤ 2 ^ (1023 : Int) * x.denominator * y.numerator := by gcongr
        _ = 2 ^ (1023 : Int) * (x.denominator * y.numerator) := by ring

/-! ## The unit interval -/

/-- A number of the unit interval is finite: its magnitude is no more than that of one. -/
lemma isFinite_of_inUnitInterval {x : Binary64} (h : x.inUnitInterval = true) :
    x.isFinite = true := by
  rw [inUnitInterval, Bool.and_eq_true] at h
  obtain ⟨hzero, hone⟩ := h
  have hlow : zero.rank ≤ x.rank := by
    rw [le, Bool.and_eq_true] at hzero
    exact of_decide_eq_true hzero.2
  have hhigh : x.rank ≤ (ofInt 1).rank := by
    rw [le, Bool.and_eq_true] at hone
    exact of_decide_eq_true hone.2
  have hends : zero.rank = 0 ∧ (ofInt 1).rank < infinityMagnitude := by
    decide +kernel
  have hrank : x.rank = if x.isNegative then -(x.magnitude : Int) else x.magnitude := rfl
  rw [hends.1, hrank] at hlow
  rw [hrank] at hhigh
  refine decide_eq_true ?_
  split_ifs at hlow hhigh <;> omega

end Binary64
end LedgerCheck
