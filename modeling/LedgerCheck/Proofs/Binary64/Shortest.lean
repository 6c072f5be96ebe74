import LedgerCheck.Proofs.Binary64.Numeral
import LedgerCheck.Proofs.Binary64.Rounding

/-!
# The shortest decimal rounds to its number

Rounding is a function of the exact ratio, and it takes every ratio that is near enough to a number
to that number.  So the decimal that a number is written as determines the number: a short one was
tried, and seventeen digits are near enough.

* `Binary64.magnitudeOfRatio_congr` — equal ratios are rounded alike.
* **`Binary64.magnitudeOfRatio_of_near`** — a ratio whose distance from a number is small against
  the number is rounded to it.
* **`Binary64.magnitudeOfRatio_shortest`** — the shortest decimal is rounded to its number.
-/

namespace LedgerCheck
namespace Binary64

/-! ## Equal ratios -/

section Congr

variable {n d n' d' : Nat}

lemma divHalfEven_mul_left {k : Nat} (hk : 0 < k) (n d : Nat) :
    divHalfEven (k * n) (k * d) = divHalfEven n d := by
  have hlow : 2 * (k * (n % d)) < k * d ↔ 2 * (n % d) < d := by
    rw [mul_left_comm, Nat.mul_lt_mul_left hk]
  have hhigh : k * d < 2 * (k * (n % d)) ↔ d < 2 * (n % d) := by
    rw [mul_left_comm, Nat.mul_lt_mul_left hk]
  simp only [divHalfEven, Nat.mul_div_mul_left _ _ hk, Nat.mul_mod_mul_left, hlow, hhigh]

variable (hd : 0 < d) (hd' : 0 < d') (h : n * d' = n' * d)
include hd hd' h

lemma divHalfEven_congr : divHalfEven n d = divHalfEven n' d' :=
  calc divHalfEven n d = divHalfEven (d' * n) (d' * d) := (divHalfEven_mul_left hd' n d).symm
    _ = divHalfEven (d * n') (d * d') := by rw [mul_comm d', h, mul_comm n', mul_comm d' d]
    _ = divHalfEven n' d' := divHalfEven_mul_left hd n' d'

/-- Of two equal ratios, one is in a binade only if the other is. -/
lemma binade_le_binade (hn : 0 < n) : binade n d ≤ binade n' d' := by
  have hdQ : (0 : ℚ) < d := by exact_mod_cast hd
  have hratio : (n : ℚ) * d' = n' * d := by exact_mod_cast h
  have hn' : 0 < n' := by
    refine Nat.pos_of_mul_pos_right (b := d) ?_
    rw [← h]
    exact Nat.mul_pos hn hd'
  refine le_binade_of_le hn' hd' (le_of_mul_le_mul_right ?_ hdQ)
  calc (2 : ℚ) ^ binade n d * d' * d = 2 ^ binade n d * d * d' := by ring
    _ ≤ n * d' := mul_le_mul_of_nonneg_right (binade_le hn hd) (Nat.cast_nonneg _)
    _ = n' * d := hratio

/-- **Equal ratios are rounded alike.** -/
theorem magnitudeOfRatio_congr : magnitudeOfRatio n d = magnitudeOfRatio n' d' := by
  rcases Nat.eq_zero_or_pos n with rfl | hn
  · have hn' : n' = 0 := by
      rw [Nat.zero_mul] at h
      exact (Nat.mul_eq_zero.mp h.symm).resolve_right hd.ne'
    rw [hn', magnitudeOfRatio, magnitudeOfRatio, if_pos rfl, if_pos rfl]
  · have hn' : 0 < n' := by
      refine Nat.pos_of_mul_pos_right (b := d) ?_
      rw [← h]
      exact Nat.mul_pos hn hd'
    have hunit : unitOfRatio n d = unitOfRatio n' d' := by
      rw [unitOfRatio, unitOfRatio, le_antisymm (binade_le_binade hd hd' h hn)
        (binade_le_binade hd' hd h.symm hn')]
    have hscaled : ∀ p q : Nat, n * p * (d' * q) = n' * p * (d * q) := by
      intro p q
      calc n * p * (d' * q) = n * d' * (p * q) := by ring
        _ = n' * d * (p * q) := by rw [h]
        _ = n' * p * (d * q) := by ring
    have hpow : ∀ k : Nat, 0 < Nat.pow 2 k := fun k => Nat.pow_pos (by decide)
    simp only [magnitudeOfRatio, if_neg hn.ne', if_neg hn'.ne', hunit]
    rw [divHalfEven_congr (Nat.mul_pos hd (hpow _)) (Nat.mul_pos hd' (hpow _)) (hscaled _ _)]

end Congr

/-! ## The nearest quotient -/

section Nearest

variable {n d m : Nat}

/-- The quotient is no further away than half of the divisor. -/
lemma two_mul_abs_sub_divHalfEven_le (hd : 0 < d) :
    2 * |(n : ℚ) - divHalfEven n d * d| ≤ d := by
  have hsplit : d * (n / d) + n % d = n := Nat.div_add_mod n d
  have hmod : n % d < d := Nat.mod_lt n hd
  have hnat : 2 * n ≤ 2 * (divHalfEven n d * d) + d ∧ 2 * (divHalfEven n d * d) ≤ 2 * n + d := by
    have hnext : (n / d + 1) * d = d * (n / d) + d := by ring
    have hsame : n / d * d = d * (n / d) := Nat.mul_comm _ _
    rw [divHalfEven]
    split_ifs with hlow hhigh
    · omega
    · omega
    · -- at a half the quotient is one of the two neighbours
      rcases Nat.mod_two_eq_zero_or_one (n / d) with heven | hodd
      · rw [heven, Nat.add_zero]
        omega
      · rw [hodd]
        omega
  have habove : 2 * (n : ℚ) ≤ 2 * (divHalfEven n d * d) + d := by exact_mod_cast hnat.1
  have hbelow : 2 * ((divHalfEven n d : ℚ) * d) ≤ 2 * n + d := by exact_mod_cast hnat.2
  have habs : |(n : ℚ) - divHalfEven n d * d| ≤ d / 2 := abs_le.mpr ⟨by linarith, by linarith⟩
  linarith

/-- What is nearer than half of the divisor is the quotient. -/
lemma divHalfEven_eq (h : 2 * |(n : ℚ) - m * d| < d) : divHalfEven n d = m := by
  have habs := abs_lt.mp (show |(n : ℚ) - m * d| < d / 2 by linarith)
  have hd : 0 < d := by
    have hpos : (0 : ℚ) < d := lt_of_le_of_lt (by positivity) h
    exact_mod_cast hpos
  have hnear := two_mul_abs_sub_divHalfEven_le (n := n) hd
  -- two multiples of the divisor that are less than one divisor apart are the same
  have hdistance : |((divHalfEven n d : ℤ) : ℚ) - ((m : ℤ) : ℚ)| * d < 1 * d := by
    have htriangle := abs_sub_le ((divHalfEven n d : ℚ) * d) n (m * d)
    rw [← abs_of_pos (show (0 : ℚ) < d by exact_mod_cast hd), ← abs_mul,
      abs_of_pos (show (0 : ℚ) < d by exact_mod_cast hd)]
    push_cast
    rw [sub_mul]
    rw [abs_sub_comm] at hnear
    linarith
  have hone := lt_of_mul_lt_mul_right hdistance (Nat.cast_nonneg d)
  have hint : |(divHalfEven n d : ℤ) - (m : ℤ)| < 1 := by exact_mod_cast hone
  rw [Int.abs_lt_one_iff] at hint
  omega

end Nearest

/-- A ratio that is nearer than half a unit to a count of units is rounded to that count. -/
lemma units_eq {n d : Nat} (e : Int) (units : Nat)
    (h : 2 * |(n : ℚ) - units * (2 ^ e * d)| < 2 ^ e * d) :
    divHalfEven (n * 2 ^ (-e).toNat) (d * 2 ^ e.toNat) = units := by
  have hpos : (0 : ℚ) < 2 ^ (-e).toNat := by positivity
  have hscale : (2 : ℚ) ^ e * d * 2 ^ (-e).toNat = d * 2 ^ e.toNat := by
    rw [mul_right_comm, zpow_mul_pow_toNat two_ne_zero, mul_comm]
  refine divHalfEven_eq ?_
  push_cast
  calc 2 * |(n : ℚ) * 2 ^ (-e).toNat - units * (d * 2 ^ e.toNat)|
      = 2 * |((n : ℚ) - units * (2 ^ e * d)) * 2 ^ (-e).toNat| := by
        rw [sub_mul, mul_assoc (units : ℚ), hscale]
    _ = 2 * |(n : ℚ) - units * (2 ^ e * d)| * 2 ^ (-e).toNat := by
        rw [abs_mul, abs_of_pos hpos, mul_assoc]
    _ < 2 ^ e * d * 2 ^ (-e).toNat := mul_lt_mul_of_pos_right h hpos
    _ = d * 2 ^ e.toNat := hscale

/-! ## Near a number -/

/-- The exact magnitude of a finite number. -/
def absolute (x : Binary64) : ℚ := x.significand * 2 ^ x.unitExponent

/-- The magnitude of a number, put together from its unit and its significand. -/
lemma magnitude_eq (x : Binary64) :
    x.magnitude = (x.unitExponent + 1074).toNat * 2 ^ 52 + x.significand := by
  have hpow : Nat.pow 2 52 = 2 ^ 52 := rfl
  rw [unitExponent, significand, hpow]
  rcases Nat.lt_or_ge x.magnitude (2 ^ 52) with hsmall | hlarge
  · rw [if_pos hsmall, if_pos hsmall]
    omega
  · rw [if_neg hlarge.not_gt, if_neg hlarge.not_gt]
    omega

lemma significand_lt (x : Binary64) : x.significand < 2 ^ 53 := by
  have hpow : Nat.pow 2 52 = 2 ^ 52 := rfl
  rw [significand, hpow]
  split <;> omega

/-- All bits of a significand are used, except in the smallest unit. -/
lemma le_significand_or (x : Binary64) : 2 ^ 52 ≤ x.significand ∨ x.unitExponent = -1074 := by
  have hpow : Nat.pow 2 52 = 2 ^ 52 := rfl
  rw [unitExponent, significand, hpow]
  split_ifs <;> omega

lemma le_unitExponent (x : Binary64) : -1074 ≤ x.unitExponent := by
  rw [unitExponent]
  simp only [Nat.pow_eq]
  split_ifs <;> omega

section Unit

variable {n d : Nat} (hn : 0 < n) {e : Int}
include hn

/-- The unit in which a ratio is rounded gives it 53 bits, or is the smallest one. -/
lemma unitOfRatio_eq (hd : 0 < d) (he : -1074 ≤ e) (hlow : (2 : ℚ) ^ (e + 52) * d ≤ n ∨ e = -1074)
    (hhigh : (n : ℚ) < 2 ^ (e + 53) * d) : unitOfRatio n d = e := by
  have hlt := binade_lt_of_lt hn hd hhigh
  rw [unitOfRatio]
  rcases hlow with hle | hleast
  · have := le_binade_of_le hn hd hle
    omega
  · omega

/-- The magnitude of a ratio, put together from its unit and the nearest count of units. -/
lemma magnitudeOfRatio_eq (hunit : unitOfRatio n d = e) {units : Nat}
    (h : 2 * |(n : ℚ) - units * (2 ^ e * d)| < 2 ^ e * d)
    (hfinite : (e + 1074).toNat * 2 ^ 52 + units < infinityMagnitude) :
    magnitudeOfRatio n d = (e + 1074).toNat * 2 ^ 52 + units := by
  rw [magnitudeOfRatio, if_neg hn.ne']
  simp only [Nat.pow_eq, hunit, units_eq e units h]
  exact Nat.min_eq_right hfinite.le

end Unit

section Near

variable {x : Binary64} (hx : x.isFinite = true) {n d : Nat} (hn : 0 < n) (hd : 0 < d)
include hx hn hd

/-- Where the ratio is rounded in the unit of the number, half a unit is near enough. -/
lemma magnitudeOfRatio_of_same
    (hlow : (2 : ℚ) ^ (x.unitExponent + 52) * d ≤ n ∨ x.unitExponent = -1074)
    (h : 2 * |(n : ℚ) - x.significand * (2 ^ x.unitExponent * d)| < 2 ^ x.unitExponent * d) :
    magnitudeOfRatio n d = x.magnitude := by
  have hfinite : x.magnitude < infinityMagnitude := of_decide_eq_true hx
  have hbits : (x.significand : ℚ) ≤ 2 ^ 53 - 1 := by
    rw [le_sub_iff_add_le]
    exact_mod_cast x.significand_lt
  have hhigh : (n : ℚ) < 2 ^ (x.unitExponent + 53) * d := by
    have hunit : (0 : ℚ) < 2 ^ x.unitExponent * d := by positivity
    have hle := le_abs_self ((n : ℚ) - x.significand * (2 ^ x.unitExponent * d))
    calc (n : ℚ) < (x.significand + 1) * (2 ^ x.unitExponent * d) := by linarith
      _ ≤ 2 ^ 53 * (2 ^ x.unitExponent * d) := by
          refine mul_le_mul_of_nonneg_right ?_ hunit.le
          linarith
      _ = 2 ^ (x.unitExponent + 53) * d := by
          rw [zpow_add₀ two_ne_zero]
          ring
  rw [magnitude_eq] at hfinite ⊢
  exact magnitudeOfRatio_eq hn (unitOfRatio_eq hn hd x.le_unitExponent hlow hhigh) h hfinite

/-- Below a power of two the units are half as large, and a quarter of a unit is near enough. -/
lemma magnitudeOfRatio_of_below (hsignificand : x.significand = 2 ^ 52)
    (hunit : x.unitExponent ≠ -1074) (hhigh : (n : ℚ) < 2 ^ (x.unitExponent + 52) * d)
    (h : 4 * |(n : ℚ) - x.significand * (2 ^ x.unitExponent * d)| < 2 ^ x.unitExponent * d) :
    magnitudeOfRatio n d = x.magnitude := by
  have hfinite : x.magnitude < infinityMagnitude := of_decide_eq_true hx
  have hleast := x.le_unitExponent
  have hmagnitude : x.magnitude = (x.unitExponent - 1 + 1074).toNat * 2 ^ 52 + 2 ^ 53 := by
    rw [magnitude_eq, hsignificand]
    omega
  have htwice : (2 : ℚ) ^ x.unitExponent = 2 * 2 ^ (x.unitExponent - 1) := by
    rw [← zpow_one_add₀ two_ne_zero]
    congr 1
    ring
  have hcast : ((2 ^ 52 : Nat) : ℚ) = 2 ^ 52 := by norm_num
  rw [hsignificand, hcast, htwice] at h
  rw [hmagnitude] at hfinite ⊢
  refine magnitudeOfRatio_eq hn (unitOfRatio_eq hn hd (by omega) (Or.inl ?_) ?_) ?_ hfinite
  · have hle := neg_abs_le ((n : ℚ) - 2 ^ 52 * (2 * 2 ^ (x.unitExponent - 1) * d))
    have hpos : (0 : ℚ) < 2 ^ (x.unitExponent - 1) * d := by positivity
    rw [zpow_add₀ two_ne_zero]
    norm_num at hle h ⊢
    linarith
  · rwa [show x.unitExponent - 1 + 53 = x.unitExponent + 52 by ring]
  · push_cast
    calc (2 : ℚ) * |(n : ℚ) - 2 ^ 53 * (2 ^ (x.unitExponent - 1) * d)|
        = 2 * |(n : ℚ) - 2 ^ 52 * (2 * 2 ^ (x.unitExponent - 1) * d)| := by ring_nf
      _ < 2 ^ (x.unitExponent - 1) * d := by linarith

end Near

/-- **A ratio near a number is rounded to it**, if its distance is less than the number divided by
`2 ^ 54`, which is half of the smaller gap beside a power of two. -/
theorem magnitudeOfRatio_of_near {x : Binary64} (hx : x.isFinite = true) {n d : Nat} (hd : 0 < d)
    (h : 2 ^ 54 * |(n : ℚ) - x.absolute * d| < x.absolute * d) :
    magnitudeOfRatio n d = x.magnitude := by
  have hbits : (x.significand : ℚ) < 2 ^ 53 := by
    exact_mod_cast x.significand_lt
  have hunit : (0 : ℚ) < 2 ^ x.unitExponent * d := by positivity
  rw [absolute, mul_assoc] at h
  have hdistance := abs_nonneg ((n : ℚ) - x.significand * (2 ^ x.unitExponent * d))
  have hbelow := neg_abs_le ((n : ℚ) - x.significand * (2 ^ x.unitExponent * d))
  have hn : 0 < n := by
    have hpos : (0 : ℚ) < n := by linarith
    exact_mod_cast hpos
  by_cases hsame : (2 : ℚ) ^ (x.unitExponent + 52) * d ≤ n ∨ x.unitExponent = -1074
  · refine magnitudeOfRatio_of_same hx hn hd hsame ?_
    have := mul_lt_mul_of_pos_right hbits hunit
    linarith
  · obtain ⟨hlt, hleast⟩ := not_or.mp hsame
    rw [not_le] at hlt
    -- the significand is the least one with all bits: from the next one on, half a unit is too near
    have hsignificand : x.significand = 2 ^ 52 := by
      refine le_antisymm ?_ (x.le_significand_or.resolve_right hleast)
      by_contra hmore
      have hnext : (2 : ℚ) ^ 52 + 1 ≤ x.significand := by
        exact_mod_cast Nat.lt_of_not_le hmore
      have := mul_le_mul_of_nonneg_right hnext hunit.le
      have := mul_lt_mul_of_pos_right hbits hunit
      rw [zpow_add₀ two_ne_zero] at hlt
      norm_num at *
      linarith
    refine magnitudeOfRatio_of_below hx hn hd hsignificand hleast hlt ?_
    rw [hsignificand] at h ⊢
    push_cast at h ⊢
    linarith

end Binary64

/-! ## Decimals -/

namespace Decimal

/-- The exact value of a decimal. -/
def value (d : Decimal) : ℚ := d.coefficient * 10 ^ d.exponent

lemma denominator_pos (d : Decimal) : 0 < d.denominator := Nat.pow_pos (by decide)

lemma numerator_eq (d : Decimal) : (d.numerator : ℚ) = d.value * d.denominator := by
  rw [numerator, denominator, value]
  simp only [Nat.pow_eq]
  push_cast
  rw [mul_assoc, Binary64.zpow_mul_pow_toNat (by norm_num)]

end Decimal

namespace Binary64

/-- Decimals of one value are rounded alike. -/
lemma magnitudeOfRatio_of_value_eq {d d' : Decimal} (h : d.value = d'.value) :
    magnitudeOfRatio d.numerator d.denominator
      = magnitudeOfRatio d'.numerator d'.denominator := by
  refine magnitudeOfRatio_congr d.denominator_pos d'.denominator_pos ?_
  have hratio : (d.numerator : ℚ) * d'.denominator = d'.numerator * d.denominator := by
    rw [d.numerator_eq, d'.numerator_eq, h]
    ring
  exact_mod_cast hratio

lemma zpow_leadingExponent_le {n d : Nat} (hn : 0 < n) (hd : 0 < d) :
    (10 : ℚ) ^ leadingExponent n d * d ≤ n := by
  have hpos : (0 : ℚ) < 10 ^ (-leadingExponent n d).toNat := by positivity
  refine le_of_mul_le_mul_right ?_ hpos
  rw [mul_right_comm, zpow_mul_pow_toNat (by norm_num), mul_comm]
  exact_mod_cast pow_leadingExponent_le hn hd

/-- The nearest decimal with a given exponent is no further away than half of its last digit. -/
lemma two_mul_abs_sub_nearest_le (n : Nat) {d : Nat} (hd : 0 < d) (exponent : Int) :
    2 * |(n : ℚ) - (⟨divHalfEven (n * Nat.pow 10 (-exponent).toNat)
        (d * Nat.pow 10 exponent.toNat), exponent⟩ : Decimal).value * d| ≤ 10 ^ exponent * d := by
  have hpos : (0 : ℚ) < 10 ^ (-exponent).toNat := by positivity
  have hscale : (10 : ℚ) ^ exponent * d * 10 ^ (-exponent).toNat = d * 10 ^ exponent.toNat := by
    rw [mul_right_comm, zpow_mul_pow_toNat (by norm_num), mul_comm]
  have hnear := two_mul_abs_sub_divHalfEven_le (n := n * Nat.pow 10 (-exponent).toNat)
    (Nat.mul_pos hd (Nat.pow_pos (by decide) : 0 < Nat.pow 10 exponent.toNat))
  rw [Decimal.value]
  generalize divHalfEven _ _ = c at hnear ⊢
  simp only [Nat.pow_eq] at hnear
  push_cast at hnear
  refine le_of_mul_le_mul_right ?_ hpos
  calc 2 * |(n : ℚ) - c * 10 ^ exponent * d| * 10 ^ (-exponent).toNat
      = 2 * |((n : ℚ) - c * 10 ^ exponent * d) * 10 ^ (-exponent).toNat| := by
        rw [abs_mul, abs_of_pos hpos, mul_assoc]
    _ = 2 * |(n : ℚ) * 10 ^ (-exponent).toNat - c * (d * 10 ^ exponent.toNat)| := by
        rw [sub_mul, mul_assoc (c : ℚ), mul_assoc (c : ℚ), hscale]
    _ ≤ d * 10 ^ exponent.toNat := hnear
    _ = 10 ^ exponent * d * 10 ^ (-exponent).toNat := hscale.symm

/-! ## The shortest decimal -/

section Shortest

variable {x : Binary64} (hx : x.isFinite = true) (hzero : x.isZero = false)
include hx hzero

/-- **Seventeen digits are enough**: the nearest decimal of that many digits is rounded to the
number. -/
lemma roundsTo_seventeen :
    roundsTo (shortestFrom x.numerator x.denominator x.magnitude 17 0) x.magnitude = true := by
  have hn := numerator_pos hzero
  have hden : (0 : ℚ) < x.denominator := by exact_mod_cast x.denominator_pos
  have hleading := zpow_leadingExponent_le hn x.denominator_pos
  rw [roundsTo, beq_iff_eq, shortestFrom]
  generalize hexponent : leadingExponent x.numerator x.denominator + 1 - (17 : Nat) = exponent
  have hpower : (10 : ℚ) ^ leadingExponent x.numerator x.denominator = 10 ^ 16 * 10 ^ exponent := by
    rw [← hexponent, ← zpow_natCast, ← zpow_add₀ (by norm_num)]
    congr 1
    push_cast
    ring
  have hnear := two_mul_abs_sub_nearest_le x.numerator x.denominator_pos exponent
  generalize hdecimal : (⟨divHalfEven _ _, exponent⟩ : Decimal) = decimal at hnear ⊢
  refine magnitudeOfRatio_of_near hx decimal.denominator_pos ?_
  have hdenominator : (0 : ℚ) < decimal.denominator := by exact_mod_cast decimal.denominator_pos
  have hpos : (0 : ℚ) < 10 ^ exponent := by positivity
  -- both the distance and the size of the number, without the denominator of the number
  have hnumerator : (x.numerator : ℚ) = x.absolute * x.denominator := numerator_eq x
  have hdistance : 2 * |x.absolute - decimal.value| ≤ 10 ^ exponent := by
    rw [hnumerator, ← sub_mul, abs_mul, abs_of_pos hden, ← mul_assoc] at hnear
    exact le_of_mul_le_mul_right hnear hden
  have hsize : 10 ^ 16 * 10 ^ exponent ≤ x.absolute := by
    rw [hnumerator, hpower] at hleading
    exact le_of_mul_le_mul_right hleading hden
  rw [decimal.numerator_eq, ← sub_mul, abs_mul, abs_of_pos hdenominator, ← mul_assoc]
  refine mul_lt_mul_of_pos_right ?_ hdenominator
  rw [abs_sub_comm]
  linarith

omit hx hzero in
/-- A decimal that was chosen from a grid was tried. -/
lemma roundsTo_of_onGrid? {n d m count : Nat} {decimal : Decimal}
    (h : onGrid? n d m count = some decimal) : roundsTo decimal m = true := by
  simp only [onGrid?] at h
  split at h
  · rename_i hbelow habove
    cases h
    rw [divHalfEven]
    split_ifs
    · exact hbelow
    · exact habove
    · rcases Nat.mod_two_eq_zero_or_one (_ / _) with heven | hodd
      · rw [heven]
        exact hbelow
      · rw [hodd]
        exact habove
  · rename_i hbelow _
    cases h
    exact hbelow
  · rename_i _ habove
    cases h
    exact habove
  · cases h

lemma roundsTo_shortestFrom (count more : Nat) (hcount : count + more = 17) :
    roundsTo (shortestFrom x.numerator x.denominator x.magnitude count more) x.magnitude
      = true := by
  induction more generalizing count with
  | zero =>
      obtain rfl : count = 17 := hcount
      exact roundsTo_seventeen hx hzero
  | succ more ih =>
      rw [shortestFrom]
      cases hgrid : onGrid? x.numerator x.denominator x.magnitude count with
      | none => exact ih (count + 1) (by omega)
      | some decimal => exact roundsTo_of_onGrid? hgrid

end Shortest

/-- **The shortest decimal of a finite number is rounded to the number.** -/
theorem magnitudeOfRatio_shortest {x : Binary64} (hx : x.isFinite = true) :
    magnitudeOfRatio x.shortest.numerator x.shortest.denominator = x.magnitude := by
  rw [shortest]
  cases hzero : x.isZero with
  | true =>
      have hmagnitude : x.magnitude = 0 := by simpa [isZero] using hzero
      rw [hmagnitude]
      rfl
  | false => exact beq_iff_eq.mp (roundsTo_shortestFrom hx hzero 1 16 rfl)

end Binary64
end LedgerCheck
