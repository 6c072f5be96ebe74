import LedgerCheck.Proofs.Binary64.Distinct
import LedgerCheck.Proofs.Binary64.Nearest

/-!
# The order of numbers

Numbers are compared by their bits, which order them as their exact values do.  Rounding keeps that
order: of two rationals, the larger one is not rounded to the smaller number.  In the order of their
bits every other number is even, so that there is one number nearest to a rational.

* `Binary64.absolute_le_iff` — magnitudes are in the order of their exact values.
* **`Binary64.le_iff`** — so are the finite numbers.
* `Binary64.inUnitInterval_iff` — the numbers between zero and one.
* **`Binary64.IsNearest.eq`** — no rational has two nearest numbers.
* **`Binary64.IsNearest.toRat_le`** — rounding is monotone.
* `Binary64.RoundsToNearest` — conversions that round to the nearest number.
-/

namespace LedgerCheck
namespace Binary64

/-! ## Magnitudes -/

/-- The larger of two magnitudes has the larger unit, or more of the same unit. -/
lemma absolute_lt_of_magnitude_lt {x y : Binary64} (h : x.magnitude < y.magnitude) :
    x.absolute < y.absolute := by
  have hx := x.le_unitExponent
  have hy := y.le_unitExponent
  have hxbits := x.significand_lt
  have hybits := y.significand_lt
  rw [magnitude_eq, magnitude_eq] at h
  rcases lt_trichotomy x.unitExponent y.unitExponent with hless | hsame | hmore
  · have hfull : (2 : ℚ) ^ 52 ≤ y.significand := by
      exact_mod_cast y.le_significand_or.resolve_right (by omega)
    have hbits : (x.significand : ℚ) < 2 ^ 53 := by exact_mod_cast hxbits
    calc x.absolute < 2 ^ 53 * 2 ^ x.unitExponent :=
          mul_lt_mul_of_pos_right hbits (by positivity)
      _ = 2 ^ 52 * 2 ^ (x.unitExponent + 1) := by rw [zpow_add_one₀ two_ne_zero]; ring
      _ ≤ 2 ^ 52 * 2 ^ y.unitExponent := by
          gcongr
          · exact one_le_two
          · exact hless
      _ ≤ y.absolute := by
          rw [absolute]
          gcongr
  · rw [hsame] at h
    have hcounts : (x.significand : ℚ) < y.significand := by exact_mod_cast Nat.lt_of_add_lt_add_left h
    rw [absolute, absolute, hsame]
    exact mul_lt_mul_of_pos_right hcounts (by positivity)
  · have hfull := x.le_significand_or.resolve_right (by omega)
    omega

/-- A magnitude has one exact value. -/
lemma absolute_eq_of_magnitude_eq {x y : Binary64} (h : x.magnitude = y.magnitude) :
    x.absolute = y.absolute := by
  rw [absolute, absolute, significand, significand, unitExponent, unitExponent, h]

/-- **Magnitudes are in the order of their exact values.** -/
lemma absolute_le_iff {x y : Binary64} : x.absolute ≤ y.absolute ↔ x.magnitude ≤ y.magnitude := by
  constructor
  · intro h
    by_contra hlt
    exact (absolute_lt_of_magnitude_lt (not_le.mp hlt)).not_ge h
  · intro h
    rcases h.lt_or_eq with hlt | heq
    · exact (absolute_lt_of_magnitude_lt hlt).le
    · exact (absolute_eq_of_magnitude_eq heq).le

lemma absolute_eq_zero_iff {x : Binary64} : x.absolute = 0 ↔ x.magnitude = 0 := by
  have hzero : zero.absolute = 0 ∧ zero.magnitude = 0 := by
    rw [absolute]
    decide +kernel
  have hle : x.absolute ≤ zero.absolute ↔ x.magnitude ≤ zero.magnitude := absolute_le_iff
  rw [hzero.1, hzero.2, Nat.le_zero] at hle
  rw [← hle]
  exact ⟨le_of_eq, fun h => le_antisymm h x.absolute_nonneg⟩

/-! ## Numbers -/

/-- The ranks of numbers are in the order of their exact values. -/
lemma toRat_le_iff_rank_le {x y : Binary64} : x.toRat ≤ y.toRat ↔ x.rank ≤ y.rank := by
  have hle := absolute_le_iff (x := x) (y := y)
  have hge := absolute_le_iff (x := y) (y := x)
  have hx := x.absolute_nonneg
  have hy := y.absolute_nonneg
  rw [toRat_eq, toRat_eq, rank, rank]
  split_ifs with hxneg hyneg hyneg
  · rw [neg_le_neg_iff, neg_le_neg_iff, Nat.cast_le, hge]
  · exact iff_of_true (by linarith) (by omega)
  · -- a positive number is at most a negative one only if both are zeros
    have hzeros : x.absolute ≤ -y.absolute ↔ x.absolute = 0 ∧ y.absolute = 0 :=
      ⟨fun h => ⟨by linarith, by linarith⟩, fun h => by rw [h.1, h.2, neg_zero]⟩
    rw [hzeros, absolute_eq_zero_iff, absolute_eq_zero_iff]
    omega
  · rw [Nat.cast_le, hle]

lemma toRat_lt_iff_rank_lt {x y : Binary64} : x.toRat < y.toRat ↔ x.rank < y.rank := by
  rw [← not_le, ← not_le, toRat_le_iff_rank_le]

/-- **Finite numbers are compared by their exact values.** -/
theorem le_iff {x y : Binary64} (hx : x.isFinite = true) (hy : y.isFinite = true) :
    x.le y = true ↔ x.toRat ≤ y.toRat := by
  rw [le, isNaN_of_isFinite hx, isNaN_of_isFinite hy, toRat_le_iff_rank_le]
  simp

/-- **The numbers between zero and one**: the infinities and a NaN are none of them. -/
theorem inUnitInterval_iff {x : Binary64} :
    x.inUnitInterval = true ↔ x.isFinite = true ∧ 0 ≤ x.toRat ∧ x.toRat ≤ 1 := by
  have hends : (zero.isFinite = true ∧ zero.toRat = 0) ∧
      (ofInt 1).isFinite = true ∧ (ofInt 1).toRat = 1 := by
    decide +kernel
  obtain ⟨⟨hzero, hzero'⟩, hone, hone'⟩ := hends
  constructor
  · intro h
    have hx := isFinite_of_inUnitInterval h
    rw [inUnitInterval, Bool.and_eq_true, le_iff hzero hx, le_iff hx hone, hzero', hone'] at h
    exact ⟨hx, h⟩
  · rintro ⟨hx, h⟩
    rw [inUnitInterval, Bool.and_eq_true, le_iff hzero hx, le_iff hx hone, hzero', hone']
    exact h

/-! ## Rounding -/

/-- What is nearer to the one of two points than to the other is on its side of the middle. -/
lemma abs_sub_le_abs_sub_iff {a b q : ℚ} :
    |q - a| ≤ |q - b| ↔ 0 ≤ (a - b) * (2 * q - (a + b)) := by
  rw [← sq_le_sq, ← sub_nonneg]
  ring_nf

section Nearest

variable {x y : Binary64} {p q : ℚ}

/-- No number is between two that are nearest to the same rational. -/
lemma IsNearest.not_between (hx : x.IsNearest q) (hy : y.IsNearest q) {z : Binary64}
    (hz : z.isFinite = true) : ¬(x.toRat < z.toRat ∧ z.toRat < y.toRat) := by
  rintro ⟨hlow, hhigh⟩
  have hxnear := abs_sub_le_abs_sub_iff.mp (hx.nearest z hz)
  have hynear := abs_sub_le_abs_sub_iff.mp (hy.nearest z hz)
  have hxside : 2 * q - (x.toRat + z.toRat) ≤ 0 :=
    nonpos_of_mul_nonneg_right hxnear (sub_neg.mpr hlow)
  have hyside : 0 ≤ 2 * q - (y.toRat + z.toRat) :=
    nonneg_of_mul_nonneg_right hynear (sub_pos.mpr hhigh)
  linarith

/-- The number with the next magnitude is between two numbers that are farther apart than that. -/
lemma exists_isFinite_between (hsign : x.isNegative = y.isNegative) (hy : y.isFinite = true)
    (h : x.magnitude + 1 < y.magnitude) :
    ∃ z : Binary64, z.isFinite = true ∧
      (x.toRat < z.toRat ∧ z.toRat < y.toRat ∨ y.toRat < z.toRat ∧ z.toRat < x.toRat) := by
  have hbound : y.magnitude < 2047 * 2 ^ 52 := of_decide_eq_true hy
  have hfits : x.magnitude + 1 < 2 ^ 63 := by omega
  refine ⟨ofMagnitude x.isNegative (x.magnitude + 1), ?_, ?_⟩
  · rw [isFinite, magnitude_ofMagnitude _ hfits, decide_eq_true_iff]
    exact h.trans hbound
  · simp only [toRat_lt_iff_rank_lt, rank, isNegative_ofMagnitude _ hfits,
      magnitude_ofMagnitude _ hfits, ← hsign]
    cases x.isNegative <;> simp <;> omega

/-- **No rational has two nearest numbers.**  There is no number between them, so that their magnitudes
are consecutive; but then one of their significands is odd. -/
theorem IsNearest.eq (hx : x.IsNearest q) (hy : y.IsNearest q) : x = y := by
  have hsign : x.isNegative = y.isNegative := hx.isNegative.trans hy.isNegative.symm
  refine eq_of_magnitude_eq hsign ?_
  wlog hle : x.magnitude ≤ y.magnitude generalizing x y
  · exact (this hy hx hsign.symm (Nat.le_of_not_le hle)).symm
  by_contra hne
  have hnext : y.magnitude = x.magnitude + 1 := by
    refine le_antisymm (not_lt.mp fun hgap => ?_) (by omega)
    obtain ⟨z, hz, hbetween | hbetween⟩ := exists_isFinite_between hsign hy.isFinite hgap
    · exact hx.not_between hy hz hbetween
    · exact hy.not_between hx hz hbetween
  have hvalues : y.toRat ≠ x.toRat := by
    intro heq
    have hranks := le_antisymm (toRat_le_iff_rank_le.mp heq.le) (toRat_le_iff_rank_le.mp heq.ge)
    rw [rank, rank, hsign] at hranks
    split_ifs at hranks <;> omega
  have htie : |q - y.toRat| = |q - x.toRat| :=
    le_antisymm (hy.nearest x hx.isFinite) (hx.nearest y hy.isFinite)
  have hxeven := hx.even y hy.isFinite hvalues htie
  have hyeven := hy.even x hx.isFinite hvalues.symm htie.symm
  rw [x.magnitude_eq, y.magnitude_eq] at hnext
  omega

/-- **Rounding is monotone.**  Two numbers in the wrong order would each be nearest to its rational
only if both rationals were the point halfway between, and so the same. -/
theorem IsNearest.toRat_le (hx : x.IsNearest p) (hy : y.IsNearest q) (h : p ≤ q) :
    x.toRat ≤ y.toRat := by
  rcases h.lt_or_eq with hless | rfl
  · by_contra hlt
    have hxnear := abs_sub_le_abs_sub_iff.mp (hx.nearest y hy.isFinite)
    have hynear := abs_sub_le_abs_sub_iff.mp (hy.nearest x hx.isFinite)
    have hxside : 0 ≤ 2 * p - (x.toRat + y.toRat) :=
      nonneg_of_mul_nonneg_right hxnear (sub_pos.mpr (not_le.mp hlt))
    have hyside : 2 * q - (y.toRat + x.toRat) ≤ 0 :=
      nonpos_of_mul_nonneg_right hynear (sub_neg.mpr (not_le.mp hlt))
    linarith
  · exact hx.eq hy ▸ le_rfl

lemma toRat_ofRat_le (hp : (ofRat p).isFinite = true) (hq : (ofRat q).isFinite = true)
    (h : p ≤ q) : (ofRat p).toRat ≤ (ofRat q).toRat :=
  (isNearest_ofRat hp).toRat_le (isNearest_ofRat hq) h

end Nearest

/-- **A conversion rounds to the nearest number**, where there is no danger that this is an infinity.
Nothing is known of what it does elsewhere. -/
def RoundsToNearest (convert : ℚ → Option Binary64) : Prop :=
  ∀ q, |q| < 2 ^ (1023 : Int) → ∃ x, convert q = some x ∧ x.IsNearest q

section RoundsToNearest

variable {q : ℚ} (hq : |q| < 2 ^ (1023 : Int))
include hq

lemma isNearest_ofRat_of_abs_lt : (ofRat q).IsNearest q := isNearest_ofRat (isFinite_ofRat hq)

/-- Such a conversion does what rounding does. -/
lemma RoundsToNearest.eq_some_ofRat {convert : ℚ → Option Binary64} (h : RoundsToNearest convert) :
    convert q = some (ofRat q) := by
  obtain ⟨x, hx, hnearest⟩ := h q hq
  rw [hx, hnearest.eq (isNearest_ofRat_of_abs_lt hq)]

end RoundsToNearest

/-- Rounding itself is such a conversion. -/
lemma roundsToNearest_ofRat : RoundsToNearest (fun q => some (ofRat q)) := fun q hq =>
  ⟨ofRat q, rfl, isNearest_ofRat_of_abs_lt hq⟩

end Binary64
end LedgerCheck
