import LedgerCheck.Proofs.Binary64.Shortest

/-!
# Rounding goes to the nearest number

A ratio is rounded to a count of units, and the unit is chosen so that every number of at least its
size is a count of these units as well.  So no number is nearer than the one that is rounded to, and
where another one is as near, the significand is even.

* `Binary64.nearer_divHalfEven` — no count of units is nearer to a ratio than its quotient.
* `Binary64.absolute_eq_or_lt` — a number is a count of units, or it has less than 53 bits of them.
* `Binary64.IsNearest` — being the number nearest to a rational, a tie going to the even one.
* **`Binary64.isNearest_ofRat`** — a rational that is rounded to a finite number is rounded to the
  nearest one.
-/

namespace LedgerCheck
namespace Binary64

/-! ## Counts of units -/

section Units

variable {n d : Nat}

/-- Two different counts are at least one unit apart, and so not both near to a ratio. -/
lemma le_abs_sub_add_abs_sub {k m : Nat} (h : k ≠ m) :
    (d : ℚ) ≤ |(n : ℚ) - k * d| + |(n : ℚ) - m * d| := by
  have hapart : (1 : ℚ) ≤ |(k : ℚ) - m| := by
    exact_mod_cast Int.one_le_abs (show (k : ℤ) - m ≠ 0 by omega)
  calc (d : ℚ) ≤ |(k : ℚ) - m| * d := le_mul_of_one_le_left (Nat.cast_nonneg d) hapart
    _ = |(k : ℚ) * d - m * d| := by
        rw [← sub_mul, abs_mul, Nat.abs_cast]
    _ ≤ |(k : ℚ) * d - n| + |(n : ℚ) - m * d| := abs_sub_le _ _ _
    _ = |(n : ℚ) - k * d| + |(n : ℚ) - m * d| := by rw [abs_sub_comm]

/-- At half a unit the quotient is even. -/
lemma even_divHalfEven (h : 2 * |(n : ℚ) - divHalfEven n d * d| = d) (hd : 0 < d) :
    divHalfEven n d % 2 = 0 := by
  have hsplit : d * (n / d) + n % d = n := Nat.div_add_mod n d
  have hmod : n % d < d := Nat.mod_lt n hd
  have hhalf : 2 * n = 2 * (divHalfEven n d * d) + d ∨ 2 * (divHalfEven n d * d) = 2 * n + d := by
    rcases abs_cases ((n : ℚ) - divHalfEven n d * d) with ⟨habs, -⟩ | ⟨habs, -⟩
    · left
      have hbelow : 2 * (n : ℚ) = 2 * (divHalfEven n d * d) + d := by linarith
      exact_mod_cast hbelow
    · right
      have habove : 2 * ((divHalfEven n d : ℚ) * d) = 2 * n + d := by linarith
      exact_mod_cast habove
  have hnext : (n / d + 1) * d = d * (n / d) + d := by ring
  have hsame : n / d * d = d * (n / d) := Nat.mul_comm _ _
  rw [divHalfEven] at hhalf ⊢
  split_ifs at hhalf ⊢ with hlow hhigh
  · omega
  · omega
  · omega

/-- **No count of units is nearer than the quotient**, and where another one is as near, the
quotient is even. -/
lemma nearer_divHalfEven (hd : 0 < d) (k : Nat) :
    |(n : ℚ) - divHalfEven n d * d| ≤ |(n : ℚ) - k * d| ∧
      (k ≠ divHalfEven n d → |(n : ℚ) - k * d| = |(n : ℚ) - divHalfEven n d * d| →
        divHalfEven n d % 2 = 0) := by
  have hnear := two_mul_abs_sub_divHalfEven_le (n := n) hd
  rcases eq_or_ne k (divHalfEven n d) with rfl | hne
  · exact ⟨le_rfl, fun h => absurd rfl h⟩
  have hapart := le_abs_sub_add_abs_sub (n := n) (d := d) hne
  refine ⟨by linarith, fun _ htie => even_divHalfEven ?_ hd⟩
  linarith

end Units

/-! ## Numbers as counts of units -/

/-- **A number is a count of any given unit**, or it is one of a smaller unit, and then it has less
than 53 bits of the given one. -/
lemma absolute_eq_or_lt (x : Binary64) (e : Int) :
    (∃ k : Nat, x.absolute = k * 2 ^ e) ∨ -1074 < e ∧ x.absolute < 2 ^ 52 * 2 ^ e := by
  rcases lt_or_ge x.unitExponent e with hsmall | hlarge
  · refine Or.inr ⟨x.le_unitExponent.trans_lt hsmall, ?_⟩
    have hbits : (x.significand : ℚ) < 2 ^ 53 := by exact_mod_cast x.significand_lt
    calc x.absolute < 2 ^ 53 * 2 ^ x.unitExponent :=
          mul_lt_mul_of_pos_right hbits (by positivity)
      _ = 2 ^ 52 * 2 ^ (x.unitExponent + 1) := by rw [zpow_add_one₀ two_ne_zero]; ring
      _ ≤ 2 ^ 52 * 2 ^ e := by
          gcongr
          · exact one_le_two
          · exact hsmall
  · refine Or.inl ⟨x.significand * 2 ^ (x.unitExponent - e).toNat, ?_⟩
    have hunit : (2 : ℚ) ^ x.unitExponent = 2 ^ (x.unitExponent - e).toNat * 2 ^ e := by
      rw [← zpow_natCast, ← zpow_add₀ two_ne_zero]
      congr 1
      omega
    rw [absolute, hunit]
    push_cast
    ring

/-- **The magnitude of a count of units** that has 53 bits, or is one of the smallest unit: counting
up to the next power of two goes on in a unit twice as large. -/
lemma absolute_of_magnitude {x : Binary64} {e : Int} {units : Nat} (he : -1074 ≤ e)
    (hlow : 2 ^ 52 ≤ units ∨ e = -1074) (hhigh : units ≤ 2 ^ 53)
    (h : x.magnitude = (e + 1074).toNat * 2 ^ 52 + units) :
    x.absolute = units * 2 ^ e ∧ x.significand % 2 = units % 2 := by
  have hpow : Nat.pow 2 52 = 2 ^ 52 := rfl
  rcases hhigh.lt_or_eq with hless | rfl
  · have hsame : x.significand = units ∧ x.unitExponent = e := by
      rw [significand, unitExponent, hpow, h]
      split_ifs <;> omega
    rw [absolute, hsame.1, hsame.2]
    exact ⟨rfl, rfl⟩
  · have hnext : x.significand = 2 ^ 52 ∧ x.unitExponent = e + 1 := by
      rw [significand, unitExponent, hpow, h]
      split_ifs <;> omega
    rw [absolute, hnext.1, hnext.2, zpow_add_one₀ two_ne_zero]
    refine ⟨?_, rfl⟩
    push_cast
    ring

/-! ## The nearest magnitude -/

section Magnitude

variable {n d : Nat} (hd : 0 < d)
include hd

/-- **No count of a unit is nearer to a ratio than the count of units that it is rounded to.** -/
lemma nearer_units (e : Int) (k : Nat) :
    let units := divHalfEven (n * 2 ^ (-e).toNat) (d * 2 ^ e.toNat)
    |(n : ℚ) - units * 2 ^ e * d| ≤ |(n : ℚ) - k * 2 ^ e * d| ∧
      (k ≠ units → |(n : ℚ) - k * 2 ^ e * d| = |(n : ℚ) - units * 2 ^ e * d| → units % 2 = 0) := by
  intro units
  have hpos : (0 : ℚ) < 2 ^ (-e).toNat := by positivity
  have hscale : (2 : ℚ) ^ e * 2 ^ (-e).toNat = 2 ^ e.toNat := zpow_mul_pow_toNat two_ne_zero e
  -- clearing the unit of its denominator multiplies every distance by the same power of two
  have hdistance (m : Nat) : |(n : ℚ) - m * 2 ^ e * d| * 2 ^ (-e).toNat
      = |((n * 2 ^ (-e).toNat : Nat) : ℚ) - m * (d * 2 ^ e.toNat : Nat)| := by
    push_cast
    rw [← abs_of_pos hpos, ← abs_mul, abs_of_pos hpos, sub_mul, ← hscale]
    congr 1
    ring
  obtain ⟨hnear, heven⟩ := nearer_divHalfEven (n := n * 2 ^ (-e).toNat)
    (Nat.mul_pos hd (Nat.two_pow_pos e.toNat)) k
  rw [← hdistance, ← hdistance] at hnear heven
  exact ⟨le_of_mul_le_mul_right hnear hpos, fun hne htie => heven hne (by rw [htie])⟩

/-- **No magnitude is nearer to a ratio than that of the number it is rounded to**, and where another
one is as near, the significand is even. -/
lemma nearer_magnitudeOfRatio {x : Binary64} (hx : x.isFinite = true)
    (h : x.magnitude = magnitudeOfRatio n d) (y : Binary64) :
    |(n : ℚ) - x.absolute * d| ≤ |(n : ℚ) - y.absolute * d| ∧
      (y.absolute ≠ x.absolute → |(n : ℚ) - y.absolute * d| = |(n : ℚ) - x.absolute * d| →
        x.significand % 2 = 0) := by
  have hfinite : x.magnitude < infinityMagnitude := of_decide_eq_true hx
  rcases Nat.eq_zero_or_pos n with rfl | hn
  · have hmagnitude : x.magnitude = ((-1074 : Int) + 1074).toNat * 2 ^ 52 + 0 := by
      rw [h, magnitudeOfRatio, if_pos rfl]
      rfl
    have hzero : x.absolute = 0 ∧ x.significand % 2 = 0 := by
      simpa using absolute_of_magnitude le_rfl (Or.inr rfl) (Nat.zero_le _) hmagnitude
    rw [hzero.1]
    refine ⟨?_, fun _ _ => hzero.2⟩
    rw [Nat.cast_zero, zero_mul, sub_zero, abs_zero]
    exact abs_nonneg _
  set e := unitOfRatio n d with he
  have hlow : (2 : ℚ) ^ (e + 52) * d ≤ n ∨ e = -1074 := by
    rcases le_or_gt (binade n d - 52) (-1074) with hsmall | hlarge
    · exact Or.inr (by rw [he, unitOfRatio]; omega)
    · have hbinade : e + 52 = binade n d := by rw [he, unitOfRatio]; omega
      exact Or.inl (hbinade ▸ binade_le hn hd)
  have hhigh : (n : ℚ) < 2 ^ (e + 53) * d :=
    (lt_binade hn hd).trans_le (zpow_mul_le_zpow_mul (by rw [he, unitOfRatio]; omega) d)
  set units := divHalfEven (n * 2 ^ (-e).toNat) (d * 2 ^ e.toNat) with hunits
  have hmagnitude : x.magnitude = (e + 1074).toNat * 2 ^ 52 + units := by
    rw [h, magnitudeOfRatio, if_neg hn.ne'] at hfinite ⊢
    simp only [Nat.pow_eq, ← he, ← hunits] at hfinite ⊢
    omega
  obtain ⟨habsolute, hparity⟩ := absolute_of_magnitude (by rw [he, unitOfRatio]; omega)
    (hlow.imp_left fun hle => le_units hd e 52 hle) (units_le hd e 53 hhigh) hmagnitude
  rw [habsolute, hparity]
  rcases y.absolute_eq_or_lt e with ⟨k, hk⟩ | ⟨hleast, hlt⟩
  · rw [hk]
    obtain ⟨hnear, heven⟩ := nearer_units hd e k
    exact ⟨hnear, fun hne => heven fun hsame => hne (by rw [hsame])⟩
  · -- the smallest count with all bits is between the other number and the ratio
    have hfull := hlow.resolve_right hleast.ne'
    have hnear := (nearer_units (n := n) hd e (2 ^ 52)).1
    have hbelow : y.absolute * d < 2 ^ 52 * 2 ^ e * d :=
      mul_lt_mul_of_pos_right hlt (by exact_mod_cast hd)
    have hbetween : (2 : ℚ) ^ 52 * 2 ^ e * d ≤ n := by
      rwa [zpow_add₀ two_ne_zero, mul_comm (2 ^ e : ℚ)] at hfull
    have hstrict : |(n : ℚ) - units * 2 ^ e * d| < |(n : ℚ) - y.absolute * d| := by
      have hcast : ((2 ^ 52 : Nat) : ℚ) = 2 ^ 52 := by norm_num
      rw [hcast, abs_of_nonneg (sub_nonneg.mpr hbetween)] at hnear
      exact hnear.trans_lt ((sub_lt_sub_left hbelow _).trans_le (le_abs_self _))
    exact ⟨hstrict.le, fun _ htie => absurd htie hstrict.ne'⟩

end Magnitude

/-! ## The nearest number -/

/-- The exact value of a number is its magnitude under its sign. -/
lemma toRat_eq (x : Binary64) : x.toRat = if x.isNegative then -x.absolute else x.absolute := by
  have hden : (x.denominator : ℚ) ≠ 0 := by exact_mod_cast x.denominator_pos.ne'
  have hvalue : (x.numerator : ℚ) / x.denominator = x.absolute := by
    rw [numerator_eq, mul_div_cancel_right₀ _ hden, absolute]
  rw [toRat, Rat.mkRat_eq_div]
  split_ifs
  · push_cast
    rw [neg_div, hvalue]
  · push_cast
    rw [hvalue]

lemma absolute_nonneg (x : Binary64) : 0 ≤ x.absolute := by
  rw [absolute]
  positivity

lemma abs_toRat (x : Binary64) : |x.toRat| = x.absolute := by
  rw [toRat_eq]
  split_ifs
  · rw [abs_neg, abs_of_nonneg x.absolute_nonneg]
  · rw [abs_of_nonneg x.absolute_nonneg]

lemma isNegative_ofMagnitude (negative : Bool) {m : Nat} (hm : m < 2 ^ 63) :
    (ofMagnitude negative m).isNegative = negative := by
  rw [isNegative, ofMagnitude, UInt64.toNat_ofNat']
  simp only [Nat.pow_eq]
  cases negative
  · simp only [Bool.false_eq_true, if_false, decide_eq_false_iff_not]
    omega
  · simp only [if_true, decide_eq_true_iff]
    omega

/-- **The number is the one nearest to a rational**: it is finite and has the sign of the rational, no
finite number is nearer, and if another one is as near, the significand is even. -/
structure IsNearest (x : Binary64) (q : ℚ) : Prop where
  isFinite : x.isFinite = true
  isNegative : x.isNegative = decide (q < 0)
  nearest : ∀ y : Binary64, y.isFinite = true → |q - x.toRat| ≤ |q - y.toRat|
  even : ∀ y : Binary64, y.isFinite = true → y.toRat ≠ x.toRat →
    |q - y.toRat| = |q - x.toRat| → x.significand % 2 = 0

/-- **A rational that is rounded to a finite number is rounded to the nearest one.** -/
theorem isNearest_ofRat {q : ℚ} (h : (ofRat q).isFinite = true) : (ofRat q).IsNearest q := by
  set x := ofRat q with hx
  have hsign : x.isNegative = decide (q < 0) :=
    isNegative_ofMagnitude _ ((magnitudeOfRatio_le_infinity _ _).trans_lt (by decide))
  have hmagnitude : x.magnitude = magnitudeOfRatio q.num.natAbs q.den := magnitude_ofRatio _ _ _
  have hden : (0 : ℚ) < q.den := by exact_mod_cast q.den_pos
  have hnum : (q.num.natAbs : ℚ) = |q| * q.den := by
    rw [Nat.cast_natAbs, Int.cast_abs, ← Rat.mul_den_eq_num, abs_mul, abs_of_pos hden]
  -- the distance of the number is that of its magnitude, as it has the sign of the rational
  have hdistance : |q - x.toRat| = |(|q| - x.absolute)| := by
    rw [toRat_eq, hsign]
    rcases lt_or_ge q 0 with hneg | hpos
    · rw [decide_eq_true hneg, if_pos rfl, abs_of_neg hneg, ← abs_neg]
      congr 1
      ring
    · rw [decide_eq_false hpos.not_gt, if_neg Bool.false_ne_true, abs_of_nonneg hpos]
  have hmagnitudes (y : Binary64) : |(|q| - y.absolute)| ≤ |q - y.toRat| := by
    rw [← abs_toRat y]
    exact abs_abs_sub_abs_le q y.toRat
  have hscale (y : Binary64) :
      |(q.num.natAbs : ℚ) - y.absolute * q.den| = |(|q| - y.absolute)| * q.den := by
    rw [hnum, ← sub_mul, abs_mul, abs_of_pos hden]
  have hnearer (y : Binary64) := nearer_magnitudeOfRatio q.den_pos h hmagnitude y
  simp only [hscale] at hnearer
  have hnear (y : Binary64) : |(|q| - x.absolute)| ≤ |(|q| - y.absolute)| :=
    le_of_mul_le_mul_right (hnearer y).1 hden
  refine ⟨h, hsign, fun y _ => ?_, fun y _ hne htie => ?_⟩
  · rw [hdistance]
    exact (hnear y).trans (hmagnitudes y)
  · rw [hdistance] at htie
    have hsame : |(|q| - y.absolute)| = |(|q| - x.absolute)| :=
      le_antisymm (htie ▸ hmagnitudes y) (hnear y)
    by_cases habsolute : y.absolute = x.absolute
    · -- a number and its opposite are as near only to zero, which is rounded to zero
      have hopposite : y.toRat = -x.toRat := by
        rw [← abs_toRat, ← abs_toRat] at habsolute
        exact (abs_eq_abs.mp habsolute).resolve_left hne
      have hproduct : q * x.toRat = 0 := by
        have hsquare := sq_eq_sq_iff_abs_eq_abs (q - y.toRat) (q - x.toRat) |>.mpr
          (htie.trans hdistance.symm)
        rw [hopposite] at hsquare
        linarith
      have hzero : q = 0 := by
        refine (mul_eq_zero.mp hproduct).resolve_right fun hx => hne ?_
        rw [hopposite, hx, neg_zero]
      have hmagnitude : x.magnitude = 0 := by rw [hx, hzero]; decide
      rw [significand, hmagnitude]
      rfl
    · exact (hnearer y).2 habsolute (by rw [hsame])

end Binary64
end LedgerCheck
