import LedgerCheck.Json.Record
import LedgerCheck.Proofs.Binary64.Rounding
import LedgerCheck.Proofs.Json.Numeral

/-!
# Numbers that are read are finite

A numeral is scaled by powers of ten on its way to a binary64 number.  Dividing by one makes a
number smaller, and a product that is not finite is refused; so there is no numeral for an infinity
or a NaN.

* `Numeral.isFinite_scaleDown` — dividing by powers of ten keeps a number finite.
* **`Numeral.isFinite_of_number?`** — the number of a numeral is finite.
* **`Document.isFinite_of_binary64?`** — so is every number that is taken out of a document.
-/

namespace LedgerCheck
namespace Numeral

/-! ## Powers of ten -/

/-- A positive power of ten is at least two. -/
lemma le_magnitude_powerOfTen {k : Nat} (hk : 0 < k) :
    1024 * 2 ^ 52 ≤ (powerOfTen k).magnitude := by
  have hten : (10 : ℚ) ≤ 10 ^ k := le_self_pow₀ (by norm_num) hk.ne'
  have hle := Binary64.le_magnitudeOfRatio (n := Nat.pow 10 k) (d := 1) (by decide) (k := 1)
    (by decide) (by decide) (by
      rw [Nat.pow_eq]
      push_cast
      linarith)
  rwa [powerOfTen, Binary64.magnitude_ofRatio]

/-- **Dividing by powers of ten keeps a number finite.** -/
lemma isFinite_scaleDown (x : Binary64) (k : Nat) (hx : x.isFinite = true) (hk : 0 < k) :
    (scaleDown x k).isFinite = true := by
  fun_induction scaleDown x k with
  | case1 x k hle =>
      exact Binary64.isFinite_div hx (le_magnitude_powerOfTen hk) (Binary64.isNaN_ofRatio _ _ _)
  | case2 x k hle hzero => exact hx
  | case3 x k hle hzero ih =>
      refine ih ?_ (by omega)
      exact Binary64.isFinite_div hx (le_magnitude_powerOfTen (by decide))
        (Binary64.isNaN_ofRatio _ _ _)

/-- A product that is too large has no value. -/
lemma isFinite_of_scaleUp? {x y : Binary64} {k : Nat} (hx : x.isFinite = true)
    (h : scaleUp? x k = some y) : y.isFinite = true := by
  simp only [scaleUp?] at h
  split_ifs at h with hle hproduct hzero
  · cases h
    exact hproduct
  · cases h
    exact hx

/-! ## Numerals -/

/-- A gathered significand fits 64 bits. -/
lemma gather_lt {significand : Nat} (h : significand < 2 ^ 64) (digits : List Char) :
    (gather significand digits).1 < 2 ^ 64 := by
  induction digits generalizing significand with
  | nil => exact h
  | cons c rest ih =>
      rw [gather]
      simp only [Nat.pow_eq]
      split_ifs with hnext
      · exact ih hnext
      · exact h

/-- An integer of 64 bits is rounded to a finite number. -/
lemma isFinite_ofRatio_one (negative : Bool) {n : Nat} (h : n ≤ 2 ^ 64) :
    (Binary64.ofRatio negative n 1).isFinite = true := by
  refine Binary64.isFinite_ofRatio negative (by decide) ?_
  have hn : (n : ℚ) ≤ 2 ^ (64 : Int) := by exact_mod_cast h
  have hlt : (2 : ℚ) ^ (64 : Int) < 2 ^ (1023 : Int) := zpow_lt_zpow_right₀ one_lt_two (by decide)
  rw [Nat.cast_one, mul_one]
  exact hn.trans_lt hlt

lemma isFinite_of_scale? {significand : Nat} (hsignificand : significand < 2 ^ 64) {exponent : Int}
    {y : Binary64} (h : scale? significand exponent = some y) : y.isFinite = true := by
  have hx := isFinite_ofRatio_one false hsignificand.le
  rw [scale?] at h
  split_ifs at h with hexponent
  · cases h
    exact isFinite_scaleDown _ _ hx (by omega)
  · exact isFinite_of_scaleUp? hx h

lemma isFinite_of_magnitude? {n : Numeral} {y : Binary64} (h : n.magnitude? = some y) :
    y.isFinite = true := by
  have hwhole : (gather 0 n.whole).1 < 2 ^ 64 := gather_lt (by decide) _
  have hgathered : (gather (gather 0 n.whole).1 n.fraction).1 < 2 ^ 64 := gather_lt hwhole _
  simp only [magnitude?] at h
  cases hexponent : n.exponent with
  | none =>
      rw [hexponent] at h
      exact isFinite_of_scale? hgathered h
  | some exponent =>
      simp only [hexponent] at h
      split_ifs at h
      · cases h
        decide
      · exact isFinite_of_scale? hgathered h
      · exact isFinite_of_scale? hgathered h

/-- **The number of a numeral is finite.** -/
theorem isFinite_of_number? {n : Numeral} {x : Binary64} (h : n.number? = some (.float x)) :
    x.isFinite = true := by
  simp only [number?] at h
  split_ifs at h with hinteger hpositive hnegative
  · cases h
  · cases h
  · cases h
    simp only [Bool.and_eq_true, decide_eq_true_eq] at hinteger
    exact isFinite_ofRatio_one true hinteger.2.le
  · obtain ⟨y, hy, hx⟩ := Option.map_eq_some_iff.mp h
    cases hx
    have hfinite := isFinite_of_magnitude? hy
    rw [Binary64.isFinite, decide_eq_true_iff] at hfinite ⊢
    rwa [signed, Binary64.magnitude_ofMagnitude _ (hfinite.trans (by decide))]

/-- The integer of a numeral fits 64 bits. -/
lemma natAbs_lt_of_number? {n : Numeral} {i : Int} (h : n.number? = some (.int i)) :
    i.natAbs < 2 ^ 64 := by
  obtain ⟨digits, -, -, hlow, hhigh⟩ := number?_eq_int_iff.mp h
  have hpow : Int.pow 2 63 = 2 ^ 63 ∧ Int.pow 2 64 = 2 ^ 64 := ⟨rfl, rfl⟩
  rw [hpow.1] at hlow
  rw [hpow.2] at hhigh
  omega

end Numeral

namespace Document

/-- **Every number that is taken out of a document is finite.** -/
theorem isFinite_of_binary64? {d : Document} {x : Binary64} (h : d.binary64? = some x) :
    x.isFinite = true := by
  rw [binary64?.eq_def] at h
  split at h
  · rename_i n
    cases hnumber : n.number? with
    | none => simp [hnumber] at h
    | some number =>
        rw [hnumber] at h
        cases number with
        | int i =>
            cases h
            exact Numeral.isFinite_ofRatio_one _ (Numeral.natAbs_lt_of_number? hnumber).le
        | float y =>
            cases h
            exact Numeral.isFinite_of_number? hnumber
  · cases h

end Document
end LedgerCheck
