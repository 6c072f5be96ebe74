import LedgerCheck.Proofs.Binary64.Shortest

/-!
# Distinct numbers have distinct numerals

A numeral, positional or scientific, has the value of the shortest decimal that it was made of.
That decimal is rounded to its number, and so a numeral is written for one finite number only.

* `Numeral.decimal` — the exact decimal that a numeral writes, its sign aside.
* `Binary64.value_numeral` — the numeral of a number writes the shortest decimal of the number.
* **`Binary64.numeral_inj`** — finite numbers with one numeral are the same, bit for bit.
-/

namespace LedgerCheck

namespace Numeral

/-- The exponent that stands behind a numeral; without one it is zero. -/
def exponentValue : Option (Bool × List Char) → Int
  | none => 0
  | some (negative, digits) => if negative then -Digits.decimal digits else Digits.decimal digits

/-- The decimal that a numeral writes, its sign aside. -/
def decimal (n : Numeral) : Decimal :=
  ⟨Digits.decimal (n.whole ++ n.fraction), exponentValue n.exponent - n.fraction.length⟩

end Numeral

namespace Binary64

/-! ## Both notations -/

section Notations

variable (negative : Bool) {digits : List Char} (hdigits : digits ≠ []) (exponent : Int)
include hdigits

/-- In positional notation the digits count from the exponent of the first one. -/
lemma value_positionalNumeral : (positionalNumeral negative digits exponent).decimal.value
    = Digits.decimal digits * 10 ^ (exponent + 1 - digits.length) := by
  have hlength : 0 < digits.length := List.length_pos_of_ne_nil hdigits
  rw [positionalNumeral]
  split_ifs with hexponent
  · have hzeros : ['0'] ++ (List.replicate (-exponent - 1).toNat '0' ++ digits)
        = List.replicate ((-exponent - 1).toNat + 1) '0' ++ digits := by
      rw [List.replicate_succ]
      rfl
    simp only [Numeral.decimal, Decimal.value, hzeros, Digits.decimal_replicate_append,
      Numeral.exponentValue, List.length_append, List.length_replicate]
    congr 2
    push_cast
    omega
  · rcases Nat.lt_or_ge (exponent.toNat + 1) digits.length with hinside | houtside
    · -- the point stands inside the digits
      have hrest : (digits.drop (exponent.toNat + 1)).isEmpty = false := by
        rw [List.isEmpty_eq_false_iff, ← List.length_pos_iff, List.length_drop]
        omega
      have hwhole : exponent.toNat + 1 - (digits.take (exponent.toNat + 1)).length = 0 := by
        rw [List.length_take]
        omega
      simp only [Numeral.decimal, Decimal.value, hrest, hwhole, Bool.false_eq_true, if_false,
        List.replicate_zero, List.append_nil, List.take_append_drop, Numeral.exponentValue,
        List.length_drop]
      congr 2
      omega
    · -- zeros stand between the digits and the point, and one behind it
      have hrest : digits.drop (exponent.toNat + 1) = [] := List.drop_eq_nil_of_le houtside
      have hwhole : digits.take (exponent.toNat + 1) = digits := List.take_of_length_le houtside
      have hzeros : digits ++ List.replicate (exponent.toNat + 1 - digits.length) '0' ++ ['0']
          = digits ++ List.replicate (exponent.toNat + 1 - digits.length + 1) '0' := by
        rw [List.append_assoc, List.replicate_succ']
      simp only [Numeral.decimal, Decimal.value, hrest, hwhole, List.isEmpty_nil, if_true, hzeros,
        Digits.decimal_append_replicate, Numeral.exponentValue, List.length_singleton]
      push_cast
      rw [mul_comm ((10 : ℚ) ^ _), mul_assoc, ← zpow_natCast, ← zpow_add₀ (by norm_num)]
      congr 2
      push_cast
      omega

/-- In scientific notation they do as well. -/
lemma value_scientificNumeral : (scientificNumeral negative digits exponent).decimal.value
    = Digits.decimal digits * 10 ^ (exponent + 1 - digits.length) := by
  have hlength : 0 < digits.length := List.length_pos_of_ne_nil hdigits
  have hexponent : Numeral.exponentValue
      (some (decide (exponent < 0), Nat.toDigits 10 exponent.natAbs)) = exponent := by
    rw [Numeral.exponentValue, Digits.decimal_toDigits]
    split_ifs with hsign
    · have := of_decide_eq_true hsign
      omega
    · have := of_decide_eq_false (Bool.eq_false_of_not_eq_true hsign)
      omega
  simp only [scientificNumeral, Numeral.decimal, Decimal.value, hexponent, List.take_append_drop,
    List.length_drop]
  congr 2
  omega

end Notations

/-! ## The numeral of a number -/

/-- The digits of a coefficient are the significant ones and zeros behind them. -/
lemma exists_toDigits_eq (n : Nat) :
    ∃ k, Nat.toDigits 10 n = significantDigits n ++ List.replicate k '0' := by
  refine ⟨((Nat.toDigits 10 n).rtakeWhile (· == '0')).length, ?_⟩
  have hzeros : (Nat.toDigits 10 n).rtakeWhile (· == '0')
      = List.replicate ((Nat.toDigits 10 n).rtakeWhile (· == '0')).length '0' :=
    List.eq_replicate_of_mem fun c hc => by simpa using List.mem_rtakeWhile_imp hc
  rw [← hzeros]
  exact (List.rdropWhile_append_rtakeWhile (p := (· == '0'))).symm

/-- The significant digits have the value of the decimal, at the exponent of the last of them. -/
lemma value_significantDigits {d : Decimal} (h : 0 < d.coefficient) :
    (Digits.decimal (significantDigits d.coefficient) : ℚ)
        * 10 ^ ((digitCount d.coefficient : Int) - 1 + d.exponent + 1
          - (significantDigits d.coefficient).length) = d.value := by
  obtain ⟨k, hk⟩ := exists_toDigits_eq d.coefficient
  have hcount : digitCount d.coefficient = (significantDigits d.coefficient).length + k := by
    rw [digitCount, if_neg h.ne', hk, List.length_append, List.length_replicate]
  have hcoefficient : (d.coefficient : ℚ)
      = Digits.decimal (significantDigits d.coefficient) * 10 ^ (k : Int) := by
    have hnat : d.coefficient = 10 ^ k * Digits.decimal (significantDigits d.coefficient) := by
      rw [← Digits.decimal_append_replicate, ← hk, Digits.decimal_toDigits]
    rw [zpow_natCast, mul_comm]
    exact_mod_cast hnat
  rw [Decimal.value, hcoefficient, hcount, mul_assoc, ← zpow_add₀ (by norm_num)]
  congr 2
  push_cast
  ring

/-- **The numeral of a number writes its shortest decimal.** -/
theorem value_numeral (x : Binary64) : x.numeral.decimal.value = x.shortest.value := by
  cases hzero : x.isZero with
  | true => simp [numeral, shortest, hzero, Numeral.decimal, Decimal.value, Digits.decimal]
  | false =>
      have hpos := coefficient_shortest_pos hzero
      obtain ⟨first, rest, hdigits, -⟩ := exists_significantDigits hpos
      have hne : significantDigits x.shortest.coefficient ≠ [] := by simp [hdigits]
      rw [← value_significantDigits hpos, numeral]
      simp only [hzero, Bool.false_eq_true, if_false]
      split_ifs
      · exact value_positionalNumeral _ hne _
      · exact value_scientificNumeral _ hne _

lemma negative_numeral (x : Binary64) : x.numeral.negative = x.isNegative := by
  rw [numeral]
  simp only [positionalNumeral, scientificNumeral]
  split_ifs <;> rfl

/-- A number is given by its sign and its magnitude. -/
lemma eq_of_magnitude_eq {x y : Binary64} (hsign : x.isNegative = y.isNegative)
    (hmagnitude : x.magnitude = y.magnitude) : x = y := by
  have hx := x.bits.toNat_lt
  have hy := y.bits.toNat_lt
  rw [isNegative, isNegative, decide_eq_decide] at hsign
  rw [magnitude, magnitude] at hmagnitude
  simp only [Nat.pow_eq] at hsign hmagnitude
  have hbits : x.bits = y.bits := UInt64.toNat_inj.mp (by omega)
  cases x
  cases y
  exact congrArg mk hbits

/-- **Finite numbers with one numeral are the same number.** -/
theorem numeral_inj {x y : Binary64} (hx : x.isFinite = true) (hy : y.isFinite = true)
    (h : x.numeral = y.numeral) : x = y := by
  refine eq_of_magnitude_eq ?_ ?_
  · rw [← x.negative_numeral, h, y.negative_numeral]
  · have hvalue : x.shortest.value = y.shortest.value := by
      rw [← x.value_numeral, h, y.value_numeral]
    rw [← magnitudeOfRatio_shortest hx, magnitudeOfRatio_of_value_eq hvalue,
      magnitudeOfRatio_shortest hy]

end Binary64
end LedgerCheck
