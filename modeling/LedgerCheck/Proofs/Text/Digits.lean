import Mathlib
import LedgerCheck.Text.Digits

/-!
# Decimal digits

`Nat.toDigits` writes a natural number in digits and `Digits.decimal` reads digits as a number.

* `Digits.decimal_toDigits` — what was written is read back.
* `Digits.decimal_replicate_append`, `Digits.decimal_append_replicate` — zeros around digits.
* `Digits.head_toDigits` — a positive number is written without a zero in front.
* `Digits.IsWhole` — digits without needless zeros in front; `Digits.toDigits_decimal` says that a
  number is written in no other digits of this kind.
* `Digits.padded_decimal` — nor is it in other digits of a given width.
* `Digits.takeWhile_append`, `Digits.dropWhile_append` — where the digits in front of a text end.
-/

namespace LedgerCheck
namespace Digits

/-- The value of digits is the one that the library gives to them. -/
lemma decimal_eq_ofDigitChars (digits : List Char) :
    decimal digits = Nat.ofDigitChars 10 digits 0 := rfl

/-- The digits of a number write that number. -/
lemma decimal_toDigits (n : Nat) : decimal (Nat.toDigits 10 n) = n := by
  rw [decimal_eq_ofDigitChars, Nat.ofDigitChars_ten_toDigits]

/-- Zeros in front of digits do not count. -/
lemma decimal_replicate_append (k : Nat) (digits : List Char) :
    decimal (List.replicate k '0' ++ digits) = decimal digits := by
  rw [decimal_eq_ofDigitChars, Nat.ofDigitChars_append, Nat.ofDigitChars_replicate_zero, mul_zero,
    ← decimal_eq_ofDigitChars]

/-- Each zero behind digits counts ten times. -/
lemma decimal_append_replicate (digits : List Char) (k : Nat) :
    decimal (digits ++ List.replicate k '0') = 10 ^ k * decimal digits := by
  rw [decimal_eq_ofDigitChars, Nat.ofDigitChars_append, Nat.ofDigitChars_replicate_zero,
    ← decimal_eq_ofDigitChars]

lemma isDigit_of_mem_toDigits {n : Nat} {c : Char} (h : c ∈ Nat.toDigits 10 n) :
    c.isDigit = true :=
  Nat.isDigit_of_mem_toDigits (by decide) (by decide) h

/-- A positive number is written without a zero in front. -/
lemma head_toDigits {n : Nat} (h : 0 < n) : (Nat.toDigits 10 n).head? ≠ some '0' := by
  induction n using Nat.strong_induction_on with
  | _ n ih =>
      by_cases hn : n < 10
      · rw [Nat.toDigits_of_lt_base hn, List.head?_singleton, Ne, Option.some.injEq,
          Nat.digitChar_eq_zero]
        exact h.ne'
      · rw [Nat.toDigits_of_base_le (by decide) (Nat.le_of_not_lt hn), List.head?_append_of_ne_nil _
          Nat.toDigits_ne_nil]
        exact ih (n / 10) (by omega) (by omega)

/-! ## Digits that a number is written in -/

/-- **Digits without needless zeros**: there is one, and the first one is a zero only alone. -/
structure IsWhole (digits : List Char) : Prop where
  ne_nil : digits ≠ []
  isDigit : ∀ c ∈ digits, c.isDigit = true
  alone : digits.head? = some '0' → digits = ['0']

lemma isWhole_toDigits (n : Nat) : IsWhole (Nat.toDigits 10 n) where
  ne_nil := Nat.toDigits_ne_nil
  isDigit _ := isDigit_of_mem_toDigits
  alone h := by
    rcases Nat.eq_zero_or_pos n with rfl | hn
    · rfl
    · exact absurd h (head_toDigits hn)

lemma decimal_concat (digits : List Char) (c : Char) :
    decimal (digits ++ [c]) = 10 * decimal digits + (c.toNat - '0'.toNat) := by
  rw [decimal, List.foldl_append]
  rfl

/-- A digit stands for a number below ten, which is written as that digit. -/
lemma digitChar_sub {c : Char} (h : c.isDigit = true) :
    c.toNat - '0'.toNat < 10 ∧ (c.toNat - '0'.toNat).digitChar = c := by
  have hrange : 48 ≤ c.toNat ∧ c.toNat ≤ 57 := by
    simpa [Char.isDigit, UInt32.le_iff_toNat_le] using h
  have hzero : '0'.toNat = 48 := rfl
  have hall : ∀ k < 10, (48 + k - 48).digitChar = Char.ofNat (48 + k) := by decide
  obtain ⟨k, hk⟩ := Nat.exists_eq_add_of_le hrange.1
  rw [hzero]
  refine ⟨by omega, ?_⟩
  rw [hk, hall k (by omega), ← hk, Char.ofNat_toNat]

/-- **Digits without needless zeros are those that their value is written in.** -/
lemma toDigits_decimal {digits : List Char} (h : IsWhole digits) :
    Nat.toDigits 10 (decimal digits) = digits := by
  induction digits using List.reverseRecOn with
  | nil => exact absurd rfl h.ne_nil
  | append_singleton digits c ih =>
      obtain ⟨hlt, hchar⟩ := digitChar_sub (h.isDigit c (by simp))
      rw [decimal_concat]
      rcases eq_or_ne digits [] with rfl | hne
      · rw [show 10 * decimal [] + (c.toNat - '0'.toNat) = c.toNat - '0'.toNat from Nat.zero_add _,
          Nat.toDigits_of_lt_base hlt, hchar, List.nil_append]
      · have hhead : digits.head? ≠ some '0' := by
          intro hzero
          have halone := h.alone (by rw [List.head?_append_of_ne_nil _ hne, hzero])
          simpa [hne] using congrArg List.length halone
        have hdigits : Nat.toDigits 10 (decimal digits) = digits :=
          ih ⟨hne, fun d hd => h.isDigit d (by simp [hd]), fun hzero => absurd hzero hhead⟩
        have hpos : 0 < decimal digits := by
          rw [Nat.pos_iff_ne_zero]
          intro hzero
          rw [hzero] at hdigits
          exact hhead (by rw [← hdigits]; rfl)
        rw [← Nat.toDigits_append_toDigits (by decide) hpos hlt, hdigits,
          Nat.toDigits_of_lt_base hlt, hchar]

/-- **Digits are those that their value is written in at their width.** -/
lemma padded_decimal {digits : List Char} (hne : digits ≠ [])
    (hdigits : ∀ c ∈ digits, c.isDigit = true) :
    padded 10 digits.length (decimal digits) = digits := by
  obtain ⟨k, rest, rfl, hrest⟩ : ∃ k rest, digits = List.replicate k '0' ++ rest ∧
      rest.head? ≠ some '0' := by
    refine ⟨(digits.takeWhile (· == '0')).length, digits.dropWhile (· == '0'), ?_, ?_⟩
    · rw [← List.eq_replicate_of_mem fun c hc => by simpa using List.mem_takeWhile_imp hc,
        List.takeWhile_append_dropWhile]
    · intro hzero
      have := List.head?_dropWhile_not (· == '0') digits
      simp [hzero] at this
  rw [decimal_replicate_append]
  rcases eq_or_ne rest [] with rfl | hsome
  · obtain ⟨k, rfl⟩ := Nat.exists_eq_succ_of_ne_zero (n := k) (by rintro rfl; exact hne rfl)
    rw [List.append_nil, List.length_replicate]
    exact (List.replicate_succ' ..).symm
  · have hwhole : IsWhole rest :=
      ⟨hsome, fun c hc => hdigits c (List.mem_append_right _ hc),
        fun hzero => absurd hzero hrest⟩
    rw [padded, toDigits_decimal hwhole, List.length_append, List.length_replicate,
      Nat.add_sub_cancel]

/-! ## Digits in front of a text -/

section Append

variable {digits rest : List Char}

/-- Digits in front of a text that goes on with none are all that is taken. -/
lemma takeWhile_append (hdigits : ∀ c ∈ digits, c.isDigit = true)
    (hrest : ∀ c ∈ rest.head?, c.isDigit = false) :
    (digits ++ rest).takeWhile Char.isDigit = digits := by
  rw [List.takeWhile_append_of_pos hdigits]
  cases rest with
  | nil => simp
  | cons c rest => rw [List.takeWhile_cons_of_neg (by simp [hrest c rfl]), List.append_nil]

/-- What follows digits in front of a text that goes on with none. -/
lemma dropWhile_append (hdigits : ∀ c ∈ digits, c.isDigit = true)
    (hrest : ∀ c ∈ rest.head?, c.isDigit = false) :
    (digits ++ rest).dropWhile Char.isDigit = rest := by
  rw [List.dropWhile_append_of_pos hdigits]
  cases rest with
  | nil => rfl
  | cons c rest => rw [List.dropWhile_cons_of_neg (by simp [hrest c rfl])]

end Append

end Digits
end LedgerCheck
