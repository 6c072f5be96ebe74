import LedgerCheck.Json.Record
import LedgerCheck.Proofs.Json.Numeral

/-!
# Binary64 numbers as numerals

Whatever its digits are, a number is written as a numeral of the grammar: there is a digit in front,
none of them is a needless zero, and a point or an exponent tells the numeral from an integer.

* `Binary64.coefficient_shortest_pos` — a number other than zero has a digit other than zero.
* `Binary64.numeral` — the numeral that a number is written as, given by its parts.
* **`Binary64.chars_numeral`**, **`Binary64.isProper_numeral`** — the text is that numeral, and the
  numeral is proper.
* `Binary64.ReadsBack` — the text of the number is read as the number.
-/

namespace LedgerCheck

/-! ## The leading digit -/

lemma lt_pow_digitCount (n : Nat) : n < 10 ^ digitCount n := by
  rcases Nat.eq_zero_or_pos n with rfl | hn
  · simp [digitCount]
  · rw [digitCount, if_neg hn.ne']
    exact (Nat.length_toDigits_le_iff (by decide) Nat.length_toDigits_pos).mp le_rfl

lemma pow_digitCount_le {n : Nat} (hn : 0 < n) : 10 ^ (digitCount n - 1) ≤ n := by
  rw [digitCount, if_neg hn.ne']
  rcases Nat.eq_zero_or_pos ((Nat.toDigits 10 n).length - 1) with hlength | hlength
  · rw [hlength]
    exact hn
  · rw [← Nat.not_lt, ← Nat.length_toDigits_le_iff (by decide) hlength]
    omega

namespace Binary64

/-- The power of ten of the leading exponent is no more than the ratio. -/
lemma pow_leadingExponent_le {n d : Nat} (hn : 0 < n) (hd : 0 < d) :
    d * 10 ^ (leadingExponent n d).toNat ≤ n * 10 ^ (-leadingExponent n d).toNat := by
  rw [leadingExponent]
  split_ifs with hle
  · have hquotient : 0 < n / d := Nat.div_pos hle hd
    have hcount : ((digitCount (n / d) : Int) - 1).toNat = digitCount (n / d) - 1 := by omega
    have hnone : (-((digitCount (n / d) : Int) - 1)).toNat = 0 := by
      have : digitCount (n / d) ≠ 0 := by simp [digitCount, hquotient.ne', Nat.toDigits_ne_nil]
      omega
    rw [hcount, hnone, pow_zero, mul_one]
    calc d * 10 ^ (digitCount (n / d) - 1) ≤ d * (n / d) :=
          Nat.mul_le_mul_left d (pow_digitCount_le hquotient)
      _ ≤ n := Nat.mul_div_le n d
  · have hnone : (-(digitCount ((d - 1) / n) : Int)).toNat = 0 := by omega
    have hcount : (-(-(digitCount ((d - 1) / n) : Int))).toNat = digitCount ((d - 1) / n) := by
      omega
    rw [hnone, hcount, pow_zero, mul_one]
    have hlt : d - 1 < 10 ^ digitCount ((d - 1) / n) * n :=
      (Nat.div_lt_iff_lt_mul hn).mp (lt_pow_digitCount _)
    rw [mul_comm n]
    omega

/-- A smaller exponent makes a smaller power of ten. -/
lemma pow_le_of_le {n d : Nat} {e k : Int} (hek : e ≤ k)
    (h : d * 10 ^ k.toNat ≤ n * 10 ^ (-k).toNat) :
    d * 10 ^ e.toNat ≤ n * 10 ^ (-e).toNat :=
  calc d * 10 ^ e.toNat ≤ d * 10 ^ k.toNat :=
        Nat.mul_le_mul_left d (Nat.pow_le_pow_right (by decide) (by omega))
    _ ≤ n * 10 ^ (-k).toNat := h
    _ ≤ n * 10 ^ (-e).toNat :=
        Nat.mul_le_mul_left n (Nat.pow_le_pow_right (by decide) (by omega))

/-! ## The shortest decimal -/

lemma div_le_divHalfEven (n d : Nat) : n / d ≤ divHalfEven n d := by
  rw [divHalfEven]
  split_ifs <;> omega

/-- A decimal that rounds to a magnitude other than zero is not zero. -/
lemma coefficient_pos_of_roundsTo {d : Decimal} {m : Nat} (hm : m ≠ 0)
    (h : roundsTo d m = true) : 0 < d.coefficient := by
  refine Nat.pos_of_ne_zero fun hzero => hm ?_
  have hnumerator : d.numerator = 0 := by rw [Decimal.numerator, hzero, Nat.zero_mul]
  have hrounds : magnitudeOfRatio d.numerator d.denominator = m := by simpa [roundsTo] using h
  rw [← hrounds, magnitudeOfRatio, if_pos hnumerator]

lemma coefficient_onGrid?_pos {n d m count : Nat} (hm : m ≠ 0) {decimal : Decimal}
    (h : onGrid? n d m count = some decimal) : 0 < decimal.coefficient := by
  simp only [onGrid?] at h
  split at h
  · rename_i hbelow _
    cases h
    exact lt_of_lt_of_le (coefficient_pos_of_roundsTo hm hbelow) (div_le_divHalfEven _ _)
  · rename_i hbelow _
    cases h
    exact coefficient_pos_of_roundsTo hm hbelow
  · cases h
    exact Nat.succ_pos _
  · cases h

lemma coefficient_shortestFrom_pos {n d m : Nat} (hn : 0 < n) (hd : 0 < d) (hm : m ≠ 0)
    (count more : Nat) (hcount : 0 < count) :
    0 < (shortestFrom n d m count more).coefficient := by
  induction more generalizing count with
  -- After the last length the nearest decimal is taken, whether or not it rounds to the number.
  | zero =>
      rw [shortestFrom]
      refine lt_of_lt_of_le (Nat.div_pos ?_ (Nat.mul_pos hd (Nat.pow_pos (by decide))))
        (div_le_divHalfEven _ _)
      exact pow_le_of_le (by omega) (pow_leadingExponent_le hn hd)
  | succ more ih =>
      rw [shortestFrom]
      cases hgrid : onGrid? n d m count with
      | none => exact ih (count + 1) (Nat.succ_pos _)
      | some decimal => exact coefficient_onGrid?_pos hm hgrid

lemma denominator_pos (x : Binary64) : 0 < x.denominator := Nat.pow_pos (by decide)

lemma numerator_pos {x : Binary64} (h : x.isZero = false) : 0 < x.numerator := by
  have hmagnitude : x.magnitude ≠ 0 := by simpa [isZero] using h
  refine Nat.mul_pos ?_ (Nat.pow_pos (by decide))
  rw [significand]
  split_ifs
  · exact Nat.pos_of_ne_zero hmagnitude
  · exact Nat.add_pos_left (Nat.pow_pos (by decide)) _

/-- **A number other than zero has a digit other than zero.** -/
lemma coefficient_shortest_pos {x : Binary64} (h : x.isZero = false) :
    0 < x.shortest.coefficient := by
  rw [shortest, h]
  exact coefficient_shortestFrom_pos (numerator_pos h) (denominator_pos x)
    (by simpa [isZero] using h) 1 16 (by decide)

/-! ## Its digits -/

lemma prefix_significantDigits (n : Nat) : significantDigits n <+: Nat.toDigits 10 n :=
  List.rdropWhile_prefix _ _

lemma isDigit_of_mem_significantDigits {n : Nat} {c : Char} (h : c ∈ significantDigits n) :
    c.isDigit = true :=
  Digits.isDigit_of_mem_toDigits ((prefix_significantDigits n).subset h)

/-- The digits of a positive number start with the first one that is no zero. -/
lemma exists_significantDigits {n : Nat} (hn : 0 < n) :
    ∃ first rest, significantDigits n = first :: rest ∧ first ≠ '0' := by
  obtain ⟨first, rest, hdigits⟩ := List.exists_cons_of_ne_nil (Nat.toDigits_ne_nil (n := n))
  have hfirst : first ≠ '0' := by
    have := Digits.head_toDigits hn
    rwa [hdigits, List.head?_cons, Ne, Option.some.injEq] at this
  cases hsignificant : significantDigits n with
  | nil =>
      have hzeros := List.rdropWhile_eq_nil_iff.mp hsignificant first (by simp [hdigits])
      exact absurd (by simpa using hzeros) hfirst
  | cons c more =>
      have hleading := prefix_significantDigits n
      rw [hsignificant, hdigits, List.cons_prefix_cons] at hleading
      exact ⟨c, more, rfl, hleading.1 ▸ hfirst⟩

/-! ## The numeral -/

/-- The numeral of digits in positional notation. -/
def positionalNumeral (negative : Bool) (digits : List Char) (exponent : Int) : Numeral :=
  if exponent < 0 then
    ⟨negative, ['0'], List.replicate (-exponent - 1).toNat '0' ++ digits, none⟩
  else
    let whole := digits.take (exponent.toNat + 1)
    let rest := digits.drop (exponent.toNat + 1)
    ⟨negative, whole ++ List.replicate (exponent.toNat + 1 - whole.length) '0',
      if rest.isEmpty then ['0'] else rest, none⟩

/-- The numeral of digits in scientific notation. -/
def scientificNumeral (negative : Bool) (digits : List Char) (exponent : Int) : Numeral :=
  ⟨negative, digits.take 1, digits.drop 1,
    some (decide (exponent < 0), Nat.toDigits 10 exponent.natAbs)⟩

/-- The numeral that a number is written as. -/
def numeral (x : Binary64) : Numeral :=
  if x.isZero then ⟨x.isNegative, ['0'], ['0'], none⟩
  else
    let d := x.shortest
    let exponent := (digitCount d.coefficient : Int) - 1 + d.exponent
    let digits := significantDigits d.coefficient
    if -5 ≤ exponent ∧ exponent ≤ 15 then positionalNumeral x.isNegative digits exponent
    else scientificNumeral x.isNegative digits exponent

lemma chars_positionalNumeral (negative : Bool) {digits : List Char} (hdigits : digits ≠ [])
    (exponent : Int) : (positionalNumeral negative digits exponent).chars
      = Numeral.signChars negative ++ positional digits exponent := by
  rw [positionalNumeral, positional]
  split_ifs with hexponent
  · simp [Numeral.chars, Numeral.fractionChars, Numeral.exponentChars, hdigits]
  · cases hrest : digits.drop (exponent.toNat + 1) <;>
      simp [Numeral.chars, Numeral.fractionChars, Numeral.exponentChars]

lemma chars_scientificNumeral (negative : Bool) (digits : List Char) (exponent : Int) :
    (scientificNumeral negative digits exponent).chars
      = Numeral.signChars negative ++ scientific digits exponent := by
  rcases digits with _ | ⟨first, _ | ⟨second, rest⟩⟩ <;>
    simp [scientificNumeral, scientific, Numeral.chars, Numeral.fractionChars,
      Numeral.exponentChars]

/-- **The text of a number is its numeral.** -/
theorem chars_numeral (x : Binary64) : x.numeral.chars = x.chars := by
  have hsign : (if x.isNegative = true then ['-'] else []) = Numeral.signChars x.isNegative := rfl
  simp only [numeral, chars, hsign]
  cases hzero : x.isZero with
  | true => rfl
  | false =>
      obtain ⟨first, rest, hdigits, -⟩ := exists_significantDigits (coefficient_shortest_pos hzero)
      simp only [Bool.false_eq_true, if_false, hdigits]
      split_ifs with hposition
      · exact chars_positionalNumeral _ (List.cons_ne_nil _ _) _
      · exact chars_scientificNumeral _ _ _

/-- The parts of a number's numeral, in positional notation. -/
lemma isProper_positionalNumeral (negative : Bool) {first : Char} {rest : List Char}
    (hfirst : first ≠ '0') (hdigits : ∀ c ∈ first :: rest, c.isDigit = true) (exponent : Int) :
    (positionalNumeral negative (first :: rest) exponent).IsProper := by
  have hzeros : ∀ n, ∀ c ∈ List.replicate n '0', c.isDigit = true := by
    intro n c hc
    rw [List.eq_of_mem_replicate hc]
    decide
  rw [positionalNumeral]
  split_ifs with hexponent
  · refine ⟨by simp, by simp, by simp, ?_, by simp⟩
    intro c hc
    exact (List.mem_append.mp hc).elim (hzeros _ c) (hdigits c)
  · refine ⟨?_, by simp, ?_, ?_, by simp⟩
    · intro c hc
      exact (List.mem_append.mp hc).elim (fun hc => hdigits c (List.mem_of_mem_take hc))
        (hzeros _ c)
    · intro hhead
      exact absurd (by simpa using hhead) hfirst
    · intro c hc
      simp only at hc
      split_ifs at hc
      · exact hzeros 1 c hc
      · exact hdigits c (List.mem_of_mem_drop hc)

/-- The parts of a number's numeral, in scientific notation. -/
lemma isProper_scientificNumeral (negative : Bool) {first : Char} {rest : List Char}
    (hfirst : first ≠ '0') (hdigits : ∀ c ∈ first :: rest, c.isDigit = true) (exponent : Int) :
    (scientificNumeral negative (first :: rest) exponent).IsProper where
  isDigit_of_mem_whole c hc := hdigits c (List.mem_of_mem_take hc)
  whole_ne_nil := by simp [scientificNumeral]
  whole_eq_zero hhead := absurd (by simpa [scientificNumeral] using hhead) hfirst
  isDigit_of_mem_fraction c hc := hdigits c (List.mem_of_mem_drop hc)
  exponent := by
    rintro _ _ ⟨⟩
    exact ⟨Nat.toDigits_ne_nil, fun _ => Digits.isDigit_of_mem_toDigits⟩

/-- **The numeral of a number is proper.** -/
theorem isProper_numeral (x : Binary64) : x.numeral.IsProper := by
  rw [numeral]
  cases hzero : x.isZero with
  | true => exact ⟨by simp, by simp, by simp, by simp, by simp⟩
  | false =>
      obtain ⟨first, rest, hdigits, hfirst⟩ :=
        exists_significantDigits (coefficient_shortest_pos hzero)
      have hdigit : ∀ c ∈ first :: rest, c.isDigit = true :=
        fun c hc => isDigit_of_mem_significantDigits (hdigits ▸ hc)
      simp only [Bool.false_eq_true, if_false, hdigits]
      split_ifs
      · exact isProper_positionalNumeral _ hfirst hdigit _
      · exact isProper_scientificNumeral _ hfirst hdigit _

/-- No number is written like an integer: there is a fraction or an exponent. -/
lemma not_integer_numeral (x : Binary64) :
    (x.numeral.fraction.isEmpty && x.numeral.exponent.isNone) = false := by
  rw [numeral]
  cases hzero : x.isZero with
  | true => rfl
  | false =>
      obtain ⟨first, rest, hdigits, -⟩ := exists_significantDigits (coefficient_shortest_pos hzero)
      simp only [Bool.false_eq_true, if_false, hdigits]
      split_ifs
      · simp only [positionalNumeral]
        split_ifs with hexponent hrest
        · simp
        · simp
        · simpa using hrest
      · simp [scientificNumeral]

/-! ## Reading a number back -/

/-- **The text of the number is read as the number.**  The rule by which numerals are read rounds
twice, so that this is no law of all numbers. -/
def ReadsBack (x : Binary64) : Prop :=
  (Document.read? x.text).bind Document.binary64? = some x

end Binary64
end LedgerCheck
