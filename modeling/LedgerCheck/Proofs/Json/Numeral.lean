import LedgerCheck.Json.Numeral
import LedgerCheck.Proofs.Text.Digits

/-!
# Numerals in texts

A numeral is read up to the first character that it cannot go on with.

* `Numeral.chars` — the numeral as it is written.
* `Numeral.IsProper` — the parts of the numeral are digits, and as many as there must be.
* `Numeral.EndsNumeral` — a text that no numeral in front of it goes on with.
* **`Numeral.read_chars_append`** — a proper numeral in front of such a text is read as written.
* **`Numeral.number?_eq_int_iff`** — the numerals that are read as an integer.
* `Numeral.number?_ofInt` — an integer that fits 64 bits is the number of its numeral.
-/

namespace LedgerCheck
namespace Numeral

/-! ## Writing -/

/-- The sign of a numeral. -/
def signChars (negative : Bool) : List Char := if negative then ['-'] else []

/-- The point and the digits after it, if there are any. -/
def fractionChars (digits : List Char) : List Char :=
  if digits.isEmpty then [] else '.' :: digits

/-- The exponent with its mark and its sign, if there is one. -/
def exponentChars : Option (Bool × List Char) → List Char
  | none => []
  | some (negative, digits) => 'e' :: (if negative then '-' else '+') :: digits

/-- The numeral as it is written. -/
def chars (n : Numeral) : List Char :=
  signChars n.negative ++ (n.whole ++ (fractionChars n.fraction ++ exponentChars n.exponent))

/-- **The parts of the numeral are digits**: at least one whole digit, with no zero in front of
others, and at least one digit in an exponent. -/
structure IsProper (n : Numeral) : Prop where
  isDigit_of_mem_whole : ∀ c ∈ n.whole, c.isDigit = true
  whole_ne_nil : n.whole ≠ []
  whole_eq_zero : n.whole.head? = some '0' → n.whole = ['0']
  isDigit_of_mem_fraction : ∀ c ∈ n.fraction, c.isDigit = true
  exponent : ∀ negative digits, n.exponent = some (negative, digits) →
    digits ≠ [] ∧ ∀ c ∈ digits, c.isDigit = true

/-- **No numeral goes on with the text**: it starts with no digit, no point and no exponent. -/
def EndsNumeral (rest : List Char) : Prop :=
  ∀ c ∈ rest.head?, c.isDigit = false ∧ c ≠ '.' ∧ c ≠ 'e' ∧ c ≠ 'E'

lemma endsNumeral_nil : EndsNumeral [] := by simp [EndsNumeral]

lemma endsNumeral_cons {c : Char} {rest : List Char} :
    EndsNumeral (c :: rest) ↔ c.isDigit = false ∧ c ≠ '.' ∧ c ≠ 'e' ∧ c ≠ 'E' := by
  simp [EndsNumeral]

/-! ## Reading the parts -/

section Parts

variable {rest : List Char}

lemma readWhole_append {digits : List Char} (hdigits : ∀ c ∈ digits, c.isDigit = true)
    (hne : digits ≠ []) (hzero : digits.head? = some '0' → digits = ['0'])
    (hrest : ∀ c ∈ rest.head?, c.isDigit = false) :
    readWhole (digits ++ rest) = some (digits, rest) := by
  by_cases hhead : digits.head? = some '0'
  · rw [hzero hhead, List.singleton_append, readWhole]
    cases hnext : rest.head? with
    | none => simp
    | some c => simp [hrest c hnext]
  · obtain ⟨c, more, rfl⟩ := List.exists_cons_of_ne_nil hne
    have hc : c ≠ '0' := by simpa using hhead
    have hread : readWhole (c :: more ++ rest)
        = if ((c :: more ++ rest).takeWhile Char.isDigit).isEmpty then none
          else some ((c :: more ++ rest).takeWhile Char.isDigit,
            (c :: more ++ rest).dropWhile Char.isDigit) := by
      rw [List.cons_append, readWhole]
      intro rest' h
      exact hc (List.cons.inj h).1
    rw [hread, Digits.takeWhile_append hdigits hrest, Digits.dropWhile_append hdigits hrest]
    rfl

lemma readFraction_append {digits : List Char} (hdigits : ∀ c ∈ digits, c.isDigit = true)
    (hrest : ∀ c ∈ rest.head?, c.isDigit = false ∧ c ≠ '.') :
    readFraction (fractionChars digits ++ rest) = some (digits, rest) := by
  cases digits with
  | nil =>
      rw [fractionChars, List.isEmpty_nil, if_pos rfl, List.nil_append, readFraction]
      rintro rest' rfl
      exact (hrest '.' rfl).2 rfl
  | cons c more =>
      have hend : ∀ c ∈ rest.head?, c.isDigit = false := fun c hc => (hrest c hc).1
      rw [fractionChars, List.isEmpty_cons, if_neg (by simp), List.cons_append, readFraction,
        Digits.takeWhile_append hdigits hend, Digits.dropWhile_append hdigits hend]
      rfl

lemma readExponentDigits_append (negative : Bool) {digits : List Char}
    (hdigits : ∀ c ∈ digits, c.isDigit = true) (hne : digits ≠ [])
    (hrest : ∀ c ∈ rest.head?, c.isDigit = false) :
    readExponentDigits negative (digits ++ rest) = some (some (negative, digits), rest) := by
  rw [readExponentDigits, Digits.takeWhile_append hdigits hrest,
    Digits.dropWhile_append hdigits hrest]
  simp [hne]

lemma readExponent_append {exponent : Option (Bool × List Char)}
    (hexponent : ∀ negative digits, exponent = some (negative, digits) →
      digits ≠ [] ∧ ∀ c ∈ digits, c.isDigit = true) (hrest : EndsNumeral rest) :
    readExponent (exponentChars exponent ++ rest) = some (exponent, rest) := by
  rcases exponent with _ | ⟨negative, digits⟩
  · rw [exponentChars, List.nil_append, readExponent]
    · rintro rest' rfl
      exact (hrest 'e' rfl).2.2.1 rfl
    · rintro rest' rfl
      exact (hrest 'E' rfl).2.2.2 rfl
  · obtain ⟨hne, hdigits⟩ := hexponent negative digits rfl
    have hend : ∀ c ∈ rest.head?, c.isDigit = false := fun c hc => (hrest c hc).1
    cases negative <;>
      exact readExponentDigits_append _ hdigits hne hend

end Parts

/-! ## Reading a numeral -/

/-- What follows the whole digits goes on with none of them. -/
lemma isDigit_head_fraction {n : Numeral} {rest : List Char} (hrest : EndsNumeral rest) :
    ∀ c ∈ (fractionChars n.fraction ++ (exponentChars n.exponent ++ rest)).head?,
      c.isDigit = false := by
  obtain ⟨negative, whole, _ | ⟨d, more⟩, _ | ⟨negative', digits⟩⟩ := n
  · exact fun c hc => (hrest c hc).1
  · simp [fractionChars, exponentChars]
  · simp [fractionChars]
  · simp [fractionChars]

/-- What follows the fraction goes on with no digit and no further point. -/
lemma isDigit_head_exponent {n : Numeral} {rest : List Char} (hrest : EndsNumeral rest) :
    ∀ c ∈ (exponentChars n.exponent ++ rest).head?, c.isDigit = false ∧ c ≠ '.' := by
  obtain ⟨negative, whole, fraction, _ | ⟨negative', digits⟩⟩ := n
  · exact fun c hc => ⟨(hrest c hc).1, (hrest c hc).2.1⟩
  · simp [exponentChars]

lemma readUnsigned_append {n : Numeral} (h : n.IsProper) {rest : List Char}
    (hrest : EndsNumeral rest) :
    readUnsigned n.negative
        (n.whole ++ (fractionChars n.fraction ++ (exponentChars n.exponent ++ rest)))
      = some (n, rest) := by
  simp only [readUnsigned, readWhole_append h.isDigit_of_mem_whole h.whole_ne_nil h.whole_eq_zero
      (isDigit_head_fraction hrest), Option.bind_eq_bind, Option.bind_some,
    readFraction_append h.isDigit_of_mem_fraction (isDigit_head_exponent hrest),
    readExponent_append h.exponent hrest]

/-- **A proper numeral is read as it was written**, if the text after it goes on with none. -/
theorem read_chars_append {n : Numeral} (h : n.IsProper) {rest : List Char}
    (hrest : EndsNumeral rest) : read (n.chars ++ rest) = some (n, rest) := by
  have hread := readUnsigned_append h hrest
  simp only [chars, List.append_assoc]
  cases hsign : n.negative with
  | true =>
      rw [hsign] at hread
      exact hread
  | false =>
      rw [hsign] at hread
      obtain ⟨c, more, hwhole⟩ := List.exists_cons_of_ne_nil h.whole_ne_nil
      have hc : c ≠ '-' := by
        rintro rfl
        exact absurd (h.isDigit_of_mem_whole '-' (by simp [hwhole])) (by decide)
      simp only [signChars, Bool.false_eq_true, if_false, List.nil_append]
      rw [← hread, hwhole, List.cons_append, read]
      intro rest' hrest'
      exact hc (List.cons.inj hrest').1

/-- A proper numeral starts with a digit or with a sign. -/
lemma exists_chars_eq_cons {n : Numeral} (h : n.IsProper) :
    ∃ c more, n.chars = c :: more ∧ (c = '-' ∨ c.isDigit = true) := by
  obtain ⟨d, more, hwhole⟩ := List.exists_cons_of_ne_nil h.whole_ne_nil
  cases hsign : n.negative with
  | true => exact ⟨'-', _, by rw [chars, hsign]; rfl, Or.inl rfl⟩
  | false =>
      refine ⟨d, _, by rw [chars, hsign, hwhole]; rfl, Or.inr ?_⟩
      exact h.isDigit_of_mem_whole d (by simp [hwhole])

/-! ## Integers -/

/-- The numeral of an integer. -/
def ofInt (i : Int) : Numeral := ⟨decide (i < 0), Nat.toDigits 10 i.natAbs, [], none⟩

lemma isProper_ofInt (i : Int) : (ofInt i).IsProper where
  isDigit_of_mem_whole _ := Digits.isDigit_of_mem_toDigits
  whole_ne_nil := Nat.toDigits_ne_nil
  whole_eq_zero hhead := by
    rcases Nat.eq_zero_or_pos i.natAbs with hi | hi
    · simp [ofInt, hi]
    · exact absurd hhead (Digits.head_toDigits hi)
  isDigit_of_mem_fraction := by simp [ofInt]
  exponent := by simp [ofInt]

/-- **A numeral is read as an integer** exactly if it has neither fraction nor exponent, the integer
fits 64 bits, and a sign stands in front of its digits only if it is negative. -/
theorem number?_eq_int_iff {n : Numeral} {i : Int} :
    n.number? = some (.int i) ↔
      ∃ digits, n = ⟨decide (i < 0), digits, [], none⟩ ∧
        i.natAbs = Nat.ofDigitChars 10 digits 0 ∧ Json.IntegerRange i := by
  have hpow : Int.pow 2 63 = 2 ^ 63 ∧ Int.pow 2 64 = 2 ^ 64 := ⟨rfl, rfl⟩
  obtain ⟨negative, whole, fraction, exponent⟩ := n
  simp only [number?, Nat.pow_eq, Json.IntegerRange, hpow.1, hpow.2,
    ← Digits.decimal_eq_ofDigitChars]
  constructor
  · intro h
    split_ifs at h with hinteger hpositive hnegative
    · simp only [Bool.and_eq_true, decide_eq_true_eq, List.isEmpty_iff, Option.isNone_iff_eq_none,
        Bool.not_eq_true'] at hinteger hpositive
      obtain ⟨⟨rfl, rfl⟩, hsize⟩ := hinteger
      cases h
      have hsign : decide ((Digits.decimal whole : Int) < 0) = false := decide_eq_false (by omega)
      exact ⟨whole, by rw [hpositive, hsign], by omega, by omega, by omega⟩
    · simp only [Bool.and_eq_true, decide_eq_true_eq, List.isEmpty_iff, Option.isNone_iff_eq_none,
        Bool.not_eq_true', Bool.not_eq_false] at hinteger hpositive
      obtain ⟨⟨rfl, rfl⟩, -⟩ := hinteger
      cases h
      have hsign : decide (-(Digits.decimal whole : Int) < 0) = true := decide_eq_true (by omega)
      exact ⟨whole, by rw [hpositive, hsign], by omega, by omega, by omega⟩
    · cases h
    · obtain ⟨x, -, hfloat⟩ := Option.map_eq_some_iff.mp h
      cases hfloat
  · rintro ⟨digits, heq, hvalue, hlow, hhigh⟩
    cases heq
    rw [if_pos (by simpa using (by omega : Digits.decimal whole < 2 ^ 64)), ← hvalue]
    by_cases hsign : i < 0
    · rw [if_neg (by simpa using hsign), if_pos (by omega)]
      congr 2
      omega
    · rw [if_pos (by simpa using hsign)]
      congr 2
      omega

/-- **An integer that fits 64 bits is the number of its numeral.** -/
theorem number?_ofInt {i : Int} (h : Json.IntegerRange i) :
    (ofInt i).number? = some (.int i) :=
  number?_eq_int_iff.mpr ⟨_, rfl, Nat.ofDigitChars_ten_toDigits.symm, h⟩

end Numeral
end LedgerCheck
