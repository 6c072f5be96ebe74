import LedgerCheck.Counter.Snapshot
import LedgerCheck.Proofs.Json.Fields
import LedgerCheck.Proofs.Json.Numeral

/-!
# Written counts

A count is written as a numeral, which has to fit 64 bits, or as a string of decimal digits, which
may be of any length.  Every other spelling of a number is refused, also one whose value happens to
be an integer, because it is read as a rounded number.

* `WritesInteger` — a string writes a decimal integer; `decimalInteger?_eq_some_iff`.
* `Document.WritesCount` — a value in a text writes a count.
* **`Snapshot.counterValue_eq_ok_iff`** — what is read for a counter is the count that is written.
-/

namespace LedgerCheck

/-! ## Decimal strings -/

/-- **Digits write a number**, whose digits may be grouped by underscores, except in front. -/
def WritesDigits (cs : List Char) (n : Nat) : Prop :=
  cs ≠ [] ∧ cs.head? ≠ some '_' ∧ (∀ c ∈ cs, c.isDigit = true ∨ c = '_') ∧
    n = Nat.ofDigitChars 10 (cs.filter Char.isDigit) 0

lemma groupedDigits?_eq_some_iff {cs : List Char} {n : Nat} :
    groupedDigits? cs = some n ↔ WritesDigits cs n := by
  rw [groupedDigits?.eq_def, WritesDigits]
  split
  · simp
  · simp
  · rename_i hnil hunderscore
    have hhead : cs.head? ≠ some '_' := by
      intro hhead
      obtain ⟨rest, rfl⟩ := List.head?_eq_some_iff.mp hhead
      exact hunderscore rest rfl
    have hne : cs ≠ [] := fun heq => hnil heq
    simp only [Option.ite_none_right_eq_some, List.all_eq_true, Bool.or_eq_true, beq_iff_eq,
      Option.some.injEq, Digits.decimal_eq_ofDigitChars, hne, hhead, ne_eq, not_false_eq_true,
      true_and, @eq_comm Nat n]

/-- **A string writes a decimal integer**: blanks, a sign or none, digits, and blanks. -/
def WritesInteger (s : String) (i : Int) : Prop :=
  ∃ sign digits n, trimBlanks s.toList = sign ++ digits ∧ WritesDigits digits n ∧
    ((sign = [] ∨ sign = ['+']) ∧ i = n ∨ sign = ['-'] ∧ i = -n)

/-- Digits start with no sign. -/
lemma WritesDigits.head_ne {c : Char} {cs : List Char} {n : Nat} (h : WritesDigits (c :: cs) n) :
    c ≠ '-' ∧ c ≠ '+' := by
  obtain ⟨-, -, hdigits, -⟩ := h
  have hc := hdigits c List.mem_cons_self
  constructor
  · rintro rfl
    exact absurd hc (by decide)
  · rintro rfl
    exact absurd hc (by decide)

/-- The number of digits as an integer. -/
lemma map_groupedDigits? (f : Int → Int) (cs : List Char) :
    (do let n ← groupedDigits? cs; pure (n : Int)).map f
      = (groupedDigits? cs).map fun n : Nat => f n := by
  cases groupedDigits? cs <;> rfl

lemma signedDigits?_eq_some_iff {cs : List Char} {i : Int} :
    signedDigits? cs = some i ↔ ∃ sign digits n, cs = sign ++ digits ∧ WritesDigits digits n ∧
      ((sign = [] ∨ sign = ['+']) ∧ i = n ∨ sign = ['-'] ∧ i = -n) := by
  constructor
  · intro h
    rw [signedDigits?.eq_def] at h
    simp only [map_groupedDigits?] at h
    split at h
    · obtain ⟨n, hn, hi⟩ := Option.map_eq_some_iff.mp h
      exact ⟨['-'], _, n, rfl, groupedDigits?_eq_some_iff.mp hn, Or.inr ⟨rfl, hi.symm⟩⟩
    · obtain ⟨n, hn, hi⟩ := Option.map_eq_some_iff.mp h
      exact ⟨['+'], _, n, rfl, groupedDigits?_eq_some_iff.mp hn, Or.inl ⟨Or.inr rfl, hi.symm⟩⟩
    · obtain ⟨n, hn, hi⟩ := Option.map_eq_some_iff.mp h
      exact ⟨[], _, n, rfl, groupedDigits?_eq_some_iff.mp hn, Or.inl ⟨Or.inl rfl, hi.symm⟩⟩
  · rintro ⟨sign, digits, n, rfl, hdigits, ⟨rfl | rfl, rfl⟩ | ⟨rfl, rfl⟩⟩
    · obtain ⟨c, rest, rfl⟩ := List.exists_cons_of_ne_nil hdigits.1
      rw [List.nil_append, signedDigits?, map_groupedDigits?,
        groupedDigits?_eq_some_iff.mpr hdigits, Option.map_some]
      · rintro rest' heq
        exact hdigits.head_ne.1 (List.cons.inj heq).1
      · rintro rest' heq
        exact hdigits.head_ne.2 (List.cons.inj heq).1
    · rw [List.singleton_append, signedDigits?, map_groupedDigits?,
        groupedDigits?_eq_some_iff.mpr hdigits, Option.map_some]
    · rw [List.singleton_append, signedDigits?, map_groupedDigits?,
        groupedDigits?_eq_some_iff.mpr hdigits, Option.map_some]

/-- **The decimal integer of a string** is the one that it writes. -/
lemma decimalInteger?_eq_some_iff {s : String} {i : Int} :
    decimalInteger? s = some i ↔ WritesInteger s i :=
  signedDigits?_eq_some_iff

/-! ## Counts -/

/-- **A numeral is read as a count** exactly if it has neither sign nor fraction nor exponent and
fits 64 bits. -/
lemma Numeral.number?_eq_natural_iff {m : Numeral} {n : Nat} :
    m.number? = some (.int n) ↔
      ∃ digits, m = ⟨false, digits, [], none⟩ ∧ n = Nat.ofDigitChars 10 digits 0 ∧ n < 2 ^ 64 := by
  have hsign : decide ((n : Int) < 0) = false := decide_eq_false (by omega)
  have hrange : Json.IntegerRange n ↔ n < 2 ^ 64 := by
    have hpow : Int.pow 2 63 = 2 ^ 63 ∧ Int.pow 2 64 = 2 ^ 64 := ⟨rfl, rfl⟩
    rw [Json.IntegerRange, hpow.1, hpow.2]
    omega
  rw [number?_eq_int_iff, hsign, hrange, Int.natAbs_natCast]

/-- **A value in a text writes a count**: a numeral in digits alone, below `2 ^ 64`, or a string of
a decimal integer that is not negative, of any size. -/
def Document.WritesCount (d : Document) (n : Nat) : Prop :=
  (∃ digits, d = .number ⟨false, digits, [], none⟩ ∧
    n = Nat.ofDigitChars 10 digits 0 ∧ n < 2 ^ 64) ∨
    ∃ s, d = .string (some s) ∧ WritesInteger s n

/-- What is read for a counter is the count that the text writes. -/
lemma Snapshot.counterValue_eq_ok_iff {d : Document} {depth : Nat} {v : Json}
    (h : d.toJsonWithin? depth = some v) (name : String) {n : Nat} :
    counterValue name v = .ok (n : Int) ↔ d.WritesCount n := by
  cases v with
  | number k =>
      obtain ⟨m, rfl, hk⟩ := Document.toJsonWithin?_eq_number_iff.mp h
      have hcount : (Document.number m).WritesCount n ↔ m.number? = some (.int n) := by
        rw [Numeral.number?_eq_natural_iff]
        simp [Document.WritesCount]
      rw [hcount, hk]
      cases k <;> simp [counterValue]
  | string s =>
      obtain rfl := Document.toJsonWithin?_eq_string_iff.mp h
      have hcount :
          (Document.string (some s)).WritesCount n ↔ decimalInteger? s = some (n : Int) := by
        rw [decimalInteger?_eq_some_iff]
        simp [Document.WritesCount]
      rw [hcount, counterValue]
      cases decimalInteger? s <;> simp
  | _ =>
      have hother : ¬ d.WritesCount n := by
        rintro (⟨digits, rfl, hcount⟩ | ⟨s, rfl, -⟩)
        · have hnumber := Numeral.number?_eq_natural_iff.mpr ⟨digits, rfl, hcount⟩
          simp [Document.toJsonWithin?, hnumber] at h
        · simp [Document.toJsonWithin?] at h
      simp [counterValue, hother]

end LedgerCheck
