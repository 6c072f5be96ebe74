import LedgerCheck.Duration
import LedgerCheck.Proofs.Text.Digits

/-!
# Durations are read as they were written

A duration is rounded to milliseconds once, and its text says exactly that many.  `Duration.read?`
reads hours, minutes, seconds with a fraction, and milliseconds, whether they are written with care
or not; `Duration.IsCanonical` is the care with which they are written.  There is one canonical text
for each number of milliseconds, so that durations have the same text if they are rounded to the same.

* `roundsTo_iff` — the nearest integer, a half going away from zero.
* `Duration.read?` — the seconds that a text says.
* `Duration.IsCanonical` — the texts in which no unit is needless and none is too large.
* `Duration.read?_chars` — what was written is read back.
* `Duration.isCanonical_iff` — the canonical texts are those that are written.
* **`Duration.text_canonical`** — the text of a rational number of seconds.
-/

namespace LedgerCheck

/-! ## The nearest integer -/

/-- **The integer is nearest to a rational**, and of two that are as near it is the one farther from
zero. -/
structure RoundsTo (q : ℚ) (r : ℤ) : Prop where
  nearest : ∀ k : ℤ, |q - r| ≤ |q - k|
  away : ∀ k : ℤ, k ≠ r → |q - k| = |q - r| → |k| < |r|

lemma RoundsTo.neg {q : ℚ} {r : ℤ} (h : RoundsTo q r) : RoundsTo (-q) (-r) := by
  have hdistance (k : ℤ) : |-q - (k : ℚ)| = |q - (-k : ℤ)| := by
    rw [← abs_neg, Int.cast_neg]
    congr 1
    ring
  refine ⟨fun k => ?_, fun k hk htie => ?_⟩
  · rw [hdistance, hdistance, neg_neg]
    exact h.nearest (-k)
  · rw [hdistance, hdistance, neg_neg] at htie
    rw [abs_neg, ← abs_neg k]
    exact h.away (-k) (fun heq => hk (by rw [← heq, neg_neg])) htie

lemma roundsTo_floor {q : ℚ} (hq : 0 ≤ q) : RoundsTo q ⌊q + 1 / 2⌋ := by
  set r := ⌊q + 1 / 2⌋ with hr
  have hlow : (r : ℚ) ≤ q + 1 / 2 := Int.floor_le _
  have hhigh : q + 1 / 2 < r + 1 := Int.lt_floor_add_one _
  have hnear : |q - r| ≤ 1 / 2 := abs_le.mpr ⟨by linarith, by linarith⟩
  -- any other integer is at least one away, and so at least one half away from the rational
  have hapart (k : ℤ) (hk : k ≠ r) : 1 ≤ |q - k| + |q - r| := by
    have hone : (1 : ℚ) ≤ |(k : ℚ) - r| := by
      exact_mod_cast Int.one_le_abs (sub_ne_zero.mpr hk)
    calc (1 : ℚ) ≤ |(k : ℚ) - r| := hone
      _ ≤ |(k : ℚ) - q| + |q - r| := abs_sub_le _ _ _
      _ = |q - k| + |q - r| := by rw [abs_sub_comm]
  refine ⟨fun k => ?_, fun k hk htie => ?_⟩
  · rcases eq_or_ne k r with rfl | hk
    · exact le_rfl
    · linarith [hapart k hk]
  · have hhalf : |q - r| = 1 / 2 := by linarith [hapart k hk]
    have hbelow : q = r - 1 / 2 := by
      rcases abs_cases (q - r) with ⟨habs, -⟩ | ⟨habs, -⟩ <;> linarith
    have hprevious : (k : ℚ) = r - 1 := by
      have hother : |q - k| = 1 / 2 := htie.trans hhalf
      have hne : (k : ℚ) ≠ r := by exact_mod_cast hk
      rcases abs_cases (q - k) with ⟨habs, -⟩ | ⟨habs, -⟩
      · linarith
      · exact absurd (by linarith) hne
    have hpos : (1 : ℚ) / 2 ≤ r := by linarith
    have hone : 1 ≤ r := by
      by_contra hzero
      have : (r : ℚ) ≤ 0 := by exact_mod_cast (by omega : r ≤ 0)
      linarith
    have hk' : k = r - 1 := by exact_mod_cast hprevious
    rw [hk', abs_of_nonneg (by omega), abs_of_nonneg (by omega)]
    omega

lemma roundsTo_roundHalfAway (q : ℚ) : RoundsTo q (roundHalfAway q) := by
  rw [roundHalfAway]
  split_ifs with hneg
  · have h := (roundsTo_floor (q := -q) (by linarith)).neg
    rwa [neg_neg] at h
  · exact roundsTo_floor (not_lt.mp hneg)

/-- **A rational is rounded to the nearest integer**, a half away from zero. -/
theorem roundsTo_iff {q : ℚ} {r : ℤ} : RoundsTo q r ↔ r = roundHalfAway q := by
  refine ⟨fun h => ?_, fun h => h ▸ roundsTo_roundHalfAway q⟩
  have h' := roundsTo_roundHalfAway q
  by_contra hne
  have hsame : |q - r| = |q - roundHalfAway q| := le_antisymm (h.nearest _) (h'.nearest _)
  exact lt_asymm (h.away _ (Ne.symm hne) hsame.symm) (h'.away _ hne hsame)

/-- The nearest integer is at most one half away. -/
lemma RoundsTo.abs_sub_le {q : ℚ} {r : ℤ} (h : RoundsTo q r) : |q - r| ≤ 1 / 2 :=
  (h.nearest (round q)).trans (abs_sub_round q)

namespace Duration

open Digits

/-! ## Fractions of a second -/

/-- The digits of milliseconds below one second behind the point. -/
def fraction (millis : Nat) : List Char := (padded 10 3 millis).rdropWhile (· == '0')

/-- **The digits of a fraction**: at most three, the last of which is no zero. -/
structure IsFraction (digits : List Char) : Prop where
  isDigit : ∀ c ∈ digits, c.isDigit = true
  length_le : digits.length ≤ 3
  getLast_ne : digits.getLast? ≠ some '0'

section Fraction

variable {millis : Nat} (h : millis < 1000)
include h

lemma length_padded : (padded 10 3 millis).length = 3 := by
  have hlength : (Nat.toDigits 10 millis).length ≤ 3 :=
    (Nat.length_toDigits_le_iff (by decide) (by decide)).mpr h
  rw [padded, List.length_append, List.length_replicate]
  omega

/-- The three digits of a number of milliseconds are its fraction and zeros behind it. -/
lemma exists_padded_eq :
    ∃ k, padded 10 3 millis = fraction millis ++ List.replicate k '0' ∧
      (fraction millis).length + k = 3 := by
  have hsplit : fraction millis ++ (padded 10 3 millis).rtakeWhile (· == '0')
      = padded 10 3 millis := List.rdropWhile_append_rtakeWhile
  have hzeros := List.eq_replicate_of_mem (a := '0') fun c hc =>
    beq_iff_eq.mp (List.mem_rtakeWhile_imp (l := padded 10 3 millis) (p := (· == '0')) hc)
  rw [hzeros] at hsplit
  have hlength := congrArg List.length hsplit
  rw [List.length_append, List.length_replicate, length_padded h] at hlength
  exact ⟨_, hsplit.symm, hlength⟩

lemma isFraction_fraction : IsFraction (fraction millis) where
  isDigit c hc := by
    have hmem : c ∈ padded 10 3 millis := (List.rdropWhile_prefix _ _).subset hc
    rw [padded, List.mem_append] at hmem
    rcases hmem with hzero | hdigit
    · rw [List.eq_of_mem_replicate hzero]
      rfl
    · exact isDigit_of_mem_toDigits hdigit
  length_le := by
    obtain ⟨k, -, hlength⟩ := exists_padded_eq h
    omega
  getLast_ne hlast := by
    have hne : fraction millis ≠ [] := by
      rintro hnil
      simp [hnil] at hlast
    rw [List.getLast?_eq_some_getLast hne, Option.some.injEq] at hlast
    have hkept := List.rdropWhile_last_not (p := (· == '0')) (l := padded 10 3 millis) hne
    exact hkept (beq_iff_eq.mpr hlast)

/-- The fraction is worth its number of milliseconds. -/
lemma fraction_value :
    (decimal (fraction millis) : ℚ) / 10 ^ (fraction millis).length = millis / 1000 := by
  obtain ⟨k, hk, hlength⟩ := exists_padded_eq h
  have hvalue : 10 ^ k * decimal (fraction millis) = millis := by
    rw [← decimal_append_replicate, ← hk, padded, decimal_replicate_append, decimal_toDigits]
  have hcast : (10 : ℚ) ^ k * decimal (fraction millis) = millis := by exact_mod_cast hvalue
  have hthousand : (1000 : ℚ) = 10 ^ (fraction millis).length * 10 ^ k := by
    rw [← pow_add, hlength]
    norm_num
  rw [hthousand, ← hcast]
  field_simp

/-- There is no fraction of a whole second. -/
lemma fraction_eq_nil_iff : fraction millis = [] ↔ millis = 0 := by
  constructor
  · intro hnil
    have hvalue := fraction_value h
    rw [hnil] at hvalue
    have hzero : (millis : ℚ) / 1000 = 0 := by
      rw [← hvalue]
      norm_num [decimal]
    exact_mod_cast (div_eq_zero_iff.mp hzero).resolve_right (by norm_num)
  · rintro rfl
    decide

end Fraction

/-- **Every fraction is that of some milliseconds.** -/
lemma exists_fraction_eq {digits : List Char} (h : IsFraction digits) :
    ∃ millis, millis < 1000 ∧ fraction millis = digits := by
  set all := digits ++ List.replicate (3 - digits.length) '0' with hall
  have hlength : all.length = 3 := by
    rw [hall, List.length_append, List.length_replicate]
    have := h.length_le
    omega
  have hdigits : ∀ c ∈ all, c.isDigit = true := by
    intro c hc
    rcases List.mem_append.mp hc with hdigit | hzero
    · exact h.isDigit c hdigit
    · rw [List.eq_of_mem_replicate hzero]
      rfl
  have hpadded : padded 10 3 (decimal all) = all := by
    rw [← hlength]
    exact padded_decimal (by rintro hnil; simp [hnil] at hlength) hdigits
  have hlt : decimal all < 1000 := by
    have hle : (Nat.toDigits 10 (decimal all)).length ≤ 3 := by
      have := congrArg List.length hpadded
      rw [padded, List.length_append, hlength] at this
      omega
    exact (Nat.length_toDigits_le_iff (by decide) (by decide)).mp hle
  refine ⟨decimal all, hlt, ?_⟩
  rw [fraction, hpadded, hall, List.rdropWhile, List.reverse_append, List.reverse_replicate,
    List.dropWhile_append_of_pos fun c hc => by simp [List.eq_of_mem_replicate hc]]
  have hkept : digits.reverse.dropWhile (· == '0') = digits.reverse := by
    cases hreverse : digits.reverse with
    | nil => rfl
    | cons c rest =>
        refine List.dropWhile_cons_of_neg ?_
        rw [beq_iff_eq]
        rintro rfl
        exact h.getLast_ne (by rw [← List.head?_reverse, hreverse]; rfl)
  rw [hkept, List.reverse_reverse]

/-! ## Texts of hours, minutes and seconds -/

/-- Whole seconds and a fraction behind a point, if there is one. -/
def secondsText (whole fraction : List Char) : List Char :=
  whole ++ (if fraction = [] then [] else '.' :: fraction) ++ ['s']

lemma secondsChars_append {seconds millis : Nat} (h : millis < 1000) :
    secondsChars seconds millis ++ ['s']
      = secondsText (Nat.toDigits 10 seconds) (fraction millis) := by
  rw [secondsChars, secondsText]
  simp only [fraction_eq_nil_iff h]
  rfl

/-- **A second or more is written in units**, of which those in front are left out if they are
zero. -/
lemma chars_of_units {hours minutes seconds millis : Nat} (hminutes : minutes < 60)
    (hseconds : seconds < 60) (hmillis : millis < 1000)
    (hpos : 0 < 3600 * hours + 60 * minutes + seconds) :
    let text := secondsText (Nat.toDigits 10 seconds) (fraction millis)
    chars (1000 * (3600 * hours + 60 * minutes + seconds) + millis)
      = if hours = 0 then
          if minutes = 0 then text else Nat.toDigits 10 minutes ++ 'm' :: text
        else Nat.toDigits 10 hours ++ 'h' :: (Nat.toDigits 10 minutes ++ 'm' :: text) := by
  intro text
  set total := 3600 * hours + 60 * minutes + seconds with htotal
  have hwhole : (1000 * total + millis) / 1000 = total := by omega
  have hrest : (1000 * total + millis) % 1000 = millis := by omega
  have hhours : total / 3600 = hours := by omega
  have hminutes' : total % 3600 / 60 = minutes := by omega
  have hseconds' : total % 60 = seconds := by omega
  rw [chars, if_neg (by omega), if_neg (by omega)]
  simp only [hwhole, hrest, hhours, hminutes', hseconds', secondsChars_append hmillis]
  rfl

/-- The units of a number of milliseconds. -/
lemma exists_units {m : Nat} (h : 1000 ≤ m) :
    ∃ hours minutes seconds millis, minutes < 60 ∧ seconds < 60 ∧ millis < 1000 ∧
      0 < 3600 * hours + 60 * minutes + seconds ∧
      m = 1000 * (3600 * hours + 60 * minutes + seconds) + millis :=
  ⟨m / 1000 / 3600, m / 1000 % 3600 / 60, m / 1000 % 60, m % 1000, by omega, by omega, by omega,
    by omega, by omega⟩

/-! ## Canonical texts -/

/-- **The canonical texts of durations.**  Nothing at all is no seconds, less than a second is so many
milliseconds, and from then on there are seconds, minutes from the first one on and hours from the
first one on.  There are less than 60 seconds and minutes, and any number of hours. -/
inductive IsCanonical : List Char → Prop
  | none : IsCanonical ['0', 's']
  | millis {digits : List Char} (hdigits : IsWhole digits) (hpos : 0 < decimal digits)
      (hlt : decimal digits < 1000) : IsCanonical (digits ++ ['m', 's'])
  | seconds {whole fraction : List Char} (hwhole : IsWhole whole) (hpos : 0 < decimal whole)
      (hlt : decimal whole < 60) (hfraction : IsFraction fraction) :
      IsCanonical (secondsText whole fraction)
  | minutes {minutes whole fraction : List Char} (hminutes : IsWhole minutes)
      (hpos : 0 < decimal minutes) (hlt : decimal minutes < 60) (hwhole : IsWhole whole)
      (hsixty : decimal whole < 60) (hfraction : IsFraction fraction) :
      IsCanonical (minutes ++ 'm' :: secondsText whole fraction)
  | hours {hours minutes whole fraction : List Char} (hhours : IsWhole hours)
      (hpos : 0 < decimal hours) (hminutes : IsWhole minutes) (hlt : decimal minutes < 60)
      (hwhole : IsWhole whole) (hsixty : decimal whole < 60) (hfraction : IsFraction fraction) :
      IsCanonical (hours ++ 'h' :: (minutes ++ 'm' :: secondsText whole fraction))

lemma isCanonical_chars (m : Nat) : IsCanonical (chars m) := by
  rcases Nat.eq_zero_or_pos m with rfl | hpos
  · exact .none
  rcases Nat.lt_or_ge m 1000 with hlt | hge
  · rw [chars, if_neg hpos.ne', if_pos hlt]
    exact .millis (isWhole_toDigits m) (by rwa [decimal_toDigits]) (by rwa [decimal_toDigits])
  obtain ⟨hours, minutes, seconds, millis, hminutes, hseconds, hmillis, hunits, rfl⟩ :=
    exists_units hge
  have hfraction := isFraction_fraction hmillis
  have hwhole := isWhole_toDigits
  rw [chars_of_units hminutes hseconds hmillis hunits]
  rw [← decimal_toDigits minutes] at hminutes
  rw [← decimal_toDigits seconds] at hseconds
  split_ifs with hhours hzero
  · refine .seconds (hwhole _) ?_ hseconds hfraction
    rw [decimal_toDigits]
    omega
  · refine .minutes (hwhole _) ?_ hminutes (hwhole _) hseconds hfraction
    rw [decimal_toDigits]
    omega
  · refine .hours (hwhole _) ?_ (hwhole _) hminutes (hwhole _) hseconds hfraction
    rw [decimal_toDigits]
    omega

/-- **The canonical texts are those that are written.** -/
theorem isCanonical_iff {t : List Char} : IsCanonical t ↔ ∃ m, chars m = t := by
  constructor
  · intro h
    cases h with
    | none => exact ⟨0, rfl⟩
    | @millis digits hdigits hpos hlt =>
        refine ⟨decimal digits, ?_⟩
        rw [chars, if_neg hpos.ne', if_pos hlt, toDigits_decimal hdigits]
    | @seconds whole fraction hwhole hpos hlt hfraction =>
        obtain ⟨millis, hmillis, rfl⟩ := exists_fraction_eq hfraction
        refine ⟨1000 * (3600 * 0 + 60 * 0 + decimal whole) + millis, ?_⟩
        rw [chars_of_units (by decide) hlt hmillis (by omega), if_pos rfl, if_pos rfl,
          toDigits_decimal hwhole]
    | @minutes minutes whole fraction hminutes hpos hlt hwhole hsixty hfraction =>
        obtain ⟨millis, hmillis, rfl⟩ := exists_fraction_eq hfraction
        refine ⟨1000 * (3600 * 0 + 60 * decimal minutes + decimal whole) + millis, ?_⟩
        rw [chars_of_units hlt hsixty hmillis (by omega), if_pos rfl, if_neg hpos.ne',
          toDigits_decimal hminutes, toDigits_decimal hwhole]
    | @hours hours minutes whole fraction hhours hpos hminutes hlt hwhole hsixty hfraction =>
        obtain ⟨millis, hmillis, rfl⟩ := exists_fraction_eq hfraction
        refine ⟨1000 * (3600 * decimal hours + 60 * decimal minutes + decimal whole) + millis, ?_⟩
        rw [chars_of_units hlt hsixty hmillis (by omega), if_neg hpos.ne',
          toDigits_decimal hhours, toDigits_decimal hminutes, toDigits_decimal hwhole]
  · rintro ⟨m, rfl⟩
    exact isCanonical_chars m

/-! ## Reading durations -/

/-- The number that digits in front of a text write, and what follows them; there has to be a
digit. -/
def number? (cs : List Char) : Option (Nat × List Char) :=
  let digits := cs.takeWhile Char.isDigit
  if digits = [] then none else some (decimal digits, cs.dropWhile Char.isDigit)

/-- The seconds that a text of seconds says. -/
def seconds? (cs : List Char) : Option ℚ :=
  match number? cs with
  | some (whole, ['s']) => some whole
  | some (whole, '.' :: rest) =>
    let digits := rest.takeWhile Char.isDigit
    if digits ≠ [] ∧ rest.dropWhile Char.isDigit = ['s'] then
      some (whole + decimal digits / 10 ^ digits.length)
    else none
  | _ => none

/-- The seconds that a text says in which there may be minutes. -/
def minutes? (cs : List Char) : Option ℚ :=
  match number? cs with
  | some (minutes, 'm' :: rest) => (seconds? rest).map (60 * minutes + ·)
  | _ => seconds? cs

/-- **The seconds that a text says**: milliseconds, or hours, minutes and seconds. -/
def read? (cs : List Char) : Option ℚ :=
  match number? cs with
  | some (millis, ['m', 's']) => some (millis / 1000)
  | some (hours, 'h' :: rest) => (minutes? rest).map (3600 * hours + ·)
  | _ => minutes? cs

section Read

variable {digits whole fraction rest : List Char}

lemma number?_append (h : IsWhole digits) (hrest : ∀ c ∈ rest.head?, c.isDigit = false) :
    number? (digits ++ rest) = some (decimal digits, rest) := by
  rw [number?]
  simp only [takeWhile_append h.isDigit hrest, dropWhile_append h.isDigit hrest, h.ne_nil, if_false]

/-- What follows the whole seconds. -/
lemma number?_secondsText (hwhole : IsWhole whole) :
    number? (secondsText whole fraction)
      = some (decimal whole, (if fraction = [] then [] else '.' :: fraction) ++ ['s']) := by
  rw [secondsText, List.append_assoc, number?_append hwhole]
  split_ifs <;> simp

lemma seconds?_secondsText (hwhole : IsWhole whole) (hfraction : IsFraction fraction) :
    seconds? (secondsText whole fraction)
      = some ((decimal whole : ℚ) + decimal fraction / 10 ^ fraction.length) := by
  rw [seconds?, number?_secondsText hwhole]
  by_cases hnil : fraction = []
  · subst hnil
    simp [decimal]
  · have hend : ∀ c ∈ ['s'].head?, c.isDigit = false := by simp
    rw [if_neg hnil]
    simp only [List.cons_append, takeWhile_append hfraction.isDigit hend,
      dropWhile_append hfraction.isDigit hend]
    exact if_pos ⟨hnil, trivial⟩

/-- A text of seconds is read as one, as there are no other units in front. -/
lemma minutes?_secondsText (hwhole : IsWhole whole) :
    minutes? (secondsText whole fraction) = seconds? (secondsText whole fraction) := by
  rw [minutes?, number?_secondsText hwhole]
  by_cases hnil : fraction = [] <;> simp [hnil]

lemma minutes?_append (hdigits : IsWhole digits) :
    minutes? (digits ++ 'm' :: rest) = (seconds? rest).map (60 * (decimal digits : ℚ) + ·) := by
  rw [minutes?, number?_append hdigits (by simp)]
  rfl

lemma read?_millis (hdigits : IsWhole digits) :
    read? (digits ++ ['m', 's']) = some (decimal digits / 1000 : ℚ) := by
  rw [read?, number?_append hdigits (by simp)]
  rfl

lemma read?_secondsText (hwhole : IsWhole whole) :
    read? (secondsText whole fraction) = seconds? (secondsText whole fraction) := by
  rw [read?, number?_secondsText hwhole, ← minutes?_secondsText hwhole]
  by_cases hnil : fraction = [] <;> simp [hnil]

/-- Minutes are not taken for milliseconds, as there are digits behind their unit. -/
lemma read?_minutes (hdigits : IsWhole digits) (hwhole : IsWhole whole) :
    read? (digits ++ 'm' :: secondsText whole fraction)
      = minutes? (digits ++ 'm' :: secondsText whole fraction) := by
  have hne : secondsText whole fraction ≠ ['s'] := by
    intro heq
    have hread : number? (secondsText whole fraction) = _ := number?_secondsText hwhole
    rw [heq] at hread
    cases hread
  rw [read?, number?_append hdigits (by simp)]
  split
  case h_1 heq =>
      simp only [Option.some.injEq, Prod.mk.injEq, List.cons.injEq, true_and] at heq
      exact absurd heq.2 hne
  case h_2 heq => simp at heq
  case h_3 => rfl

lemma read?_hours (hdigits : IsWhole digits) :
    read? (digits ++ 'h' :: rest) = (minutes? rest).map (3600 * (decimal digits : ℚ) + ·) := by
  rw [read?, number?_append hdigits (by simp)]
  rfl

end Read

/-- Seconds and milliseconds below one second are read as they were written. -/
lemma seconds?_units {seconds millis : Nat} (h : millis < 1000) :
    seconds? (secondsText (Nat.toDigits 10 seconds) (fraction millis))
      = some (seconds + millis / 1000 : ℚ) := by
  rw [seconds?_secondsText (isWhole_toDigits seconds) (isFraction_fraction h), decimal_toDigits,
    fraction_value h]

/-- **What was written is read back**: exactly that many milliseconds. -/
theorem read?_chars (m : Nat) : read? (chars m) = some (m / 1000 : ℚ) := by
  have hwhole := isWhole_toDigits
  rcases Nat.eq_zero_or_pos m with rfl | hpos
  · have hzero : chars 0 = secondsText (Nat.toDigits 10 0) (fraction 0) := by decide
    rw [hzero, read?_secondsText (hwhole 0), seconds?_units (by decide)]
    norm_num
  rcases Nat.lt_or_ge m 1000 with hlt | hge
  · rw [chars, if_neg hpos.ne', if_pos hlt, read?_millis (hwhole m), decimal_toDigits]
  obtain ⟨hours, minutes, seconds, millis, hminutes, hseconds, hmillis, hunits, rfl⟩ :=
    exists_units hge
  rw [chars_of_units hminutes hseconds hmillis hunits]
  split_ifs with hhours hzero
  · rw [read?_secondsText (hwhole seconds), seconds?_units hmillis, hhours, hzero]
    congr 1
    push_cast
    ring
  · rw [read?_minutes (hwhole minutes) (hwhole seconds), minutes?_append (hwhole minutes),
      seconds?_units hmillis, decimal_toDigits, hhours, Option.map_some]
    congr 1
    push_cast
    ring
  · rw [read?_hours (hwhole hours), minutes?_append (hwhole minutes), seconds?_units hmillis,
      decimal_toDigits, decimal_toDigits, Option.map_some, Option.map_some]
    congr 1
    push_cast
    ring

/-- Different numbers of milliseconds are read differently, so they are written differently. -/
lemma eq_of_read?_chars_eq {m n : Nat} (h : read? (chars m) = read? (chars n)) : m = n := by
  rw [read?_chars, read?_chars, Option.some.injEq, div_left_inj' (by norm_num)] at h
  exact_mod_cast h

lemma chars_injective : Function.Injective chars := fun _ _ h =>
  eq_of_read?_chars_eq (congrArg read? h)

/-- **What is shown is at most half a millisecond away**, as no time is less than none. -/
lemma abs_toNat_sub_le {x : ℚ} {r : ℤ} (h : RoundsTo (1000 * x) r) :
    |(r.toNat / 1000 : ℚ) - max x 0| ≤ 1 / 2000 := by
  have htoNat : (r.toNat : ℚ) = max (r : ℚ) 0 := by
    exact_mod_cast Int.toNat_eq_max r
  have hscale : max (1000 * x) 0 = 1000 * max x 0 := by
    rw [mul_max_of_nonneg _ _ (by norm_num), mul_zero]
  have hclipped : |max (r : ℚ) 0 - 1000 * max x 0| ≤ 1 / 2 :=
    calc |max (r : ℚ) 0 - 1000 * max x 0|
        = |max (r : ℚ) 0 - max (1000 * x) 0| := by rw [hscale]
      _ ≤ |(r : ℚ) - 1000 * x| := abs_max_sub_max_le_abs _ _ _
      _ = |1000 * x - r| := abs_sub_comm _ _
      _ ≤ 1 / 2 := h.abs_sub_le
  rw [← htoNat, abs_le] at hclipped
  rw [abs_le]
  constructor <;> linarith

/-- **The text of a number of seconds** says the milliseconds that it is rounded to, and it is the only
canonical text that says them.  What is rounded to other milliseconds has another text, and no duration
is more than half a millisecond away from the number of seconds, if that is not negative. -/
theorem text_canonical (x : ℚ) :
    ∃ r : ℤ, RoundsTo (1000 * x) r ∧
      read? (text x).toList = some (r.toNat / 1000 : ℚ) ∧
      (∀ t, IsCanonical t ∧ read? t = some (r.toNat / 1000 : ℚ) ↔ t = (text x).toList) ∧
      (∀ y, text y = text x ↔ ∃ s : ℤ, RoundsTo (1000 * y) s ∧ s.toNat = r.toNat) ∧
      |(r.toNat / 1000 : ℚ) - max x 0| ≤ 1 / 2000 := by
  have htext (y : ℚ) : (text y).toList = chars (roundHalfAway (1000 * y)).toNat := by
    rw [text, String.toList_ofList, millis, mul_comm]
  have hrounds := roundsTo_roundHalfAway (1000 * x)
  refine ⟨_, hrounds, ?_, fun t => ⟨?_, ?_⟩, fun y => ?_, abs_toNat_sub_le hrounds⟩
  · rw [htext, read?_chars]
  · rintro ⟨hcanonical, hread⟩
    obtain ⟨m, rfl⟩ := isCanonical_iff.mp hcanonical
    rw [← read?_chars] at hread
    rw [htext, eq_of_read?_chars_eq hread]
  · rintro rfl
    rw [htext]
    exact ⟨isCanonical_chars _, read?_chars _⟩
  · rw [← String.toList_inj, htext, htext, chars_injective.eq_iff]
    simp only [roundsTo_iff, exists_eq_left]

end Duration
end LedgerCheck
