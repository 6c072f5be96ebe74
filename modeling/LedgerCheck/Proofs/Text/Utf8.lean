import LedgerCheck.Text.Utf8
import LedgerCheck.Proofs.Text.ByteOrder

/-!
# Bytes that are no text are mended

Bytes are read as the characters whose forms they are made of, and each run of bytes that is broken
is read as one replacement character.  `Utf8.Mends` says so without looking at single bytes: a run
is broken if no character starts there, and it goes on for as long as it can still be the start of
one.  There is one such reading, and it is what `Utf8.pieces` finds by looking at one byte at a
time.

* `Utf8.eq_of_append_eq` — no form of a character is the start of another one's.
* `Utf8.IsBroken`, `Utf8.Mends` — broken runs, and the characters that bytes are read as.
* `Utf8.Partial.Continues` — what a part of a character is known to become.
* **`Utf8.mends_iff`** — the characters that bytes are read as.
* `Utf8.IsTrimmed`, `Utf8.isTrimmed_iff` — a text without the blanks at its ends.
-/

namespace LedgerCheck
namespace Utf8

open String (utf8EncodeChar)

/-! ## Forms of characters -/

/-- **No form of a character is the start of another one's.** -/
lemma eq_of_append_eq {c d : Char} {xs ys : List UInt8}
    (h : utf8EncodeChar c ++ xs = utf8EncodeChar d ++ ys) : c = d ∧ xs = ys := by
  have hsame : c = d := by
    rcases lt_trichotomy c d with hlt | heq | hgt
    · exact absurd (h ▸ Text.utf8EncodeChar_append_lt hlt xs ys) (List.lt_irrefl _)
    · exact heq
    · exact absurd (h ▸ Text.utf8EncodeChar_append_lt hgt ys xs) (List.lt_irrefl _)
  subst hsame
  exact ⟨rfl, List.append_cancel_left h⟩

/-- The first byte of the form of a code point. -/
def leadByte (v : Nat) : Nat :=
  if v ≤ 127 then v else if v ≤ 2047 then 192 + v / 64
  else if v ≤ 65535 then 224 + v / 64 ^ 2 else 240 + v / 64 ^ 3

/-- The number of bytes behind the first one in the form of a code point. -/
def furtherBytes (v : Nat) : Nat :=
  if v ≤ 127 then 0 else if v ≤ 2047 then 1 else if v ≤ 65535 then 2 else 3

/-- The last bytes of the form of a code point: its last digits to the base 64. -/
def continuation : Nat → Nat → List UInt8
  | 0, _ => []
  | k + 1, v => UInt8.ofNat (128 + v / 64 ^ k % 64) :: continuation k v

/-- **The form of a character** is its first byte and its digits behind it. -/
lemma utf8EncodeChar_eq (c : Char) :
    utf8EncodeChar c
      = UInt8.ofNat (leadByte c.toNat) :: continuation (furtherBytes c.toNat) c.toNat := by
  have hbound : c.val.toNat < 1114112 := by rcases c.valid with hlow | hhigh <;> omega
  rw [utf8EncodeChar, leadByte, furtherBytes, Char.toNat]
  generalize c.val.toNat = v at *
  split_ifs <;>
    simp only [continuation, List.cons.injEq, ← UInt8.toNat_inj, UInt8.toNat_ofNat', and_true] <;>
    omega

/-- The form of a character starts with a byte if that is its first byte. -/
lemma prefix_singleton_iff {b : UInt8} {c : Char} :
    [b] <+: utf8EncodeChar c ↔ b.toNat = leadByte c.toNat := by
  have hbound : c.val.toNat < 1114112 := by rcases c.valid with hlow | hhigh <;> omega
  have hbyte : leadByte c.toNat < 256 := by
    rw [leadByte, Char.toNat]
    split_ifs <;> omega
  rw [utf8EncodeChar_eq, List.cons_prefix_cons, ← UInt8.toNat_inj, UInt8.toNat_ofNat',
    Nat.mod_eq_of_lt hbyte]
  exact and_iff_left List.nil_prefix

/-! ## Bytes read as characters -/

/-- **Bytes are broken at the start of a run**, as far as the run goes: no character starts there,
and the run is the longest one that a character might start with, or one byte with which none does.
-/
structure IsBroken (run rest : List UInt8) : Prop where
  ne_nil : run ≠ []
  not_char : ∀ c, ¬ utf8EncodeChar c <+: run ++ rest
  start_or_single : (∃ c, run <+: utf8EncodeChar c) ∨ run.length = 1
  longest : ∀ longer, longer <+: run ++ rest → run.length < longer.length →
    ∀ c, ¬ longer <+: utf8EncodeChar c

/-- **The characters that bytes are read as**, a replacement character standing for each broken
run. -/
inductive Mends : List UInt8 → List Char → Prop
  | nil : Mends [] []
  | char {rest : List UInt8} {cs : List Char} (c : Char) (h : Mends rest cs) :
      Mends (utf8EncodeChar c ++ rest) (c :: cs)
  | broken {run rest : List UInt8} {cs : List Char} (hrun : IsBroken run rest)
      (h : Mends rest cs) : Mends (run ++ rest) ('\ufffd' :: cs)

/-- Bytes are broken as far as one run goes. -/
lemma IsBroken.length_le {run run' rest rest' : List UInt8} (h : IsBroken run rest)
    (h' : IsBroken run' rest') (heq : run ++ rest = run' ++ rest') : run'.length ≤ run.length := by
  by_contra hlonger
  have hlonger : run.length < run'.length := not_le.mp hlonger
  rcases h'.start_or_single with ⟨c, hc⟩ | hsingle
  · exact h.longest run' (heq ▸ List.prefix_append run' rest') hlonger c hc
  · have hpos := List.length_pos_iff.mpr h.ne_nil
    omega

/-- **Bytes are read in one way only.** -/
theorem Mends.unique {bytes : List UInt8} {cs ds : List Char} (hc : Mends bytes cs)
    (hd : Mends bytes ds) : cs = ds := by
  induction hc generalizing ds with
  | nil =>
      generalize hbytes : ([] : List UInt8) = bytes at hd
      cases hd with
      | nil => rfl
      | char d _ =>
          exact absurd (List.append_eq_nil_iff.mp hbytes.symm).1 String.utf8EncodeChar_ne_nil
      | broken hrun _ => exact absurd (List.append_eq_nil_iff.mp hbytes.symm).1 hrun.ne_nil
  | @char rest cs c _ ih =>
      generalize hbytes : utf8EncodeChar c ++ rest = bytes at hd
      cases hd with
      | nil => exact absurd (List.append_eq_nil_iff.mp hbytes).1 String.utf8EncodeChar_ne_nil
      | char d hd =>
          obtain ⟨rfl, rfl⟩ := eq_of_append_eq hbytes
          rw [ih hd]
      | broken hrun _ => exact absurd (hbytes ▸ List.prefix_append _ _) (hrun.not_char c)
  | @broken run rest cs hrun _ ih =>
      generalize hbytes : run ++ rest = bytes at hd
      cases hd with
      | nil => exact absurd (List.append_eq_nil_iff.mp hbytes).1 hrun.ne_nil
      | char d _ => exact absurd (hbytes ▸ List.prefix_append _ _) (hrun.not_char d)
      | broken hrun' hd =>
          have hlength := le_antisymm (hrun'.length_le hrun hbytes.symm)
            (hrun.length_le hrun' hbytes)
          obtain ⟨rfl, rfl⟩ := List.append_inj hbytes hlength
          rw [ih hd]

/-! ## Parts of characters -/

namespace Partial

/-- The code points that the part of a character may become: the next digit is in its range, and the
digits before it are known. -/
def Admits (p : Partial) (v : Nat) : Prop :=
  v / 64 ^ p.missing = p.value ∧
    p.low ≤ 128 + v / 64 ^ (p.missing - 1) % 64 ∧ 128 + v / 64 ^ (p.missing - 1) % 64 ≤ p.high

/-- **The part of a character stands for the bytes that it was made of**: the characters that start
with these bytes are those that it may become. -/
structure Continues (p : Partial) (start : List UInt8) : Prop where
  ne_nil : start ≠ []
  missing_pos : 0 < p.missing
  range : 128 ≤ p.low ∧ p.low ≤ p.high ∧ p.high ≤ 191
  isValidChar : ∀ v, p.Admits v → v.isValidChar
  form : ∀ c : Char, p.Admits c.toNat → utf8EncodeChar c = start ++ continuation p.missing c.toNat
  admits : ∀ c : Char, start <+: utf8EncodeChar c → p.Admits c.toNat

/-- A first byte is that of a part if it is the first byte of the code points that the part admits,
whose forms have as many further bytes as are missing. -/
lemma continues_singleton {p : Partial} {b : UInt8} (hmissing : 0 < p.missing)
    (hrange : 128 ≤ p.low ∧ p.low ≤ p.high ∧ p.high ≤ 191)
    (hadmitted : ∀ v, p.Admits v →
      v.isValidChar ∧ b.toNat = leadByte v ∧ p.missing = furtherBytes v)
    (hadmits : ∀ v, v.isValidChar → b.toNat = leadByte v → p.Admits v) : p.Continues [b] where
  ne_nil := List.cons_ne_nil _ _
  missing_pos := hmissing
  range := hrange
  isValidChar v hv := (hadmitted v hv).1
  form c hc := by
    obtain ⟨-, hlead, hfurther⟩ := hadmitted _ hc
    rw [utf8EncodeChar_eq, hfurther, ← hlead, UInt8.ofNat_toNat]
    rfl
  admits c hc := hadmits _ c.valid (prefix_singleton_iff.mp hc)

end Partial

/-- **A byte that a character may start with** is a character, or starts one. -/
lemma lead_cases (b : UInt8) :
    match lead b with
    | .complete c => utf8EncodeChar c = [b]
    | .started p => p.Continues [b]
    | .broken => ∀ c, ¬ [b] <+: utf8EncodeChar c := by
  have hbound : b.toNat < 256 := b.toNat_lt
  rw [lead]
  split_ifs with h₁ h₂ h₃ h₄ h₅ h₆ h₇ h₈ h₉
  case pos =>
    have hchar : (Char.ofNat b.toNat).toNat = b.toNat := by
      rw [Char.toNat_ofNat, if_pos (Or.inl (by omega))]
    show utf8EncodeChar (Char.ofNat b.toNat) = [b]
    rw [utf8EncodeChar_eq, hchar, leadByte, furtherBytes, if_pos (by omega), if_pos (by omega),
      UInt8.ofNat_toNat]
    rfl
  case pos | neg =>
    intro c
    rw [prefix_singleton_iff, leadByte]
    rcases c.valid with hlow | hhigh
    · change c.toNat < 55296 at hlow
      split_ifs <;> omega
    · change 57343 < c.toNat ∧ c.toNat < 1114112 at hhigh
      split_ifs <;> omega
  -- the parts of characters differ by numbers only
  all_goals
    refine Partial.continues_singleton (by simp) (by simp) (fun v hv => ?_) fun v hv hlead => ?_
    · simp only [Partial.Admits, Nat.reduceSub] at hv
      dsimp only
      rw [Nat.isValidChar, leadByte, furtherBytes]
      split_ifs <;> omega
    · rw [leadByte] at hlead
      simp only [Partial.Admits, Nat.reduceSub]
      rw [Nat.isValidChar] at hv
      split_ifs at hlead <;> omega

namespace Partial

/-- A further digit of a code point. -/
lemma div_pow_eq {k : Nat} (hk : 0 < k) (v : Nat) : v / 64 ^ k = v / 64 ^ (k - 1) / 64 := by
  obtain ⟨n, rfl⟩ := Nat.exists_eq_add_of_lt hk
  rw [Nat.zero_add, Nat.add_sub_cancel, Nat.pow_succ, Nat.div_div_eq_div_mul]

variable {p : Partial}

/-- A part of a character may become the code point with the least digits to come. -/
lemma admits_least (hmissing : 0 < p.missing)
    (hrange : 128 ≤ p.low ∧ p.low ≤ p.high ∧ p.high ≤ 191) :
    p.Admits ((p.value * 64 + (p.low - 128)) * 64 ^ (p.missing - 1)) := by
  have hpow : 0 < 64 ^ (p.missing - 1) := Nat.pow_pos (by decide)
  rw [Admits, div_pow_eq hmissing, Nat.mul_div_cancel _ hpow]
  omega

/-- What the next digit leaves of the code points that the part of a character admits. -/
lemma admits_and_digit_iff (hmissing : 0 < p.missing)
    (hrange : 128 ≤ p.low ∧ p.low ≤ p.high ∧ p.high ≤ 191) {n : Nat} (hlow : p.low ≤ n)
    (hhigh : n ≤ p.high) (v : Nat) :
    p.Admits v ∧ n = 128 + v / 64 ^ (p.missing - 1) % 64 ↔
      v / 64 ^ (p.missing - 1) = p.value * 64 + (n - 128) := by
  rw [Admits, div_pow_eq hmissing]
  omega

namespace Continues

variable {start : List UInt8} (h : p.Continues start)
include h

/-- The part of a character becomes some character. -/
lemma exists_form : ∃ c : Char, p.Admits c.toNat ∧
    utf8EncodeChar c = start ++ continuation p.missing c.toNat := by
  have hadmits := admits_least h.missing_pos h.range
  have hvalid := h.isValidChar _ hadmits
  have hchar : (Char.ofNat ((p.value * 64 + (p.low - 128)) * 64 ^ (p.missing - 1))).toNat
      = (p.value * 64 + (p.low - 128)) * 64 ^ (p.missing - 1) := by
    rw [Char.toNat_ofNat, if_pos hvalid]
  rw [← hchar] at hadmits
  exact ⟨_, hadmits, h.form _ hadmits⟩

/-- The bytes of a part of a character do not start with a character. -/
lemma not_prefix (c : Char) : ¬ utf8EncodeChar c <+: start := by
  rintro ⟨rest, hrest⟩
  obtain ⟨d, -, hd⟩ := h.exists_form
  have hform : utf8EncodeChar c ++ (rest ++ continuation p.missing d.toNat)
      = utf8EncodeChar d ++ [] := by
    rw [← List.append_assoc, hrest, ← hd, List.append_nil]
  obtain ⟨-, hnil⟩ := eq_of_append_eq hform
  obtain ⟨k, hk⟩ := Nat.exists_eq_add_of_lt h.missing_pos
  rw [hk] at hnil
  simp [continuation] at hnil

/-- The next byte of a character is its next digit. -/
lemma toNat_of_prefix {b : UInt8} {c : Char} (hc : start ++ [b] <+: utf8EncodeChar c) :
    b.toNat = 128 + c.toNat / 64 ^ (p.missing - 1) % 64 := by
  have hform := h.form c (h.admits c ((List.prefix_append start [b]).trans hc))
  obtain ⟨k, hk⟩ := Nat.exists_eq_add_of_lt h.missing_pos
  rw [hform, List.prefix_append_right_inj, hk, Nat.zero_add, continuation,
    List.cons_prefix_cons] at hc
  rw [hc.1, hk, UInt8.toNat_ofNat']
  simp only [Nat.zero_add, Nat.add_sub_cancel]
  omega

/-- The form of a character goes on with the digit that a byte gives. -/
lemma form_of_digit {b : UInt8} (c : Char) (hc : p.Admits c.toNat)
    (hb : b.toNat = 128 + c.toNat / 64 ^ (p.missing - 1) % 64) :
    utf8EncodeChar c = start ++ b :: continuation (p.missing - 1) c.toNat := by
  obtain ⟨k, hk⟩ := Nat.exists_eq_add_of_lt h.missing_pos
  rw [hk, Nat.zero_add, Nat.add_sub_cancel] at hb
  rw [h.form c hc, hk, Nat.zero_add, Nat.add_sub_cancel, continuation, ← hb, UInt8.ofNat_toNat]

/-- **A byte behind the part of a character** completes it, goes on with it, or breaks it. -/
lemma extend_cases (b : UInt8) :
    match p.extend b with
    | .complete c => utf8EncodeChar c = start ++ [b]
    | .started q => q.Continues (start ++ [b])
    | .broken => ∀ c, ¬ start ++ [b] <+: utf8EncodeChar c := by
  rw [extend]
  split_ifs with hdigit hlast
  · -- the last digit makes it one code point
    have hone : p.missing - 1 = 0 := Nat.sub_eq_zero_of_le hlast
    have hvalue : (p.value * 64 + (b.toNat - 128)) / 64 ^ (p.missing - 1)
        = p.value * 64 + (b.toNat - 128) := by rw [hone, pow_zero, Nat.div_one]
    obtain ⟨hadmits, hb⟩ :=
      (admits_and_digit_iff h.missing_pos h.range hdigit.1 hdigit.2 _).mpr hvalue
    have hchar : (Char.ofNat (p.value * 64 + (b.toNat - 128))).toNat
        = p.value * 64 + (b.toNat - 128) := by
      rw [Char.toNat_ofNat, if_pos (h.isValidChar _ hadmits)]
    rw [← hchar] at hadmits hb
    show utf8EncodeChar (Char.ofNat (p.value * 64 + (b.toNat - 128))) = start ++ [b]
    rw [h.form_of_digit _ hadmits hb, hone, continuation]
  · have hnext := admits_and_digit_iff h.missing_pos h.range hdigit.1 hdigit.2
    refine ⟨by simp, by dsimp only; omega, by simp, fun v hv => ?_, fun c hc => ?_, fun c hc => ?_⟩
    · exact h.isValidChar v ((hnext v).mpr hv.1).1
    · obtain ⟨hadmits, hb⟩ := (hnext _).mpr hc.1
      rw [h.form_of_digit c hadmits hb, List.append_assoc, List.singleton_append]
    · have hadmits := h.admits c ((List.prefix_append start [b]).trans hc)
      refine ⟨(hnext _).mp ⟨hadmits, h.toNat_of_prefix hc⟩, ?_⟩
      dsimp only
      omega
  · intro c hc
    obtain ⟨-, hlow, hhigh⟩ := h.admits c ((List.prefix_append start [b]).trans hc)
    rw [← h.toNat_of_prefix hc] at hlow hhigh
    exact hdigit ⟨hlow, hhigh⟩

end Continues
end Partial

/-! ## The reading of bytes -/

lemma loop_toList (bytes : ByteArray) (i : Nat) (read : List UInt8) :
    ByteArray.toList.loop bytes i read = read.reverse ++ bytes.data.toList.drop i := by
  induction i, read using ByteArray.toList.loop.induct bytes with
  | case1 i read hi ih =>
      have hnext : bytes.data.toList.drop i = bytes.get! i :: bytes.data.toList.drop (i + 1) := by
        rw [List.drop_eq_getElem_cons (by simpa using hi), ByteArray.get!,
          getElem!_pos bytes.data i (by simpa using hi), Array.getElem_toList]
      rw [ByteArray.toList.loop, if_pos hi, ih, hnext, List.reverse_cons, List.append_assoc]
      rfl
  | case2 i read hi =>
      rw [ByteArray.toList.loop, if_neg hi, List.drop_of_length_le (by simpa using hi),
        List.append_nil]

/-- The bytes of an array in a list. -/
lemma toList_bytes (bytes : ByteArray) : bytes.toList = bytes.data.toList := by
  rw [ByteArray.toList, loop_toList, List.reverse_nil, List.nil_append, List.drop_zero]

/-- Where no character goes on with the next byte, nothing that a character starts with goes on. -/
lemma prefix_start {start rest bytes : List UInt8} {c : Char}
    (hrest : ∀ b ∈ rest.head?, ∀ c, ¬ start ++ [b] <+: utf8EncodeChar c)
    (hbytes : bytes <+: start ++ rest) (hc : bytes <+: utf8EncodeChar c) : bytes <+: start := by
  rcases List.prefix_or_prefix_of_prefix hbytes (List.prefix_append start rest) with h | ⟨more, rfl⟩
  · exact h
  · cases more with
    | nil => rw [List.append_nil]
    | cons b more =>
        obtain ⟨rest, rfl⟩ := (List.prefix_append_right_inj start).mp hbytes
        have hnext : start ++ [b] <+: start ++ b :: more :=
          (List.prefix_append_right_inj start).mpr (List.prefix_append [b] more)
        exact absurd (hnext.trans hc) (hrest b (by simp) c)

/-- The part of a character is broken by a byte that does not go on with it, or by the end. -/
lemma Partial.Continues.isBroken {p : Partial} {start rest : List UInt8} (h : p.Continues start)
    (hrest : ∀ b ∈ rest.head?, ∀ c, ¬ start ++ [b] <+: utf8EncodeChar c) : IsBroken start rest where
  ne_nil := h.ne_nil
  not_char c hc := h.not_prefix c (prefix_start hrest hc (List.prefix_refl _))
  start_or_single := by
    obtain ⟨c, -, hc⟩ := h.exists_form
    exact Or.inl ⟨c, hc ▸ List.prefix_append _ _⟩
  longest longer hlonger hlength c hc :=
    absurd (prefix_start hrest hlonger hc).length_le (not_le.mpr hlength)

/-- A byte that no character starts with is broken by itself. -/
lemma isBroken_singleton {b : UInt8} (hb : ∀ c, ¬ [b] <+: utf8EncodeChar c) (rest : List UInt8) :
    IsBroken [b] rest := by
  have hfirst {bytes : List UInt8} (hbytes : bytes <+: b :: rest) {c : Char}
      (hc : bytes <+: utf8EncodeChar c) : bytes = [] :=
    List.prefix_nil.mp (prefix_start (by simpa using hb) hbytes hc)
  refine ⟨List.cons_ne_nil _ _, fun c hc => ?_, Or.inr rfl, fun longer hlonger hlength c hc => ?_⟩
  · exact String.utf8EncodeChar_ne_nil (hfirst hc (List.prefix_refl _))
  · rw [hfirst hlonger hc] at hlength
    exact absurd hlength (Nat.not_lt_zero _)

/-- **What is found one byte at a time is what the bytes are read as**, also behind the part of a
character. -/
lemma mends_piecesAfter (bytes : List UInt8) :
    Mends bytes ((piecesAfter none bytes).map (·.getD '\ufffd')) ∧
      ∀ p start, Partial.Continues p start →
        Mends (start ++ bytes) ((piecesAfter (some p) bytes).map (·.getD '\ufffd')) := by
  induction bytes with
  | nil =>
      refine ⟨.nil, fun p start h => ?_⟩
      exact .broken (h.isBroken (by simp)) .nil
  | cons b rest ih =>
      have hstart : Mends (b :: rest) ((piecesAfter none (b :: rest)).map (·.getD '\ufffd')) := by
        have hlead := lead_cases b
        rw [piecesAfter]
        cases hb : lead b with
        | complete c =>
            rw [hb] at hlead
            have hmends := Mends.char c ih.1
            rwa [hlead] at hmends
        | started p =>
            rw [hb] at hlead
            exact ih.2 p [b] hlead
        | broken =>
            rw [hb] at hlead
            exact .broken (isBroken_singleton hlead rest) ih.1
      refine ⟨hstart, fun p start h => ?_⟩
      have hextend := h.extend_cases b
      rw [piecesAfter]
      cases hb : p.extend b with
      | complete c =>
          rw [hb] at hextend
          have hmends := Mends.char c ih.1
          rwa [hextend, List.append_assoc] at hmends
      | started q =>
          rw [hb] at hextend
          have hmends := ih.2 q (start ++ [b]) hextend
          rwa [List.append_assoc] at hmends
      | broken =>
          rw [hb] at hextend
          rw [piecesAfter] at hstart
          exact .broken (h.isBroken fun b' hb' => by cases hb'; exact hextend) hstart

/-- **The characters that bytes are read as** are those of the mended text. -/
theorem mends_iff {bytes : ByteArray} {cs : List Char} :
    Mends bytes.toList cs ↔ cs = (mendedText bytes).toList := by
  have hread := (mends_piecesAfter bytes.toList).1
  rw [mendedText, String.toList_ofList, pieces]
  exact ⟨fun h => h.unique hread, fun h => h ▸ hread⟩

/-! ## Blanks at the ends -/

/-- **A text without the blanks at both ends of another one.** -/
def IsTrimmed (cs kept : List Char) : Prop :=
  ∃ before after, cs = before ++ kept ++ after ∧ (∀ c ∈ before ++ after, isBlank c = true) ∧
    (∀ c ∈ kept.head?, isBlank c = false) ∧ ∀ c ∈ kept.getLast?, isBlank c = false

/-- Blanks in front of a text that starts with none are dropped. -/
lemma dropWhile_isBlank_append {blanks rest : List Char} (hblanks : ∀ c ∈ blanks, isBlank c = true)
    (hrest : ∀ c ∈ rest.head?, isBlank c = false) : (blanks ++ rest).dropWhile isBlank = rest := by
  rw [List.dropWhile_append_of_pos hblanks]
  cases rest with
  | nil => rfl
  | cons c rest => exact List.dropWhile_cons_of_neg (by simp [hrest c rfl])

lemma head?_dropWhile_isBlank (cs : List Char) :
    ∀ c ∈ (cs.dropWhile isBlank).head?, isBlank c = false := by
  intro c hc
  have hnot := List.head?_dropWhile_not isBlank cs
  rw [Option.mem_def.mp hc] at hnot
  exact hnot

lemma forall_mem_takeWhile_isBlank (cs : List Char) :
    ∀ c ∈ cs.takeWhile isBlank, isBlank c = true := fun _ hc => List.mem_takeWhile_imp hc

/-- **Trimming drops the blanks at both ends** and nothing else. -/
theorem isTrimmed_iff {cs kept : List Char} : IsTrimmed cs kept ↔ kept = trimBlanks cs := by
  constructor
  · rintro ⟨before, after, rfl, hblank, hhead, hlast⟩
    obtain ⟨hbefore, hafter⟩ := List.forall_mem_append.mp hblank
    rw [trimBlanks]
    cases kept with
    | nil => rw [List.append_nil, List.dropWhile_eq_nil_iff.mpr hblank]; rfl
    | cons c kept =>
        rw [List.append_assoc, dropWhile_isBlank_append hbefore (by simpa using hhead),
          List.reverse_append, dropWhile_isBlank_append (by simpa using hafter)
            (by simpa only [List.head?_reverse] using hlast), List.reverse_reverse]
  · rintro rfl
    set front := cs.dropWhile isBlank with hfront
    set back := front.reverse.dropWhile isBlank with hback
    have hsplit : front = back.reverse ++ (front.reverse.takeWhile isBlank).reverse := by
      rw [← List.reverse_append, hback, List.takeWhile_append_dropWhile, List.reverse_reverse]
    refine ⟨cs.takeWhile isBlank, (front.reverse.takeWhile isBlank).reverse, ?_, ?_, ?_, ?_⟩
    · show cs = cs.takeWhile isBlank ++ back.reverse ++ (front.reverse.takeWhile isBlank).reverse
      rw [List.append_assoc, ← hsplit, hfront, List.takeWhile_append_dropWhile]
    · rw [List.forall_mem_append]
      refine ⟨forall_mem_takeWhile_isBlank cs, fun c hc => ?_⟩
      exact forall_mem_takeWhile_isBlank _ c (List.mem_reverse.mp hc)
    · intro c (hc : c ∈ back.reverse.head?)
      refine head?_dropWhile_isBlank cs c ?_
      rw [← hfront, hsplit, List.head?_append, Option.mem_def.mp hc]
      rfl
    · intro c hc
      refine head?_dropWhile_isBlank front.reverse c ?_
      rwa [← hback, ← List.getLast?_reverse]

end Utf8
end LedgerCheck
