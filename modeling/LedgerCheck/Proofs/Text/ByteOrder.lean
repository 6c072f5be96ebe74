import Mathlib

/-!
# The order of texts is the order of their bytes

Texts are compared character by character, and their UTF-8 forms byte by byte.  Both come to the same:
a character with a larger code point has a larger byte at the first place where the two forms differ,
and no form is the start of another one.

* `Text.utf8EncodeChar_append_lt` — two characters, whatever bytes follow.
* **`Text.bytes_lt_of_lt`** — a smaller text has smaller bytes.
-/

namespace LedgerCheck
namespace Text

open String (utf8EncodeChar)

/-- **The smaller of two characters has the smaller bytes**, whatever bytes follow. -/
lemma utf8EncodeChar_append_lt {c d : Char} (h : c < d) (xs ys : List UInt8) :
    utf8EncodeChar c ++ xs < utf8EncodeChar d ++ ys := by
  have hlt : c.val.toNat < d.val.toNat := h
  have hmax : d.val.toNat < 1114112 := by
    rcases d.valid with hlow | hhigh <;> omega
  rw [utf8EncodeChar, utf8EncodeChar]
  generalize c.val.toNat = v at *
  generalize d.val.toNat = w at *
  -- the bytes are digits to the base 64, of which all but the first are the same in both forms
  have hdigits (n : Nat) : n / 4096 = n / 64 / 64 ∧ n / 262144 = n / 64 / 64 / 64 := by omega
  simp only [(hdigits v).1, (hdigits v).2, (hdigits w).1, (hdigits w).2]
  clear hdigits
  split_ifs <;>
    simp only [List.cons_append, List.nil_append, List.cons_lt_cons_iff, UInt8.lt_iff_toNat_lt,
      ← UInt8.toNat_inj, UInt8.toNat_ofNat'] <;>
    omega

/-- The same bytes in front make no difference to the order. -/
lemma append_lt_append {bytes xs ys : List UInt8} (h : xs < ys) : bytes ++ xs < bytes ++ ys := by
  induction bytes with
  | nil => exact h
  | cons b bytes ih => exact List.cons_lt_cons_iff.mpr (Or.inr ⟨rfl, ih⟩)

/-- Characters in order have their bytes in order: the first character that differs decides. -/
lemma flatMap_utf8EncodeChar_lt {cs ds : List Char} (h : cs < ds) :
    cs.flatMap utf8EncodeChar < ds.flatMap utf8EncodeChar := by
  induction h with
  | @nil c rest =>
      rw [List.flatMap_nil, List.flatMap_cons]
      obtain ⟨b, bytes, hc⟩ := List.exists_cons_of_ne_nil (String.utf8EncodeChar_ne_nil (c := c))
      rw [hc]
      exact List.nil_lt_cons _ _
  | cons _ ih => exact append_lt_append ih
  | rel hlt => exact utf8EncodeChar_append_lt hlt _ _

/-- The bytes of a text are those of its characters. -/
lemma bytes_eq_flatMap (s : String) :
    s.toUTF8.data.toList = s.toList.flatMap utf8EncodeChar := by
  rw [String.toUTF8_eq_toByteArray]
  conv_lhs => rw [← String.ofList_toList (s := s), String.toByteArray_ofList]
  exact List.toList_data_toByteArray

/-- **A smaller text has smaller bytes.** -/
theorem bytes_lt_of_lt {s t : String} (h : s < t) :
    s.toUTF8.data.toList < t.toUTF8.data.toList := by
  rw [bytes_eq_flatMap, bytes_eq_flatMap]
  exact flatMap_utf8EncodeChar_lt (String.lt_iff.mp h)

end Text
end LedgerCheck
