import LedgerCheck.Proofs.Text.Utf8

/-!
# Texts behind a byte order mark

Some editors put a byte order mark in front of a text.  The mark is the form of a character:
taking a mark away makes no text of bytes that are none, and a text starts with a mark only if it
starts with that character.

* `Utf8.marked` — bytes behind a mark.
* **`Utf8.withoutMark_marked`**, `Utf8.withoutMark_eq_self` — one mark is taken away.
* `Utf8.mark_prefix_iff` — the texts whose bytes start with a mark.
* `Utf8.exists_toUTF8_of_withoutMark` — bytes that are a text without their mark are one with it.
-/

namespace LedgerCheck
namespace Utf8

open String (utf8EncodeChar)

variable {bytes : ByteArray} {text : String}

/-- The bytes behind a byte order mark. -/
def marked (bytes : ByteArray) : ByteArray := mark.toByteArray ++ bytes

lemma toList_marked (bytes : ByteArray) : (marked bytes).toList = mark ++ bytes.toList := by
  rw [toList_bytes, toList_bytes, marked, ByteArray.toList_data_append,
    List.toList_data_toByteArray]

/-- Bytes that start with a mark are the bytes behind one. -/
lemma exists_eq_marked (h : mark <+: bytes.toList) : ∃ rest, bytes = marked rest := by
  obtain ⟨rest, hrest⟩ := h
  refine ⟨rest.toByteArray, ByteArray.ext (Array.toList_inj.mp ?_)⟩
  rw [← toList_bytes, ← toList_bytes, toList_marked, toList_bytes rest.toByteArray,
    List.toList_data_toByteArray, hrest]

/-- **One mark is taken away.** -/
theorem withoutMark_marked (bytes : ByteArray) : withoutMark (marked bytes) = bytes := by
  have hprefix : mark.isPrefixOf (marked bytes).toList = true := by
    rw [List.isPrefixOf_iff_prefix, toList_marked]
    exact List.prefix_append mark _
  rw [withoutMark, if_pos hprefix]
  exact ByteArray.extract_append_eq_right rfl ByteArray.size_append

lemma withoutMark_eq_self (h : ¬ mark <+: bytes.toList) : withoutMark bytes = bytes := by
  rw [withoutMark, if_neg (mt List.isPrefixOf_iff_prefix.mp h)]

/-! ## Marks in texts -/

/-- The mark is the form of a character. -/
lemma utf8EncodeChar_mark : utf8EncodeChar '\ufeff' = mark := by decide

/-- **The bytes of a text start with a mark** if the text starts with that character. -/
lemma mark_prefix_iff : mark <+: text.toUTF8.toList ↔ text.toList.head? = some '\ufeff' := by
  rw [toList_bytes, Text.bytes_eq_flatMap, ← utf8EncodeChar_mark]
  cases text.toList with
  | nil => decide
  | cons c rest =>
      rw [List.flatMap_cons]
      constructor
      · rintro ⟨more, h⟩
        rw [(eq_of_append_eq h).1]
        rfl
      · intro h
        cases h
        exact List.prefix_append _ _

lemma marked_toUTF8 (text : String) : marked text.toUTF8 = ("\ufeff" ++ text).toUTF8 := by
  rw [marked, String.toUTF8_eq_toByteArray, String.toUTF8_eq_toByteArray, String.toByteArray_append]
  rfl

lemma fromUTF8?_eq_some_iff : String.fromUTF8? bytes = some text ↔ bytes = text.toUTF8 := by
  constructor
  · intro h
    rw [String.fromUTF8?] at h
    split_ifs at h with hvalid
    cases h
    rfl
  · rintro rfl
    exact dif_pos text.isValidUTF8

/-- **Bytes that are a text without their mark** are a text with it. -/
lemma exists_toUTF8_of_withoutMark (h : String.fromUTF8? (withoutMark bytes) = some text) :
    ∃ whole : String, bytes = whole.toUTF8 := by
  have hbytes := fromUTF8?_eq_some_iff.mp h
  by_cases hmark : mark <+: bytes.toList
  · obtain ⟨rest, rfl⟩ := exists_eq_marked hmark
    rw [withoutMark_marked] at hbytes
    exact ⟨"\ufeff" ++ text, hbytes ▸ marked_toUTF8 text⟩
  · rw [withoutMark_eq_self hmark] at hbytes
    exact ⟨text, hbytes⟩

end Utf8
end LedgerCheck
