import Mathlib
import LedgerCheck.Json.Document
import LedgerCheck.Json.Printer

/-!
# Quoted strings

A quoted string is read as the string that was quoted, whatever characters it has.

* `Document.readPieces_escaped` — an escaped character is read as one piece, the character.
* **`Document.readString_quoted`** — a quoted string is read as the string.
-/

namespace LedgerCheck
namespace Document

/-! ## One character -/

/-- An escape of one letter is read as the character that it names. -/
lemma readPieces_escape {e value : Char} (he : e ≠ 'u') (hvalue : escape? e = some value)
    (rest : List Char) :
    readPieces ('\\' :: e :: rest)
      = (readPieces rest).map fun read => (.char value :: read.1, read.2) := by
  rw [readPieces.eq_def]
  simp only [if_neg (by decide : '\\' ≠ '"'), if_true, if_neg he, hvalue, Option.bind_eq_bind,
    Option.bind_some]
  cases readPieces rest <;> rfl

/-- An escape of four digits is read as the piece that they name. -/
lemma readPieces_unit {h₁ h₂ h₃ h₄ : Char} {piece : Piece}
    (hpiece : unitPiece? h₁ h₂ h₃ h₄ = some piece) (rest : List Char) :
    readPieces ('\\' :: 'u' :: h₁ :: h₂ :: h₃ :: h₄ :: rest)
      = (readPieces rest).map fun read => (piece :: read.1, read.2) := by
  rw [readPieces.eq_def]
  simp only [if_neg (by decide : '\\' ≠ '"'), if_true, hpiece, Option.bind_eq_bind,
    Option.bind_some]
  cases readPieces rest <;> rfl

/-- A character that needs no escape is read as it is. -/
lemma readPieces_plain {c : Char} (hquote : c ≠ '"') (hbackslash : c ≠ '\\')
    (hcode : ¬ c.toNat < 0x20) (rest : List Char) :
    readPieces (c :: rest)
      = (readPieces rest).map fun read => (.char c :: read.1, read.2) := by
  rw [readPieces.eq_def]
  simp only [if_neg hquote, if_neg hbackslash, if_neg hcode]
  cases readPieces rest <;> rfl

/-- The four digits of a control character name it. -/
lemma unitPiece?_hexDigit : ∀ n < 0x20,
    unitPiece? '0' '0' (hexDigit (n / 16)) (hexDigit (n % 16))
      = some (.char (Char.ofNat n)) := by
  decide

/-- **An escaped character is read as one piece, the character.** -/
lemma readPieces_escaped (c : Char) (rest : List Char) :
    readPieces (escaped c ++ rest)
      = (readPieces rest).map fun read => (.char c :: read.1, read.2) := by
  have hofNat : Char.ofNat c.toNat = c := Char.ofNat_toNat c
  rw [escaped]
  split_ifs with hquote hbackslash hcode hb hf hn hr ht
  · exact readPieces_escape (by decide) (by rw [hquote]; rfl) rest
  · exact readPieces_escape (by decide) (by rw [hbackslash]; rfl) rest
  · exact readPieces_escape (by decide) (by rw [← hofNat, hb]; rfl) rest
  · exact readPieces_escape (by decide) (by rw [← hofNat, hf]; rfl) rest
  · exact readPieces_escape (by decide) (by rw [hn]; rfl) rest
  · exact readPieces_escape (by decide) (by rw [hr]; rfl) rest
  · exact readPieces_escape (by decide) (by rw [ht]; rfl) rest
  · exact readPieces_unit (by rw [unitPiece?_hexDigit c.toNat hcode, hofNat]) rest
  · exact readPieces_plain hquote hbackslash hcode rest

/-! ## A string -/

/-- Escaped characters up to the closing quote are read as those characters. -/
lemma readPieces_flatMap_escaped (cs rest : List Char) :
    readPieces (cs.flatMap escaped ++ '"' :: rest) = some (cs.map .char, rest) := by
  induction cs with
  | nil => simp [readPieces.eq_def]
  | cons c cs ih =>
      rw [List.flatMap_cons, List.append_assoc, readPieces_escaped, ih]
      rfl

/-- Pieces that are characters all are a string of them. -/
lemma pair?_map_char (cs : List Char) : pair? (cs.map .char) = some cs := by
  induction cs with
  | nil => rfl
  | cons c cs ih => rw [List.map_cons, pair?, ih, Option.map_some]

/-- **A quoted string is read as the string**, up to its closing quote. -/
theorem readString_quoted (s : String) (rest : List Char) :
    readString (s.toList.flatMap escaped ++ '"' :: rest) = some (some s, rest) := by
  rw [readString, readPieces_flatMap_escaped, Option.map_some]
  simp only [pair?_map_char, Option.map_some, String.ofList_toList]

end Document
end LedgerCheck
