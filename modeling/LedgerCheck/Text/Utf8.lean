import LedgerCheck.Text.Blank
/-!
# UTF-8

Bytes as text.  A run of bytes that starts a character but does not go on as that character, or
that starts none, is broken; runs are as long as the bytes can still be the start of a character.

* `Utf8.pieces` — characters and broken runs, in order.
* `Utf8.mendedText` — the text in which a replacement character stands for each broken run.
* `Utf8.withoutMark` — bytes without the mark that some editors put in front of a text.
-/

namespace LedgerCheck
namespace Utf8

/-! ## Characters and broken runs -/

/-- A character of which some bytes are still to come: how many, the range of the next one, and
the value of the bits so far. -/
structure Partial where
  missing : Nat
  low : Nat
  high : Nat
  value : Nat
deriving DecidableEq, Repr

/-- What a byte completes: a character, a part of one, or nothing. -/
inductive Progress where
  | complete (value : Char)
  | started (rest : Partial)
  | broken
deriving DecidableEq, Repr

/-- What a byte at the start of a character is.  The range of the second byte shuts out longer
spellings than needed, surrogates, and values that are no characters. -/
def lead (b : UInt8) : Progress :=
  let n := b.toNat
  if n < 0x80 then .complete (Char.ofNat n)
  else if n < 0xC2 then .broken
  else if n < 0xE0 then .started ⟨1, 0x80, 0xBF, n - 0xC0⟩
  else if n = 0xE0 then .started ⟨2, 0xA0, 0xBF, 0⟩
  else if n = 0xED then .started ⟨2, 0x80, 0x9F, 0xD⟩
  else if n < 0xF0 then .started ⟨2, 0x80, 0xBF, n - 0xE0⟩
  else if n = 0xF0 then .started ⟨3, 0x90, 0xBF, 0⟩
  else if n < 0xF4 then .started ⟨3, 0x80, 0xBF, n - 0xF0⟩
  else if n = 0xF4 then .started ⟨3, 0x80, 0x8F, 4⟩
  else .broken

/-- What a byte makes of a character whose start is given. -/
def Partial.extend (p : Partial) (b : UInt8) : Progress :=
  let n := b.toNat
  if p.low ≤ n ∧ n ≤ p.high then
    let value := p.value * 64 + (n - 0x80)
    if p.missing ≤ 1 then .complete (Char.ofNat value)
    else .started ⟨p.missing - 1, 0x80, 0xBF, value⟩
  else .broken

/-- The characters and broken runs of bytes that may come after the start of a character. -/
def piecesAfter : Option Partial → List UInt8 → List (Option Char)
  | none, [] => []
  | some _, [] => [none]
  | none, b :: rest =>
    match lead b with
    | .complete c => some c :: piecesAfter none rest
    | .started p => piecesAfter (some p) rest
    | .broken => none :: piecesAfter none rest
  | some p, b :: rest =>
    match p.extend b with
    | .complete c => some c :: piecesAfter none rest
    | .started p => piecesAfter (some p) rest
    | .broken =>
      none ::
        match lead b with
        | .complete c => some c :: piecesAfter none rest
        | .started p => piecesAfter (some p) rest
        | .broken => none :: piecesAfter none rest

/-- The characters of bytes, and nothing in the place of each broken run. -/
def pieces (bytes : ByteArray) : List (Option Char) := piecesAfter none bytes.toList

/-! ## Texts -/

/-- The text in which the replacement character stands for each broken run. -/
def mendedText (bytes : ByteArray) : String :=
  String.ofList ((pieces bytes).map fun piece => piece.getD '\ufffd')

/-- The byte order mark. -/
def mark : List UInt8 := [0xEF, 0xBB, 0xBF]

/-- The bytes without one byte order mark at their start. -/
def withoutMark (bytes : ByteArray) : ByteArray :=
  if mark.isPrefixOf bytes.toList then bytes.extract mark.length bytes.size else bytes

end Utf8
end LedgerCheck
