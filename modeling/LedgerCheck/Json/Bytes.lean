import LedgerCheck.Json.Document
import LedgerCheck.Text.Utf8
/-!
# JSON in bytes

A document that comes as bytes may be broken inside a string that nobody looks at, and is then as
good as any other.  So a broken run of bytes is read like half of a surrogate pair: inside a string
it leaves the string without a value, and anywhere else it is an error.

* `Document.ofBytes?` — the document that bytes spell.
-/

namespace LedgerCheck
namespace Document

/-- What is read in the place of a broken run.  The letters around the escape keep it from becoming
part of a pair or of another escape, and are themselves errors outside of strings. -/
def brokenRun : List Char := ['x', '\\', 'u', 'd', '8', '0', '0', 'x']

/-- The document that characters and broken runs spell. -/
def ofPieces? (pieces : List (Option Char)) : Option Document :=
  ofChars? (pieces.flatMap fun piece => (piece.map fun c => [c]).getD brokenRun)

/-- The document that bytes spell. -/
def ofBytes? (bytes : ByteArray) : Option Document :=
  match String.fromUTF8? bytes with
  | some text => read? text
  | none => ofPieces? (Utf8.pieces bytes)

end Document
end LedgerCheck
