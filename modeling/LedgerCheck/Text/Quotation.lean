import LedgerCheck.Text.Unseen
/-!
# Texts in quotes

How a text is shown inside an error message: between double quotes, so that it can be told apart
from the message and every character in it can be seen.

* `Quotation.shown` — a character as it stands between quotes.
* `quotedText`, `quotedList` — a text, and a list of texts.
-/

namespace LedgerCheck
namespace Quotation

/-- A character between quotes. -/
def shown (c : Char) : List Char :=
  if c = '"' then ['\\', '"']
  else if c = '\\' then ['\\', '\\']
  else if c = '\n' then ['\\', 'n']
  else if c = '\r' then ['\\', 'r']
  else if c = '\t' then ['\\', 't']
  else if c = Char.ofNat 0 then ['\\', '0']
  else if isUnseen c then
    '\\' :: 'u' :: '\x7b' :: (Nat.toDigits 16 c.toNat ++ ['\x7d'])
  else [c]

end Quotation

/-- A text between quotes. -/
def quotedText (s : String) : String :=
  String.ofList ('"' :: (s.toList.flatMap Quotation.shown ++ ['"']))

/-- Texts between quotes, as a list in brackets. -/
def quotedList (texts : List String) : String :=
  "[" ++ ", ".intercalate (texts.map quotedText) ++ "]"

end LedgerCheck
