import LedgerCheck.Json.Basic
/-!
# Written JSON

Two written forms of a value: the compact one, without blanks, and the indented one, in which every
item and field stands on a line of its own, two spaces deeper than its container.

* `quoted` — a string between quotes, with as few escapes as JSON allows.
* `Json.compact` — the compact form; of a canonical value it is the canonical text that is hashed.
* `Json.pretty` — the indented form.
-/

namespace LedgerCheck

/-! ## Strings and numbers -/

/-- A hexadecimal digit in lower case. -/
def hexDigit (n : Nat) : Char :=
  if n < 10 then Char.ofNat ('0'.toNat + n) else Char.ofNat ('a'.toNat + (n - 10))

/-- A character inside a quoted string.  Only the quote, the backslash and the controls below space
are escaped, the latter in their short form if they have one. -/
def escaped (c : Char) : List Char :=
  if c = '"' then ['\\', '"']
  else if c = '\\' then ['\\', '\\']
  else if c.toNat < 0x20 then
    if c.toNat = 0x08 then ['\\', 'b']
    else if c.toNat = 0x0c then ['\\', 'f']
    else if c = '\n' then ['\\', 'n']
    else if c = '\r' then ['\\', 'r']
    else if c = '\t' then ['\\', 't']
    else ['\\', 'u', '0', '0', hexDigit (c.toNat / 16), hexDigit (c.toNat % 16)]
  else [c]

/-- A string between quotes. -/
def quoted (s : String) : List Char := '"' :: (s.toList.flatMap escaped ++ ['"'])

/-- A decimal integer. -/
def integerChars (i : Int) : List Char :=
  (if i < 0 then ['-'] else []) ++ Nat.toDigits 10 i.natAbs

namespace JsonNumber

/-- The numeral of a number. -/
def chars : JsonNumber → List Char
  | .int i => integerChars i
  | .float x => x.chars

end JsonNumber

namespace Json

/-! ## The compact form -/

mutual

/-- A value without any blanks. -/
def compactChars : Json → List Char
  | .null => ['n', 'u', 'l', 'l']
  | .bool true => ['t', 'r', 'u', 'e']
  | .bool false => ['f', 'a', 'l', 's', 'e']
  | .number n => n.chars
  | .string s => quoted s
  | .array [] => ['[', ']']
  | .array (item :: rest) => '[' :: (compactChars item ++ compactItems rest)
  | .object [] => ['\x7b', '\x7d']
  | .object ((name, value) :: rest) =>
    '\x7b' :: (quoted name ++ ':' :: (compactChars value ++ compactFields rest))

/-- The items after the first, and the end of the array. -/
def compactItems : List Json → List Char
  | [] => [']']
  | item :: rest => ',' :: (compactChars item ++ compactItems rest)

/-- The fields after the first, and the end of the object. -/
def compactFields : List (String × Json) → List Char
  | [] => ['\x7d']
  | (name, value) :: rest =>
    ',' :: (quoted name ++ ':' :: (compactChars value ++ compactFields rest))

end

/-- The compact form. -/
def compact (v : Json) : String := String.ofList v.compactChars

/-! ## The indented form -/

/-- A line break and the indentation of the line after it. -/
def lineBreak (depth : Nat) : List Char := '\n' :: List.replicate (2 * depth) ' '

mutual

/-- A value whose container stands at the given depth. -/
def prettyChars (depth : Nat) : Json → List Char
  | .null => ['n', 'u', 'l', 'l']
  | .bool true => ['t', 'r', 'u', 'e']
  | .bool false => ['f', 'a', 'l', 's', 'e']
  | .number n => n.chars
  | .string s => quoted s
  | .array [] => ['[', ']']
  | .array (item :: rest) =>
    '[' :: (lineBreak (depth + 1) ++ prettyChars (depth + 1) item ++ prettyItems depth rest)
  | .object [] => ['\x7b', '\x7d']
  | .object ((name, value) :: rest) =>
    '\x7b' :: (lineBreak (depth + 1) ++ quoted name ++ ':' :: ' ' ::
      (prettyChars (depth + 1) value ++ prettyFields depth rest))

/-- The items after the first, and the end of the array. -/
def prettyItems (depth : Nat) : List Json → List Char
  | [] => lineBreak depth ++ [']']
  | item :: rest =>
    ',' :: (lineBreak (depth + 1) ++ prettyChars (depth + 1) item ++ prettyItems depth rest)

/-- The fields after the first, and the end of the object. -/
def prettyFields (depth : Nat) : List (String × Json) → List Char
  | [] => lineBreak depth ++ ['\x7d']
  | (name, value) :: rest =>
    ',' :: (lineBreak (depth + 1) ++ quoted name ++ ':' :: ' ' ::
      (prettyChars (depth + 1) value ++ prettyFields depth rest))

end

/-- The indented form. -/
def pretty (v : Json) : String := String.ofList (v.prettyChars 0)

/-- The indented form with a line break at its end, as files hold it and consoles show it. -/
def fileText (v : Json) : String := v.pretty ++ "\n"

end Json
end LedgerCheck
