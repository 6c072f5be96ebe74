/-!
# Places in a YAML text

A `Cursor` stands before the next character of a text and knows its index, line and column.  The
column decides about the nesting of blocks, and the line and index about which tokens may be keys.
The index counts bytes and the column counts characters.

* `isBreak`, `isSpace` — line breaks, and blanks inside a line.
* `Cursor.advance`, `Cursor.passBreak` — going on within a line and past its end.
* `Gap` — what stands between two words of a scalar, and what folding makes of it.
-/

namespace LedgerCheck
namespace Yaml

/-! ## Characters -/

/-- The character ends a line. -/
def isBreak (c : Char) : Bool :=
  c == '\n' || c == '\r' || c.toNat == 0x85 || c.toNat == 0x2028 || c.toNat == 0x2029

/-- The character is a blank inside a line. -/
def isSpace (c : Char) : Bool := c == ' ' || c == '\t'

/-- The character may stand in a YAML text. -/
def isAllowed (c : Char) : Bool :=
  let n := c.toNat
  n == 0x09 || n == 0x0a || n == 0x0d || (0x20 ≤ n && n ≤ 0x7e) || n == 0x85 ||
    (0xa0 ≤ n && n ≤ 0xd7ff) || (0xe000 ≤ n && n ≤ 0xfffd) || 0x10000 ≤ n

/-- A letter, digit, hyphen or underscore. -/
def isWordChar (c : Char) : Bool := c.isAlphanum || c == '-' || c == '_'

/-- The character is one of a few. -/
def isOneOf (set : String) (c : Char) : Bool := set.toList.contains c

/-! ## Cursors -/

/-- A place in a text. -/
structure Cursor where
  rest : List Char
  index : Nat
  line : Nat
  column : Nat
deriving Repr

namespace Cursor

/-- The beginning of a text. -/
def start (cs : List Char) : Cursor := ⟨cs, 0, 0, 0⟩

/-- The next character but `n`. -/
def peek? (c : Cursor) (n : Nat) : Option Char := c.rest[n]?

/-- The next character but `n` has a property. -/
def sees (c : Cursor) (n : Nat) (p : Char → Bool) : Bool := (c.peek? n).any p

/-- The next character but `n` is a given one. -/
def seesChar (c : Cursor) (n : Nat) (ch : Char) : Bool := c.sees n (· == ch)

/-- No character is left. -/
def atEnd (c : Cursor) : Bool := c.rest.isEmpty

/-- The next character but `n` ends a word: a blank, a line break or the end of the text. -/
def endsWord (c : Cursor) (n : Nat) : Bool :=
  (c.peek? n).all fun ch => isSpace ch || isBreak ch

/-- How many bytes characters take in UTF-8. -/
def byteSize (cs : List Char) : Nat := (cs.map Char.utf8Size).foldr (· + ·) 0

/-- Passes `n` characters of a line. -/
def advance (c : Cursor) (n : Nat) : Cursor :=
  ⟨c.rest.drop n, c.index + byteSize (c.rest.take n), c.line, c.column + n⟩

/-- Passes the characters of a line that have a property. -/
def skipWhile (c : Cursor) (p : Char → Bool) : Cursor := c.advance (c.rest.takeWhile p).length

/-- The characters up to the end of the line or of the text. -/
def lineRest (c : Cursor) : List Char := c.rest.takeWhile fun ch => !isBreak ch

/-- Passes a line break, which is a single one even as carriage return and line feed.  The break
stands for a line feed in a scalar, the two Unicode separators for themselves. -/
def passBreak (c : Cursor) : List Char × Cursor :=
  match c.rest with
  | '\r' :: '\n' :: rest => (['\n'], ⟨rest, c.index + 2, c.line + 1, 0⟩)
  | ch :: rest =>
    if isBreak ch then
      (if ch.toNat == 0x2028 || ch.toNat == 0x2029 then [ch] else ['\n'],
        ⟨rest, c.index + ch.utf8Size, c.line + 1, 0⟩)
    else ([], c)
  | [] => ([], c)

/-- A line starts here with three characters and the end of a word. -/
def startsWith3 (c : Cursor) (mark : Char) : Bool :=
  c.column == 0 && c.seesChar 0 mark && c.seesChar 1 mark && c.seesChar 2 mark && c.endsWord 3

/-- A line starts here that begins or ends a document. -/
def atDocumentMark (c : Cursor) : Bool := c.startsWith3 '-' || c.startsWith3 '.'

end Cursor

/-! ## Gaps -/

/-- What stands between two words of a scalar: blanks, or line breaks of which the first is kept
apart. -/
structure Gap where
  broken : Bool := false
  blanks : List Char := []
  first : List Char := []
  more : List Char := []
deriving Repr

namespace Gap

/-- What folding makes of a gap: a single line feed becomes a space, and of several all but the
first are kept. -/
def text (g : Gap) : List Char :=
  if !g.broken then g.blanks
  else if g.first == ['\n'] then if g.more.isEmpty then [' '] else g.more
  else g.first ++ g.more

/-- Reads on in a gap.  After a line break a tab left of the given column is refused. -/
def read (tabColumn : Int) : Nat → Gap → Cursor → Option (Gap × Cursor)
  | 0, _, _ => none
  | fuel + 1, g, c =>
    match c.peek? 0 with
    | none => some (g, c)
    | some ch =>
      if isSpace ch then
        if g.broken then
          if ch == '\t' && decide ((c.column : Int) < tabColumn) then none
          else read tabColumn fuel g (c.advance 1)
        else read tabColumn fuel { g with blanks := g.blanks ++ [ch] } (c.advance 1)
      else if isBreak ch then
        let (text, next) := c.passBreak
        if g.broken then read tabColumn fuel { g with more := g.more ++ text } next
        else read tabColumn fuel { broken := true, first := text } next
      else some (g, c)

end Gap
end Yaml
end LedgerCheck
