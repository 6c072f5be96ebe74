import LedgerCheck.Text.Digits
import LedgerCheck.Yaml.Cursor
/-!
# YAML tokens

The tokens of a text and how each is read.  Indentation is not among them: where a block begins and
ends is decided later, from the columns that tokens stand at.

* `Token` — the tokens.
* `Token.plain`, `Token.quotedScalar`, `Token.blockScalar` — the three kinds of scalars.
* `Token.tagAt`, `Token.nameAt`, `Token.directiveAt` — tags, anchors and directives.

Each reader returns the token and the place after it, or nothing if the text is no YAML.
-/

namespace LedgerCheck
namespace Yaml

/-- A token of a YAML text.  The parts of a tag are bytes, since a tag may spell bytes out. -/
inductive Token where
  | versionDirective (major minor : Nat)
  | tagDirective (handle start : List UInt8)
  | documentStart
  | documentEnd
  | blockSequenceStart
  | blockMappingStart
  | blockEnd
  | flowSequenceStart
  | flowSequenceEnd
  | flowMappingStart
  | flowMappingEnd
  | blockEntry
  | flowEntry
  | key
  | value
  | alias (name : List Char)
  | anchor (name : List Char)
  | tag (handle suffix : List UInt8)
  | scalar (isPlain : Bool) (text : List Char)
deriving DecidableEq, Repr

namespace Token

/-! ## Plain scalars -/

/-- The characters of a plain scalar up to the next blank, line break or indicator.  Inside a flow
collection a colon just before an indicator is refused. -/
def plainRun (inFlow : Bool) : List Char → Option (List Char)
  | [] => some []
  | c :: rest =>
    if isSpace c || isBreak c then some []
    else if inFlow && c == ':' && rest.head?.any (isOneOf ",?[]\x7b\x7d") then none
    else if c == ':' && rest.head?.all (fun ch => isSpace ch || isBreak ch) then some []
    else if inFlow && isOneOf ",[]\x7b\x7d" c then some []
    else (plainRun inFlow rest).map (c :: ·)

/-- The words of a plain scalar, folded together, and whether a line break follows them.  In a
block the scalar ends at a line that is indented less than `indent`. -/
def plainWords (inFlow : Bool) (indent : Int) :
    Nat → Gap → List Char → Cursor → Option (List Char × Bool × Cursor)
  | 0, _, _, _ => none
  | fuel + 1, gap, text, c =>
    if c.atDocumentMark || c.seesChar 0 '#' then some (text, gap.broken, c)
    else do
      let run ← plainRun inFlow c.rest
      let c := c.advance run.length
      let (text, gap) := if run.isEmpty then (text, gap) else (text ++ gap.text ++ run, {})
      if c.sees 0 fun ch => isSpace ch || isBreak ch then
        let (gap, c) ← gap.read indent (c.rest.length + 1) c
        if !inFlow && decide ((c.column : Int) < indent) then some (text, gap.broken, c)
        else plainWords inFlow indent fuel gap text c
      else some (text, gap.broken, c)

/-- The plain scalar at a place. -/
def plain (inFlow : Bool) (indent : Int) (c : Cursor) : Option (Token × Bool × Cursor) :=
  (plainWords inFlow indent (c.rest.length + 1) {} [] c).map fun (text, broken, c) =>
    (scalar true text, broken, c)

/-! ## Quoted scalars -/

/-- The character that a one-letter escape names. -/
def escape? (c : Char) : Option Char :=
  match c with
  | '0' => some (Char.ofNat 0x00)
  | 'a' => some (Char.ofNat 0x07)
  | 'b' => some (Char.ofNat 0x08)
  | 't' => some '\t'
  | '\t' => some '\t'
  | 'n' => some '\n'
  | 'v' => some (Char.ofNat 0x0b)
  | 'f' => some (Char.ofNat 0x0c)
  | 'r' => some '\r'
  | 'e' => some (Char.ofNat 0x1b)
  | ' ' => some ' '
  | '"' => some '"'
  | '/' => some '/'
  | '\\' => some '\\'
  | 'N' => some (Char.ofNat 0x85)
  | '_' => some (Char.ofNat 0xa0)
  | 'L' => some (Char.ofNat 0x2028)
  | 'P' => some (Char.ofNat 0x2029)
  | _ => none

/-- How many hexadecimal digits follow an escape letter. -/
def escapeDigits? (c : Char) : Option Nat :=
  match c with
  | 'x' => some 2
  | 'u' => some 4
  | 'U' => some 8
  | _ => none

/-- The character that an escape names, given the text after its backslash, and the length of the
escape without it. -/
def escapeSequence? : List Char → Option (Char × Nat)
  | [] => none
  | e :: rest =>
    match escapeDigits? e with
    | some count => do
      let digits := rest.take count
      if digits.length < count then none
      else
        let n ← Digits.natural? 16 digits
        if n.isValidChar then some (Char.ofNat n, count + 1) else none
    | none => (escape? e).map fun ch => (ch, 1)

/-- The characters of a quoted scalar up to the next blank, line break or closing quote, and
whether they end with an escaped line break. -/
def quotedRun (quote : Char) : Nat → Cursor → Option (List Char × Bool × Cursor)
  | 0, _ => none
  | fuel + 1, c =>
    match c.rest with
    | [] => some ([], false, c)
    | ch :: rest =>
      if isSpace ch || isBreak ch then some ([], false, c)
      else if ch == quote then
        if quote == '\'' && rest.head? == some '\'' then
          (quotedRun quote fuel (c.advance 2)).map fun (text, broken, c) =>
            ('\'' :: text, broken, c)
        else some ([], false, c)
      else if quote == '"' && ch == '\\' then
        if rest.head?.any isBreak then some ([], true, (c.advance 1).passBreak.2)
        else do
          let (escaped, length) ← escapeSequence? rest
          let (text, broken, c) ← quotedRun quote fuel (c.advance (length + 1))
          some (escaped :: text, broken, c)
      else
        (quotedRun quote fuel (c.advance 1)).map fun (text, broken, c) => (ch :: text, broken, c)

/-- The words of a quoted scalar, folded together, and the place after its closing quote. -/
def quotedWords (quote : Char) : Nat → List Char → Cursor → Option (List Char × Cursor)
  | 0, _, _ => none
  | fuel + 1, text, c =>
    if c.atDocumentMark || c.atEnd then none
    else do
      let (run, broken, c) ← quotedRun quote (c.rest.length + 1) c
      let text := text ++ run
      if c.seesChar 0 quote then some (text, c.advance 1)
      else
        let (gap, c) ← Gap.read 0 (c.rest.length + 1) { broken } c
        quotedWords quote fuel (text ++ gap.text) c

/-- The quoted scalar whose opening quote stands at a place. -/
def quotedScalar (quote : Char) (c : Cursor) : Option (Token × Cursor) :=
  (quotedWords quote (c.rest.length + 1) [] (c.advance 1)).map fun (text, c) =>
    (scalar false text, c)

/-! ## Block scalars -/

/-- What becomes of the line breaks at the end of a block scalar. -/
inductive Chomping where
  | strip
  | clip
  | keep
deriving DecidableEq, Repr

/-- The header of a block scalar: chomping and indentation, in either order, if given. -/
def blockHeader (c : Cursor) : Option (Chomping × Nat × Cursor) :=
  let chomping (c : Cursor) : Option Chomping :=
    if c.seesChar 0 '+' then some .keep else if c.seesChar 0 '-' then some .strip else none
  let indentation (c : Cursor) : Option Nat :=
    (c.peek? 0).bind fun ch => if ch.isDigit then some (ch.toNat - '0'.toNat) else none
  match chomping c with
  | some mode =>
    let c := c.advance 1
    match indentation c with
    | some 0 => none
    | some n => some (mode, n, c.advance 1)
    | none => some (mode, 0, c)
  | none =>
    match indentation c with
    | some 0 => none
    | some n =>
      let c := c.advance 1
      match chomping c with
      | some mode => some (mode, n, c.advance 1)
      | none => some (.clip, n, c)
    | none => some (.clip, 0, c)

/-- Passes the indentation and the empty lines before a line of a block scalar.  A `limit` of zero
stands for an indentation not known yet; the deepest column passed is returned to find it. -/
def blockBreaks (limit : Nat) :
    Nat → Nat → List Char → Cursor → Option (List Char × Nat × Cursor)
  | 0, _, _, _ => none
  | fuel + 1, deepest, breaks, c =>
    let blanks := (c.rest.takeWhile (· == ' ')).length
    let c := c.advance (if limit = 0 then blanks else min blanks (limit - c.column))
    let deepest := max deepest c.column
    if (limit = 0 || c.column < limit) && c.seesChar 0 '\t' then none
    else if c.sees 0 isBreak then
      let (text, c) := c.passBreak
      blockBreaks limit fuel deepest (breaks ++ text) c
    else some (breaks, deepest, c)

/-- The lines of a block scalar, with the line break after the last one and those that follow it.
Folding joins two lines that do not start with a blank. -/
def blockLines (folded : Bool) (limit : Nat) :
    Nat → List Char → List Char → List Char → Bool → Cursor →
      Option (List Char × List Char × List Char × Cursor)
  | 0, _, _, _, _, _ => none
  | fuel + 1, text, lastBreak, breaks, afterBlank, c =>
    if c.column == limit && !c.atEnd then do
      let blank := c.sees 0 isSpace
      let joined :=
        if folded && lastBreak == ['\n'] && !afterBlank && !blank then
          if breaks.isEmpty then [' '] else []
        else lastBreak
      let line := c.lineRest
      let (lastBreak', c) := (c.advance line.length).passBreak
      let (breaks', _, c) ← blockBreaks limit (c.rest.length + 1) 0 [] c
      blockLines folded limit fuel (text ++ joined ++ breaks ++ line) lastBreak' breaks' blank c
    else some (text, lastBreak, breaks, c)

/-- The block scalar whose indicator stands at a place, inside a block of the given indentation. -/
def blockScalar (folded : Bool) (indent : Int) (c : Cursor) : Option (Token × Cursor) := do
  let (chomping, given, c) ← blockHeader (c.advance 1)
  let c := c.skipWhile isSpace
  let c := if c.seesChar 0 '#' then c.advance c.lineRest.length else c
  if !c.atEnd && !c.sees 0 isBreak then none
  else
    let (_, c) := c.passBreak
    let limit := if given = 0 then 0 else (max indent 0).toNat + given
    let (breaks, deepest, c) ← blockBreaks limit (c.rest.length + 1) 0 [] c
    let limit := if limit = 0 then max deepest (max (indent + 1).toNat 1) else limit
    let (text, lastBreak, breaks, c) ←
      blockLines folded limit (c.rest.length + 1) [] [] breaks false c
    let ending := match chomping with
      | .strip => []
      | .clip => lastBreak
      | .keep => lastBreak ++ breaks
    some (scalar false (text ++ ending), c)

/-! ## Names and tags -/

/-- The name of an anchor or alias after its indicator. -/
def nameAt (c : Cursor) : Option (List Char × Cursor) :=
  let name := (c.advance 1).rest.takeWhile isWordChar
  let next := c.advance (name.length + 1)
  if name.isEmpty || !(next.endsWord 0 || next.sees 0 (isOneOf "?:,]\x7d%@\x60")) then none
  else some (name, next)

/-- The UTF-8 bytes of characters. -/
def bytes (cs : List Char) : List UInt8 := (String.ofList cs).toUTF8.toList

/-- The character may stand in a tag as it is.  Between angle brackets flow indicators may, too. -/
def isTagChar (verbatim : Bool) (c : Char) : Bool :=
  isWordChar c || isOneOf ";/?:@&=+$.!~*'()" c || (verbatim && isOneOf ",[]" c)

/-- How many bytes the first byte of a UTF-8 character announces. -/
def announcedLength? (first : Nat) : Option Nat :=
  if first < 0x80 then some 1
  else if first / 0x20 = 0x06 then some 2
  else if first / 0x10 = 0x0e then some 3
  else if first / 0x08 = 0x1e then some 4
  else none

/-- The bytes of a part of a tag.  A percent sign spells a byte in two hexadecimal digits, and such
bytes have to come in whole characters, of which `owed` bytes are still to come. -/
def tagBytes (verbatim : Bool) (owed : Nat) : List Char → Option (List UInt8 × List Char)
  | [] => if owed = 0 then some ([], []) else none
  | c :: rest =>
    if c == '%' then
      match rest with
      | h₁ :: h₂ :: rest => do
        let byte ← Digits.natural? 16 [h₁, h₂]
        let owed ←
          if owed = 0 then (announcedLength? byte).map (· - 1)
          else if byte / 0x40 = 2 then some (owed - 1) else none
        let (more, rest) ← tagBytes verbatim owed rest
        some (UInt8.ofNat byte :: more, rest)
      | _ => none
    else if owed ≠ 0 then none
    else if isTagChar verbatim c then do
      let (more, rest) ← tagBytes verbatim 0 rest
      some (bytes [c] ++ more, rest)
    else some ([], c :: rest)

/-- What counts of a part of a tag: it ends before a null character. -/
def beforeNull (part : List UInt8) : List UInt8 := part.takeWhile (· != 0)

/-- The part of a tag at a place. -/
def tagPart (verbatim : Bool) (c : Cursor) : Option (List UInt8 × Cursor) := do
  let (part, rest) ← tagBytes verbatim 0 c.rest
  some (part, c.advance (c.rest.length - rest.length))

/-- A handle: an exclamation mark, perhaps with a name and a second one. -/
def handleAt (c : Cursor) : Option (List Char × Cursor) :=
  if c.seesChar 0 '!' then
    let name := (c.advance 1).rest.takeWhile isWordChar
    let next := c.advance (name.length + 1)
    if next.seesChar 0 '!' then some ('!' :: (name ++ ['!']), next.advance 1)
    else some ('!' :: name, next)
  else none

/-- The tag at a place, verbatim between angle brackets, after a named handle, or after a lone
exclamation mark, which can also be a tag of its own. -/
def tagAt (inFlow : Bool) (c : Cursor) : Option (Token × Cursor) := do
  let (token, c) ←
    if c.seesChar 1 '<' then do
      let (suffix, c) ← tagPart true (c.advance 2)
      if suffix.isEmpty || !c.seesChar 0 '>' then none
      else some (tag [] (beforeNull suffix), c.advance 1)
    else do
      let (handle, c) ← handleAt c
      let (suffix, c) ← tagPart false c
      if 1 < handle.length && handle.getLast? == some '!' then
        if suffix.isEmpty then none else some (tag (bytes handle) (beforeNull suffix), c)
      else
        let suffix := bytes (handle.drop 1) ++ beforeNull suffix
        if suffix.isEmpty then some (tag [] (bytes ['!']), c)
        else some (tag (bytes ['!']) suffix, c)
  if c.endsWord 0 || (inFlow && c.seesChar 0 ',') then some (token, c) else none

/-! ## Directives -/

/-- A number of at most nine digits. -/
def versionNumber (c : Cursor) : Option (Nat × Cursor) :=
  let digits := c.rest.takeWhile Char.isDigit
  if digits.isEmpty || 9 < digits.length then none
  else
    some (digits.foldl (fun n d => 10 * n + (d.toNat - '0'.toNat)) 0, c.advance digits.length)

/-- The version that a directive names. -/
def versionAt (c : Cursor) : Option (Token × Cursor) := do
  let (major, c) ← versionNumber (c.skipWhile isSpace)
  if !c.seesChar 0 '.' then none
  else
    let (minor, c) ← versionNumber (c.advance 1)
    some (versionDirective major minor, c)

/-- The handle that a directive declares, and what it stands for. -/
def tagDeclarationAt (c : Cursor) : Option (Token × Cursor) := do
  let (handle, c) ← handleAt (c.skipWhile isSpace)
  if handle.getLast? ≠ some '!' || !c.sees 0 isSpace then none
  else
    let (start, c) ← tagPart true (c.skipWhile isSpace)
    if start.isEmpty || !c.endsWord 0 then none
    else some (tagDirective (bytes handle) (beforeNull start), c)

/-- The directive at a place, up to the end of its line. -/
def directiveAt (c : Cursor) : Option (Token × Cursor) := do
  let name := (c.advance 1).rest.takeWhile isWordChar
  let c := c.advance (name.length + 1)
  if !c.endsWord 0 then none
  else
    let (token, c) ←
      if name = ['Y', 'A', 'M', 'L'] then versionAt c
      else if name = ['T', 'A', 'G'] then tagDeclarationAt c
      else none
    let c := c.skipWhile isSpace
    let c := if c.seesChar 0 '#' then c.advance c.lineRest.length else c
    if c.atEnd || c.sees 0 isBreak then some (token, c.passBreak.2) else none

end Token
end Yaml
end LedgerCheck
