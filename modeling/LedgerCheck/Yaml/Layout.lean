import LedgerCheck.Yaml.Token
/-!
# The token sequence of a YAML text

Tokens in order, together with those that only the layout of the text tells: where blocks begin and
end, and which tokens are keys.  Whether a token is a key is known only when a colon follows it on
its line, so a place is kept for the key indicator until then.

* `Layout` — the state after the tokens read so far.
* `Layout.step` — the next token.
* `tokens?` — the whole sequence, or nothing if the text is no YAML.
-/

namespace LedgerCheck
namespace Yaml

/-- A token that is a key if a colon follows it.  A required key that gets no colon is an error. -/
structure PossibleKey where
  position : Nat
  index : Nat
  line : Nat
  column : Nat
  required : Bool
deriving Repr

/-- The state of reading tokens.  The tokens stand in reverse order.  For each open collection in
flow style, and for the blocks around them, there is one place for a possible key. -/
structure Layout where
  cursor : Cursor
  reversed : List Token := []
  count : Nat := 0
  flowDepth : Nat := 0
  indent : Int := -1
  outerIndents : List Int := []
  keyAllowed : Bool := true
  keys : List (Option PossibleKey) := [none]

namespace Layout

/-! ## Tokens and blocks -/

/-- Adds a token at the end. -/
def emit (l : Layout) (t : Token) : Layout :=
  { l with reversed := t :: l.reversed, count := l.count + 1 }

/-- Adds a token before the one at a position. -/
def insertAt (l : Layout) (position : Nat) (t : Token) : Layout :=
  let after := l.count - position
  { l with
    reversed := l.reversed.take after ++ t :: l.reversed.drop after
    count := l.count + 1 }

/-- Inside a collection in flow style. -/
def inFlow (l : Layout) : Bool := l.flowDepth != 0

/-- The blocks that end when a line starts at a column: the indentation that is left, the ones
around it, and how many blocks ended. -/
def closedBlocks (column indent : Int) : List Int → Int × List Int × Nat
  | [] => (indent, [], 0)
  | outer :: rest =>
    if column < indent then
      let (indent, outers, n) := closedBlocks column outer rest
      (indent, outers, n + 1)
    else (indent, outer :: rest, 0)

/-- Ends the blocks that are indented deeper than a column. -/
def closeBlocks (l : Layout) (column : Int) : Layout :=
  if l.inFlow then l
  else
    let (indent, outers, n) := closedBlocks column l.indent l.outerIndents
    { l with
      indent
      outerIndents := outers
      reversed := List.replicate n .blockEnd ++ l.reversed
      count := l.count + n }

/-- Begins a block at a column, before the token at a position, unless a block of that indentation
is open already. -/
def openBlock (l : Layout) (column position : Nat) (t : Token) : Layout :=
  if !l.inFlow && decide (l.indent < column) then
    { l with indent := column, outerIndents := l.indent :: l.outerIndents }.insertAt position t
  else l

/-! ## Possible keys -/

/-- Gives up the possible key of the innermost collection. -/
def dropKey (l : Layout) : Option Layout :=
  match l.keys with
  | some key :: rest => if key.required then none else some { l with keys := none :: rest }
  | _ => some l

/-- Notes that the token to come is a possible key, if one is allowed here.  The first token at the
indentation of a block has to be one. -/
def saveKey (l : Layout) : Option Layout :=
  if l.keyAllowed then do
    let l ← l.dropKey
    let key : PossibleKey :=
      { position := l.count
        index := l.cursor.index
        line := l.cursor.line
        column := l.cursor.column
        required := !l.inFlow && l.indent == (l.cursor.column : Int) }
    some { l with keys := some key :: l.keys.drop 1 }
  else some l

/-- The longest key, in bytes, that needs no indicator of its own. -/
def keyLength : Nat := 1024

/-- A possible key that has ended: it lies on an earlier line, or too far back. -/
def isStale (c : Cursor) (key : PossibleKey) : Bool :=
  decide (key.line < c.line) || decide (key.index + keyLength < c.index)

/-- Gives up the possible keys that have ended. -/
def dropStaleKeys (l : Layout) : Option Layout :=
  let stale := fun key : Option PossibleKey => key.any (isStale l.cursor)
  if l.keys.any fun key => stale key && key.any (·.required) then none
  else some { l with keys := l.keys.map fun key => if stale key then none else key }

/-! ## Between tokens -/

/-- Passes blanks, comments and line breaks.  A byte order mark may start a line.  Outside flow
style a tab does not count as a blank where a key may stand, and a line break makes room for a
key. -/
def skipToToken : Nat → Layout → Layout
  | 0, l => l
  | fuel + 1, l =>
    let c := l.cursor
    let c := if c.column = 0 && c.seesChar 0 (Char.ofNat 0xfeff) then c.advance 1 else c
    let c := c.skipWhile fun ch => ch == ' ' || ((l.inFlow || !l.keyAllowed) && ch == '\t')
    let c := if c.seesChar 0 '#' then c.advance c.lineRest.length else c
    if c.sees 0 isBreak then
      skipToToken fuel
        { l with cursor := c.passBreak.2, keyAllowed := l.keyAllowed || !l.inFlow }
    else { l with cursor := c }

/-! ## One token -/

/-- Takes an indicator of `n` characters. -/
def take (l : Layout) (n : Nat) (t : Token) : Layout :=
  { l with cursor := l.cursor.advance n }.emit t

/-- Takes a token that was read up to a place. -/
def takeTo (l : Layout) (read : Token × Cursor) : Layout :=
  { l with cursor := read.2 }.emit read.1

/-- A directive, or a line that begins or ends a document: all blocks end. -/
def betweenDocuments (l : Layout) : Option Layout := do
  let l ← (l.closeBlocks (-1)).dropKey
  some { l with keyAllowed := false }

/-- The beginning of a collection in flow style. -/
def beginFlow (l : Layout) (t : Token) : Option Layout := do
  let l ← l.saveKey
  some ({ l with keys := none :: l.keys, flowDepth := l.flowDepth + 1, keyAllowed := true }.take 1 t)

/-- The end of a collection in flow style. -/
def endFlow (l : Layout) (t : Token) : Option Layout := do
  let l ← l.dropKey
  let keys := if l.inFlow then l.keys.drop 1 else l.keys
  some ({ l with keys, flowDepth := l.flowDepth - 1, keyAllowed := false }.take 1 t)

/-- The comma between items in flow style. -/
def flowComma (l : Layout) : Option Layout := do
  let l ← l.dropKey
  some ({ l with keyAllowed := true }.take 1 .flowEntry)

/-- The hyphen before an item of a block. -/
def hyphen (l : Layout) : Option Layout :=
  if !l.inFlow && !l.keyAllowed then none
  else do
    let l ← (l.openBlock l.cursor.column l.count .blockSequenceStart).dropKey
    some ({ l with keyAllowed := true }.take 1 .blockEntry)

/-- The question mark before a key. -/
def questionMark (l : Layout) : Option Layout :=
  if !l.inFlow && !l.keyAllowed then none
  else do
    let l ← (l.openBlock l.cursor.column l.count .blockMappingStart).dropKey
    some ({ l with keyAllowed := !l.inFlow }.take 1 .key)

/-- The colon before a value.  After a possible key it tells that there was one. -/
def colon (l : Layout) : Option Layout :=
  match l.keys with
  | some key :: rest =>
    let l := (l.insertAt key.position .key).openBlock key.column key.position .blockMappingStart
    some ({ l with keys := none :: rest, keyAllowed := false }.take 1 .value)
  | _ =>
    if !l.inFlow && !l.keyAllowed then none
    else
      let l := l.openBlock l.cursor.column l.count .blockMappingStart
      some ({ l with keyAllowed := !l.inFlow }.take 1 .value)

/-- A token that may be a key. -/
def node (l : Layout) (read : Layout → Option (Token × Cursor)) : Option Layout := do
  let l ← l.saveKey
  let token ← read l
  some ({ l with keyAllowed := false }.takeTo token)

/-- A block scalar, after which a key may stand. -/
def blockScalar (l : Layout) (folded : Bool) : Option Layout := do
  let l ← l.dropKey
  let token ← Token.blockScalar folded l.indent l.cursor
  some ({ l with keyAllowed := true }.takeTo token)

/-- A plain scalar; after one that ends with its line a key may stand. -/
def plainScalar (l : Layout) : Option Layout := do
  let l ← l.saveKey
  let (token, broken, c) ← Token.plain l.inFlow (l.indent + 1) l.cursor
  some ({ l with keyAllowed := broken }.takeTo (token, c))

/-- A plain scalar may start with the next characters. -/
def startsPlain (l : Layout) (ch : Char) : Bool :=
  let c := l.cursor
  !(isSpace ch || isBreak ch || isOneOf "-?:,[]\x7b\x7d#&*!|>'\"%@\x60" ch) ||
    (ch == '-' && !c.sees 1 isSpace) ||
    (!l.inFlow && (ch == '?' || ch == ':') && !c.endsWord 1)

/-- The token that starts with a character. -/
def token (l : Layout) (ch : Char) : Option Layout :=
  let c := l.cursor
  if c.column == 0 && ch == '%' then do
    let l ← l.betweenDocuments
    let token ← Token.directiveAt l.cursor
    some (l.takeTo token)
  else if c.startsWith3 '-' then (l.betweenDocuments).map (·.take 3 .documentStart)
  else if c.startsWith3 '.' then (l.betweenDocuments).map (·.take 3 .documentEnd)
  else if ch == '[' then l.beginFlow .flowSequenceStart
  else if ch == '\x7b' then l.beginFlow .flowMappingStart
  else if ch == ']' then l.endFlow .flowSequenceEnd
  else if ch == '\x7d' then l.endFlow .flowMappingEnd
  else if ch == ',' then l.flowComma
  else if ch == '-' && c.endsWord 1 then l.hyphen
  else if ch == '?' && (l.inFlow || c.endsWord 1) then l.questionMark
  else if ch == ':' && (l.inFlow || c.endsWord 1) then l.colon
  else if ch == '*' then
    l.node fun l => (Token.nameAt l.cursor).map fun (name, c) => (.alias name, c)
  else if ch == '&' then
    l.node fun l => (Token.nameAt l.cursor).map fun (name, c) => (.anchor name, c)
  else if ch == '!' then l.node fun l => Token.tagAt l.inFlow l.cursor
  else if ch == '|' && !l.inFlow then l.blockScalar false
  else if ch == '>' && !l.inFlow then l.blockScalar true
  else if ch == '\'' || ch == '"' then l.node fun l => Token.quotedScalar ch l.cursor
  else if l.startsPlain ch then l.plainScalar
  else none

/-- The next token, or the end of the text. -/
def step (l : Layout) : Option (Layout × Bool) := do
  let l ← (skipToToken (l.cursor.rest.length + 1) l).dropStaleKeys
  let l := l.closeBlocks l.cursor.column
  match l.cursor.peek? 0 with
  | some ch => (l.token ch).map fun l => (l, false)
  | none => ((l.closeBlocks (-1)).dropKey).map fun l => (l, true)

/-- All tokens up to the end of the text. -/
def run : Nat → Layout → Option (List Token)
  | 0, _ => none
  | fuel + 1, l =>
    match l.step with
    | none => none
    | some (l, true) => some l.reversed.reverse
    | some (l, false) => run fuel l

end Layout

/-- The tokens of a text. -/
def tokens? (text : String) : Option (List Token) :=
  let cs := text.toList
  if cs.all isAllowed then Layout.run (cs.length + 2) { cursor := Cursor.start cs } else none

end Yaml
end LedgerCheck
