import LedgerCheck.Json.Numeral
/-!
# JSON texts

A text is read in two steps.  The first one finds its structure and keeps everything as written:
numerals, repeated names, strings that name half of a surrogate pair, and any depth.  The second
one takes a value out of that, so that each reader looks only at the parts that it uses.

* `Document` — the structure of a text.
* `Document.read?` — the document a text spells, with blanks around it.
* `Document.toJson?` — the document as a plain value, nested at most `depthLimit` deep.
-/

namespace LedgerCheck

/-- The structure of a JSON text.  A string without a value has an unpaired surrogate in it. -/
inductive Document where
  | null
  | bool (value : Bool)
  | number (value : Numeral)
  | string (value : Option String)
  | array (items : List Document)
  | object (fields : List (Option String × Document))
deriving Repr

namespace Document

/-! ## Strings -/

/-- A piece of a string: a character, or half of a surrogate pair. -/
inductive Piece where
  | char (value : Char)
  | high (value : Nat)
  | low (value : Nat)
deriving DecidableEq, Repr

/-- The piece that four hexadecimal digits name. -/
def unitPiece? (a b c d : Char) : Option Piece := do
  let n ← Digits.natural? 16 [a, b, c, d]
  some (if 0xD800 ≤ n ∧ n < 0xDC00 then .high (n - 0xD800)
    else if 0xDC00 ≤ n ∧ n < 0xE000 then .low (n - 0xDC00)
    else .char (Char.ofNat n))

/-- The character that a one-letter escape names. -/
def escape? (c : Char) : Option Char :=
  if c = '"' then some '"'
  else if c = '\\' then some '\\'
  else if c = '/' then some '/'
  else if c = 'b' then some (Char.ofNat 0x08)
  else if c = 'f' then some (Char.ofNat 0x0c)
  else if c = 'n' then some '\n'
  else if c = 'r' then some '\r'
  else if c = 't' then some '\t'
  else none

/-- The pieces of a string up to its closing quote. -/
def readPieces : List Char → Option (List Piece × List Char)
  | [] => none
  | c :: rest =>
    if c = '"' then some ([], rest)
    else if c = '\\' then
      match rest with
      | [] => none
      | e :: rest =>
        if e = 'u' then
          match rest with
          | h₁ :: h₂ :: h₃ :: h₄ :: rest => do
            let piece ← unitPiece? h₁ h₂ h₃ h₄
            let (pieces, rest) ← readPieces rest
            some (piece :: pieces, rest)
          | _ => none
        else do
          let value ← escape? e
          let (pieces, rest) ← readPieces rest
          some (.char value :: pieces, rest)
    else if c.toNat < 0x20 then none
    else do
      let (pieces, rest) ← readPieces rest
      some (.char c :: pieces, rest)

/-- The characters of a string, when every surrogate is half of a pair. -/
def pair? : List Piece → Option (List Char)
  | [] => some []
  | .char c :: rest => (pair? rest).map (c :: ·)
  | .high h :: .low l :: rest =>
    (pair? rest).map (Char.ofNat (0x10000 + h * 0x400 + l) :: ·)
  | _ => none

/-- The string after its opening quote. -/
def readString (cs : List Char) : Option (Option String × List Char) :=
  (readPieces cs).map fun (pieces, rest) => ((pair? pieces).map String.ofList, rest)

/-! ## Structure -/

/-- The blanks that may stand between the parts of a text. -/
def isBlank (c : Char) : Bool := c == ' ' || c == '\t' || c == '\n' || c == '\r'

/-- The text after its leading blanks. -/
def skipBlanks (cs : List Char) : List Char := cs.dropWhile isBlank

/-- The rest of a text that starts with the given word. -/
def dropWord? (word cs : List Char) : Option (List Char) :=
  if word.isPrefixOf cs then some (cs.drop word.length) else none

mutual

/-- The value at the head of a text.  The fuel is a bound on the length of the text. -/
def readValue : Nat → List Char → Option (Document × List Char)
  | 0, _ => none
  | fuel + 1, cs =>
    match skipBlanks cs with
    | [] => none
    | c :: rest =>
      if c = 'n' then (dropWord? ['u', 'l', 'l'] rest).map fun rest => (.null, rest)
      else if c = 't' then (dropWord? ['r', 'u', 'e'] rest).map fun rest => (.bool true, rest)
      else if c = 'f' then
        (dropWord? ['a', 'l', 's', 'e'] rest).map fun rest => (.bool false, rest)
      else if c = '"' then (readString rest).map fun (s, rest) => (.string s, rest)
      else if c = '[' then
        match skipBlanks rest with
        | ']' :: rest => some (.array [], rest)
        | rest => (readItems fuel rest).map fun (items, rest) => (.array items, rest)
      else if c = '\x7b' then
        match skipBlanks rest with
        | '\x7d' :: rest => some (.object [], rest)
        | rest => (readFields fuel rest).map fun (fields, rest) => (.object fields, rest)
      else (Numeral.read (c :: rest)).map fun (n, rest) => (.number n, rest)

/-- One item or more, up to the end of their array. -/
def readItems : Nat → List Char → Option (List Document × List Char)
  | 0, _ => none
  | fuel + 1, cs => do
    let (item, rest) ← readValue fuel cs
    match skipBlanks rest with
    | ']' :: rest => some ([item], rest)
    | ',' :: rest => (readItems fuel rest).map fun (items, rest) => (item :: items, rest)
    | _ => none

/-- One field or more, up to the end of their object. -/
def readFields : Nat → List Char → Option (List (Option String × Document) × List Char)
  | 0, _ => none
  | fuel + 1, cs =>
    match skipBlanks cs with
    | '"' :: rest => do
      let (name, rest) ← readString rest
      match skipBlanks rest with
      | ':' :: rest =>
        let (value, rest) ← readValue fuel rest
        match skipBlanks rest with
        | '\x7d' :: rest => some ([(name, value)], rest)
        | ',' :: rest =>
          (readFields fuel rest).map fun (fields, rest) => ((name, value) :: fields, rest)
        | _ => none
      | _ => none
    | _ => none

end

/-- The document that a list of characters spells. -/
def ofChars? (cs : List Char) : Option Document :=
  match readValue (cs.length + 1) cs with
  | some (d, rest) => if (skipBlanks rest).isEmpty then some d else none
  | none => none

/-- The document a text spells. -/
def read? (text : String) : Option Document := ofChars? text.toList

/-! ## Plain values -/

/-- How deep containers may be nested in a plain value. -/
def depthLimit : Nat := 127

mutual

/-- The document as a value with at most `depth` levels of containers: every number has a value,
every string is well formed, and of several fields with one name the last is kept. -/
def toJsonWithin? (depth : Nat) : Document → Option Json
  | .null => some .null
  | .bool b => some (.bool b)
  | .number n => n.number?.map .number
  | .string s => s.map .string
  | .array items =>
    match depth with
    | 0 => none
    | depth + 1 => (itemsWithin? depth items).map .array
  | .object fields =>
    match depth with
    | 0 => none
    | depth + 1 => (fieldsWithin? depth fields).map fun fields => .object (SortedMap.ofList fields)

/-- The items as values. -/
def itemsWithin? (depth : Nat) : List Document → Option (List Json)
  | [] => some []
  | item :: rest => do
    let item ← toJsonWithin? depth item
    let rest ← itemsWithin? depth rest
    some (item :: rest)

/-- The fields as values, in their order in the text. -/
def fieldsWithin? (depth : Nat) :
    List (Option String × Document) → Option (List (String × Json))
  | [] => some []
  | (name, value) :: rest => do
    let name ← name
    let value ← toJsonWithin? depth value
    let rest ← fieldsWithin? depth rest
    some ((name, value) :: rest)

end

/-- The document as a plain value. -/
def toJson? (d : Document) : Option Json := d.toJsonWithin? depthLimit

end Document

/-- The plain value that a text spells. -/
def Json.read? (text : String) : Option Json := (Document.read? text).bind Document.toJson?

end LedgerCheck
