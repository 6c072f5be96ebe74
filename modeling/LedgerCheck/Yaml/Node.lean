import LedgerCheck.Yaml.Layout
/-!
# The nodes of a YAML document

The tree that a token sequence describes.  An anchor numbers the node it stands at, and an alias
names a number: the one that its name stood for last.  The number of an anchor is how many names
were in use before it, so that a name used again can take the number of a later one; the node that
took a number last has it.

* `Node` — scalars, collections and aliases.
* `Composer` — what is left of the tokens, and the anchors so far.
* `Document.ofTokens?` — the single document of a token sequence, if there is one.
-/

namespace LedgerCheck
namespace Yaml

/-- A node of a document.  A tag is given by its bytes. -/
inductive Node where
  | alias (number : Nat)
  | scalar (tag : Option (List UInt8)) (isPlain : Bool) (text : List Char)
  | sequence (tag : Option (List UInt8)) (items : List Node)
  | mapping (tag : Option (List UInt8)) (fields : List (Node × Node))
deriving Repr

/-- An anchored node: its number, and how many steps of the document came before it. -/
structure Anchored where
  number : Nat
  position : Nat
  node : Node
deriving Repr

/-- What is left of the tokens, and what was learnt from the ones before. -/
structure Composer where
  tokens : List Token
  handles : List (List UInt8 × List UInt8) := []
  anchors : List (List Char × Nat) := []
  anchored : List Anchored := []
  steps : Nat := 0

/-- Composition of nodes; it fails where the tokens make no document. -/
abbrev Compose := StateT Composer Option

namespace Compose

/-! ## Tokens -/

/-- The next token. -/
def peek? : Compose (Option Token) := return (← get).tokens.head?

/-- Passes a token. -/
def skip : Compose Unit := modify fun s => { s with tokens := s.tokens.drop 1 }

/-- Passes the next token if it is the given one. -/
def accept (t : Token) : Compose Bool := do
  if (← peek?) == some t then
    skip
    return true
  else return false

/-- The next token is one of a few. -/
def sees (ts : List Token) : Compose Bool := return (← peek?).any fun t => ts.contains t

/-- Counts a step of the document. -/
def countStep : Compose Unit := modify fun s => { s with steps := s.steps + 1 }

/-! ## Anchors and tags -/

/-- The handles that need no directive. -/
def defaultHandles : List (List UInt8 × List UInt8) :=
  [(Token.bytes ['!'], Token.bytes ['!']),
   (Token.bytes ['!', '!'], Token.bytes "tag:yaml.org,2002:".toList)]

/-- The tag that a handle and a suffix stand for. -/
def resolveTag (handle suffix : List UInt8) : Compose (List UInt8) := do
  if handle.isEmpty then return suffix
  else
    match ((← get).handles ++ defaultHandles).lookup handle with
    | some start => return start ++ suffix
    | none => failure

/-- The anchor and the tag before a node, in either order. -/
def properties : Compose (Option (List Char) × Option (List UInt8)) := do
  match ← peek? with
  | some (.anchor name) =>
    skip
    match ← peek? with
    | some (.tag handle suffix) =>
      skip
      return (some name, some (← resolveTag handle suffix))
    | _ => return (some name, none)
  | some (.tag handle suffix) =>
    skip
    let anchor ← match ← peek? with
      | some (.anchor name) => do
        skip
        pure (some name)
      | _ => pure none
    return (anchor, some (← resolveTag handle suffix))
  | _ => return (none, none)

/-- The number that an anchor gives to its node. -/
def register (anchor : Option (List Char)) : Compose (Option Nat) := do
  match anchor with
  | none => return none
  | some name =>
    let number := (← get).anchors.length
    modify fun s =>
      if (s.anchors.lookup name).isSome then
        { s with anchors := s.anchors.map fun a => if a.1 = name then (name, number) else a }
      else { s with anchors := s.anchors ++ [(name, number)] }
    return some number

/-- Keeps an anchored node. -/
def keep (number : Option Nat) (position : Nat) (node : Node) : Compose Node := do
  match number with
  | none => return node
  | some number =>
    modify fun s => { s with anchored := { number, position, node } :: s.anchored }
    return node

/-- A node that was left out. -/
def absent : Compose Node := do
  countStep
  return .scalar none true []

/-! ## Nodes -/

mutual

/-- The node at the next token.  The fuel is a bound on the tokens left. -/
def node : Nat → Bool → Bool → Compose Node
  | 0, _, _ => failure
  | fuel + 1, block, indentless => do
    match ← peek? with
    | some (.alias name) =>
      skip
      countStep
      match (← get).anchors.lookup name with
      | some number => return .alias number
      | none => failure
    | _ =>
      let (anchor, tag) ← properties
      let position := (← get).steps
      let next ← peek?
      if indentless && next == some .blockEntry then
        let number ← register anchor
        countStep
        let items ← indentlessItems fuel
        countStep
        keep number position (.sequence tag items)
      else
        match next with
        | some (.scalar isPlain text) =>
          skip
          let number ← register anchor
          countStep
          keep number position (.scalar tag isPlain text)
        | some .flowSequenceStart =>
          skip
          let number ← register anchor
          countStep
          let items ← flowItems fuel true
          countStep
          keep number position (.sequence tag items)
        | some .flowMappingStart =>
          skip
          let number ← register anchor
          countStep
          let fields ← flowFields fuel true
          countStep
          keep number position (.mapping tag fields)
        | some .blockSequenceStart =>
          if !block then failure
          else
            skip
            let number ← register anchor
            countStep
            let items ← blockItems fuel
            countStep
            keep number position (.sequence tag items)
        | some .blockMappingStart =>
          if !block then failure
          else
            skip
            let number ← register anchor
            countStep
            let fields ← blockFields fuel
            countStep
            keep number position (.mapping tag fields)
        | _ =>
          if anchor.isNone && tag.isNone then failure
          else
            let number ← register anchor
            countStep
            keep number position (.scalar tag true [])

/-- The items of a block, after its beginning. -/
def blockItems : Nat → Compose (List Node)
  | 0 => failure
  | fuel + 1 => do
    if ← accept .blockEntry then
      let item ← if ← sees [.blockEntry, .blockEnd] then absent else node fuel true false
      return item :: (← blockItems fuel)
    else if ← accept .blockEnd then return []
    else failure

/-- The items of a sequence at the indentation of the mapping around it. -/
def indentlessItems : Nat → Compose (List Node)
  | 0 => failure
  | fuel + 1 => do
    if ← accept .blockEntry then
      let item ←
        if ← sees [.blockEntry, .key, .value, .blockEnd] then absent else node fuel true false
      return item :: (← indentlessItems fuel)
    else return []

/-- The fields of a block, after its beginning. -/
def blockFields : Nat → Compose (List (Node × Node))
  | 0 => failure
  | fuel + 1 => do
    if ← accept .blockEnd then return []
    else
      let key ←
        if ← accept .key then
          if ← sees [.key, .value, .blockEnd] then absent else node fuel true true
        else failure
      let value ←
        if ← accept .value then
          if ← sees [.key, .value, .blockEnd] then absent else node fuel true true
        else absent
      return (key, value) :: (← blockFields fuel)

/-- The items of a flow sequence, after its beginning or after an item.  A key indicator makes the
item a mapping of one field, whose key cannot be left out before a colon. -/
def flowItems : Nat → Bool → Compose (List Node)
  | 0, _ => failure
  | fuel + 1, first => do
    if ← accept .flowSequenceEnd then return []
    else
      if !first then
        if !(← accept .flowEntry) then failure
      if ← accept .flowSequenceEnd then return []
      else if ← accept .key then
        countStep
        let key ←
          if ← sees [.value, .flowEntry, .flowSequenceEnd] then do
            skip
            absent
          else node fuel false false
        let value ←
          if ← accept .value then
            if ← sees [.flowEntry, .flowSequenceEnd] then absent else node fuel false false
          else absent
        countStep
        return .mapping none [(key, value)] :: (← flowItems fuel false)
      else
        let item ← node fuel false false
        return item :: (← flowItems fuel false)

/-- The fields of a flow mapping, after its beginning or after a field. -/
def flowFields : Nat → Bool → Compose (List (Node × Node))
  | 0, _ => failure
  | fuel + 1, first => do
    if ← accept .flowMappingEnd then return []
    else
      if !first then
        if !(← accept .flowEntry) then failure
      if ← accept .flowMappingEnd then return []
      else if ← accept .key then
        let key ←
          if ← sees [.value, .flowEntry, .flowMappingEnd] then absent else node fuel false false
        let value ←
          if ← accept .value then
            if ← sees [.flowEntry, .flowMappingEnd] then absent else node fuel false false
          else absent
        return (key, value) :: (← flowFields fuel false)
      else
        let key ← node fuel false false
        let value ← absent
        return (key, value) :: (← flowFields fuel false)

end

/-! ## Documents -/

/-- The directives before a document: at most one version, and each handle at most once. -/
def directives : Bool → List Token → Option (List (List UInt8 × List UInt8) × List Token)
  | versioned, .versionDirective major minor :: rest =>
    if versioned || major ≠ 1 || (minor ≠ 1 && minor ≠ 2) then none else directives true rest
  | versioned, .tagDirective handle start :: rest => do
    let (handles, rest) ← directives versioned rest
    if (handles.lookup handle).isSome then none else some ((handle, start) :: handles, rest)
  | _, rest => some ([], rest)

/-- The content of a document that was begun explicitly. -/
def content (fuel : Nat) : Compose Node := do
  match ← peek? with
  | none | some .documentStart | some .documentEnd | some (.versionDirective ..)
  | some (.tagDirective ..) => absent
  | _ => node fuel true false

end Compose

/-- A document: its root, its anchored nodes, and how many steps describe it. -/
structure Document where
  root : Node
  anchored : List Anchored
  steps : Nat
deriving Repr

namespace Document

/-- The node that took a number last. -/
def target? (d : Document) (number : Nat) : Option Node :=
  let candidates := d.anchored.filter (·.number == number)
  (candidates.foldl (fun (best : Option Anchored) a =>
    match best with
    | some b => if b.position < a.position then some a else best
    | none => some a) none).map (·.node)

/-- The document that composes from a state, with nothing but ends of documents after it. -/
def compose? (action : Compose Node) (s : Composer) : Option Document := do
  let (root, s) ← action.run s
  if s.tokens.all (· == .documentEnd) then
    some { root, anchored := s.anchored, steps := s.steps }
  else none

/-- The document of a token sequence; an empty sequence has none.  Several documents are refused. -/
def ofTokens? (tokens : List Token) : Option (Option Document) :=
  let fuel := 2 * tokens.length + 4
  let explicit : Option (Option Document) := do
    let (handles, rest) ← Compose.directives false tokens
    match rest with
    | .documentStart :: rest =>
      (compose? (Compose.content fuel) { tokens := rest, handles }).map some
    | _ => none
  match tokens with
  | [] => some none
  | .versionDirective .. :: _ => explicit
  | .tagDirective .. :: _ => explicit
  | .documentStart :: _ => explicit
  | _ => (compose? (Compose.node fuel true false) { tokens }).map some

end Document
end Yaml
end LedgerCheck
