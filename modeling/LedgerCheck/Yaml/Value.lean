import LedgerCheck.Yaml.Node
import LedgerCheck.Yaml.Scalar
import LedgerCheck.Json.Basic
/-!
# The values of YAML documents

What the nodes of a document stand for.  Aliases are replaced by the nodes they name, scalars are
read by their text or their tag, and a tag of the document's own wraps the value it stands at.

* `Value` — the values; keys may be any values.
* `Value.same` — equality of values, for which the order of a mapping's fields does not count.
* `Document.value?` — the value of a document, without repeated keys.
* `Value.toJson?` — the value as JSON, where keys have to be texts or have one.
* `read` — the JSON value of a YAML text.
-/

namespace LedgerCheck
namespace Yaml

/-- The value of a node. -/
inductive Value where
  | plain (value : Plain)
  | sequence (items : List Value)
  | mapping (fields : List (Value × Value))
  | tagged (name : String) (value : Value)
deriving Repr

namespace Value

/-! ## Equality -/

/-- Numbers are the same if they compare equal or are both no number. -/
def samePlain : Plain → Plain → Bool
  | .float x, .float y => (x.isNaN && y.isNaN) || (x.le y && y.le x)
  | x, y => x == y

mutual

/-- Two values are the same. -/
def same : Value → Value → Bool
  | .plain x, .plain y => samePlain x y
  | .sequence xs, .sequence ys => sameItems xs ys
  | .mapping xs, .mapping ys => xs.length == ys.length && sameFields xs ys
  | .tagged m x, .tagged n y => m == n && same x y
  | _, _ => false

/-- Two lists of values are the same. -/
def sameItems : List Value → List Value → Bool
  | [], [] => true
  | x :: xs, y :: ys => same x y && sameItems xs ys
  | _, _ => false

/-- Each field of the first list is in the second one. -/
def sameFields : List (Value × Value) → List (Value × Value) → Bool
  | [], _ => true
  | (k, v) :: rest, ys => ys.any (fun y => same k y.1 && same v y.2) && sameFields rest ys

end

/-- No two fields have the same key. -/
def distinctKeys : List (Value × Value) → Bool
  | [] => true
  | (k, _) :: rest => !rest.any (fun other => same k other.1) && distinctKeys rest

/-- The value is null, tags aside. -/
def isNull : Value → Bool
  | .plain .null => true
  | .tagged _ v => v.isNull
  | _ => false

/-! ## As JSON -/

/-- The text that a key has in JSON. -/
def keyText? : Value → Option String
  | .plain (.string s) => some s
  | .plain (.bool b) => some (if b then "true" else "false")
  | .plain (.int i) => some (toString i)
  | .plain (.float x) => if x.isFinite then some x.text else none
  | _ => none

/-- A scalar as JSON. -/
def plainJson : Plain → Json
  | .null => .null
  | .bool b => .bool b
  | .int i => .ofInt i
  | .float x => .ofBinary64 x
  | .string s => .string s

mutual

/-- The value as JSON; a tagged value becomes an object with the tag as its key. -/
def toJson? : Value → Option Json
  | .plain p => some (plainJson p)
  | .sequence items => (itemsJson? items).map .array
  | .mapping fields => (fieldsJson? fields).map fun fields => .object (SortedMap.ofList fields)
  | .tagged name v => (toJson? v).map fun v => .object [("!" ++ name, v)]

/-- Items as JSON. -/
def itemsJson? : List Value → Option (List Json)
  | [] => some []
  | v :: rest => do
    let v ← toJson? v
    let rest ← itemsJson? rest
    some (v :: rest)

/-- Fields as JSON, in their order. -/
def fieldsJson? : List (Value × Value) → Option (List (String × Json))
  | [] => some []
  | (k, v) :: rest => do
    let k ← keyText? k
    let v ← toJson? v
    let rest ← fieldsJson? rest
    some ((k, v) :: rest)

end
end Value

/-! ## Tags -/

namespace Tag

/-- The bytes of a tag of the common schema. -/
def common (name : String) : List UInt8 := ("tag:yaml.org,2002:" ++ name).toUTF8.toList

/-- A name without the exclamation mark before it, if more than the mark is there. -/
def withoutMark (name : List Char) : List Char :=
  match name with
  | '!' :: c :: rest => c :: rest
  | name => name

/-- The name of a tag of the document's own, which starts with an exclamation mark and is written
in well-formed characters. -/
def ownName? (tag : List UInt8) : Option String :=
  match tag with
  | 0x21 :: rest =>
    (String.fromUTF8? (ByteArray.mk (if rest.isEmpty then tag else rest).toArray)).map fun s =>
      String.ofList (withoutMark s.toList)
  | _ => none

/-- A scalar under a tag of the common schema, or under one that says nothing. -/
def scalar? (tag : List UInt8) (isPlain : Bool) (text : String) : Option Plain :=
  if tag = common "bool" then (Plain.bool? text).map .bool
  else if tag = common "int" then
    match Plain.integer? text with
    | some (.fits i) => some (.int i)
    | _ => none
  else if tag = common "float" then (Plain.float? text).map .float
  else if tag = common "null" then if Plain.nullText text then some .null else none
  else if isPlain && tag.head? == some 0x21 then Plain.ofText text
  else some (.string text)

end Tag

/-! ## From documents -/

namespace Document

/-- Evaluation counts the aliases it has followed. -/
abbrev Evaluate := StateT Nat Option

/-- How deep collections may be nested. -/
def depthLimit : Nat := 128

/-- How often aliases may be followed, for each step of the document. -/
def followLimit : Nat := 100

/-- The node that an alias names, or the node itself. -/
def follow (d : Document) : Node → Evaluate Node
  | .alias number => do
    let followed ← get
    if d.steps * followLimit < followed + 1 then failure
    else
      set (followed + 1)
      match d.target? number with
      | some n => return n
      | none => failure
  | n => return n

/-- A value under a tag of the document's own, if it has one. -/
def wrap (tag : Option (List UInt8)) (v : Value) : Value :=
  match tag.bind Tag.ownName? with
  | some name => .tagged name v
  | none => v

/-- The value of a scalar.  The content of a tag of the document's own is read as if it had no
tag. -/
def scalarValue? (tag : Option (List UInt8)) (isPlain : Bool) (text : List Char) :
    Option Value :=
  let s := String.ofList text
  let untagged := if isPlain then Plain.ofText s else some (.string s)
  match tag with
  | none => untagged.map .plain
  | some bytes =>
    if (Tag.ownName? bytes).isSome then untagged.map fun p => wrap tag (.plain p)
    else (Tag.scalar? bytes isPlain s).map .plain

/-- The value of a node inside collections that leave `depth` levels. -/
def nodeValue (d : Document) : Nat → Node → Evaluate Value
  | depth, n => do
    match ← d.follow n with
    | .alias _ => failure
    | .scalar tag isPlain text =>
      match scalarValue? tag isPlain text with
      | some v => return v
      | none => failure
    | .sequence tag items =>
      match depth with
      | 0 => failure
      | depth + 1 =>
        let items ← items.mapM (nodeValue d depth)
        return wrap tag (.sequence items)
    | .mapping tag fields =>
      match depth with
      | 0 => failure
      | depth + 1 =>
        let fields ← fields.mapM fun (k, v) => do
          let k ← nodeValue d depth k
          let v ← nodeValue d depth v
          return (k, v)
        if Value.distinctKeys fields then return wrap tag (.mapping fields) else failure

/-- The value of a document. -/
def value? (d : Document) : Option Value :=
  ((d.nodeValue depthLimit d.root).run 0).map (·.1)

end Document

/-! ## Texts -/

/-- Why a text has no JSON value. -/
inductive Error where
  | notYaml
  | notJson
deriving DecidableEq, Repr

/-- The value of a YAML text; a text without a document is null. -/
def readValue? (text : String) : Option Value := do
  match ← Document.ofTokens? (← tokens? text) with
  | none => some (.plain .null)
  | some d => d.value?

/-- The JSON value of a YAML text, or nothing if the text says nothing. -/
def read (text : String) : Except Error (Option Json) :=
  match readValue? text with
  | none => .error .notYaml
  | some v =>
    if v.isNull then .ok none
    else
      match v.toJson? with
      | some v => .ok (some v)
      | none => .error .notJson

end Yaml
end LedgerCheck
