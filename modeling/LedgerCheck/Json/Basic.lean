import LedgerCheck.Binary64.Decimal
import LedgerCheck.SortedMap
/-!
# JSON values

The values that configuration layers are made of and that reports are written as.  The fields of
an object stand in a list: a report lists them in the order in which they are written, and a value
that was read has them in byte order of their names, each name once (`Json.Canonical`).

* `Json` — the values; `JsonNumber` keeps integers and binary64 numbers apart.
* `Json.Canonical` — the form of the values that are read.
-/

namespace LedgerCheck

/-- A number of a JSON value. -/
inductive JsonNumber where
  | int (value : Int)
  | float (value : Binary64)
deriving DecidableEq, Repr

/-- A JSON value. -/
inductive Json where
  | null
  | bool (value : Bool)
  | number (value : JsonNumber)
  | string (value : String)
  | array (items : List Json)
  | object (fields : List (String × Json))
deriving Repr

namespace Json

/-! ## Values -/

/-- An integer value. -/
def ofInt (i : Int) : Json := .number (.int i)

/-- A binary64 value.  JSON has no numeral for an infinity or a NaN; `null` stands for both. -/
def ofBinary64 (x : Binary64) : Json := if x.isFinite then .number (.float x) else .null

/-- The value held under a name, when the value is an object that has the name. -/
def field? (name : String) : Json → Option Json
  | .object fields => fields.lookup name
  | _ => none

/-- The value at a path of object keys. -/
def atKeys? : List String → Json → Option Json
  | [], v => some v
  | name :: path, v => (v.field? name).bind (atKeys? path)

/-- The value is an object. -/
def isObject : Json → Bool
  | .object _ => true
  | _ => false

/-- The integers that a numeral can be read as; others are read as binary64 numbers. -/
def IntegerRange (i : Int) : Prop := -Int.pow 2 63 ≤ i ∧ i < Int.pow 2 64

mutual

/-- The values that are read: integers in range, finite numbers, and fields in byte order. -/
def Canonical : Json → Prop
  | .null => True
  | .bool _ => True
  | .number (.int i) => IntegerRange i
  | .number (.float x) => x.isFinite = true
  | .string _ => True
  | .array items => CanonicalItems items
  | .object fields => SortedMap.Sorted fields ∧ CanonicalFields fields

/-- Every item is canonical. -/
def CanonicalItems : List Json → Prop
  | [] => True
  | item :: rest => Canonical item ∧ CanonicalItems rest

/-- Every field's value is canonical. -/
def CanonicalFields : List (String × Json) → Prop
  | [] => True
  | (_, value) :: rest => Canonical value ∧ CanonicalFields rest

end

end Json
end LedgerCheck
