import LedgerCheck.Json.Document
/-!
# Records

A record is written as an object of named fields or as an array of the fields' values in their
declared order.  In an object unknown names are passed over (unless the record is closed) and a
known name may stand only once; an array may stop early only where the fields it leaves out have
defaults.

* `Record` — the declared fields.
* `Record.ofDocument?`, `Record.ofJson?` — the value of each declared field, if it has one.
* `Document.string?`, `Document.uint64?`, … — readers of a field's value.
* `Document.optional` — the reader of a field that may be absent or null.
-/

namespace LedgerCheck

/-- The declared fields of a record: their names in order, how many of them an array must give,
and whether an object may have no others. -/
structure Record where
  names : List String
  least : Nat
  closed : Bool

namespace Record

variable {α : Type}

/-- The fields of an array. -/
def ofItems? (r : Record) (items : List α) : Option (List (Option α)) :=
  if r.least ≤ items.length ∧ items.length ≤ r.names.length then
    some (items.map some ++ List.replicate (r.names.length - items.length) none)
  else none

/-- The fields of an object. -/
def ofFields? (r : Record) (fields : List (String × α)) : Option (List (Option α)) :=
  if r.closed && fields.any (fun field => !r.names.contains field.1) then none
  else if r.names.any fun name => 1 < (fields.filter (·.1 == name)).length then none
  else some (r.names.map fun name => fields.lookup name)

/-- Names whose strings are well formed. -/
def named? (fields : List (Option String × α)) : Option (List (String × α)) :=
  fields.mapM fun field => field.1.map fun name => (name, field.2)

/-- The fields of a document. -/
def ofDocument? (r : Record) : Document → Option (List (Option Document))
  | .array items => r.ofItems? items
  | .object fields => (named? fields).bind r.ofFields?
  | _ => none

/-- The fields of a value. -/
def ofJson? (r : Record) : Json → Option (List (Option Json))
  | .array items => r.ofItems? items
  | .object fields => r.ofFields? fields
  | _ => none

end Record

namespace Document

variable {α : Type}

/-! ## Values of fields -/

/-- A boolean. -/
def bool? : Document → Option Bool
  | .bool b => some b
  | _ => none

/-- A well-formed string. -/
def string? : Document → Option String
  | .string s => s
  | _ => none

/-- An integer. -/
def int? : Document → Option Int
  | .number n =>
    match n.number? with
    | some (.int i) => some i
    | _ => none
  | _ => none

/-- An integer that is not negative; every numeral read as one is below `2 ^ 64`. -/
def uint64? (d : Document) : Option UInt64 := do
  let i ← d.int?
  if 0 ≤ i ∧ i < Int.pow 2 64 then some (UInt64.ofNat i.toNat) else none

/-- An integer between `-2 ^ 63` and `2 ^ 63 - 1`. -/
def int64? (d : Document) : Option Int64 := do
  let i ← d.int?
  if -Int.pow 2 63 ≤ i ∧ i < Int.pow 2 63 then some (Int64.ofInt i) else none

/-- A number, an integer being rounded to binary64. -/
def binary64? : Document → Option Binary64
  | .number n =>
    match n.number? with
    | some (.int i) => some (Binary64.ofInt i)
    | some (.float x) => some x
    | none => none
  | _ => none

/-- The name of an alternative without content: the name alone, or an object with null under the
name. -/
def alternative? : Document → Option String
  | .string s => s
  | .object [(name, .null)] => name
  | _ => none

/-- A field that may be absent or null. -/
def optional (read : Document → Option α) : Option Document → Option (Option α)
  | none => some none
  | some .null => some none
  | some d => (read d).map some

/-- A field that has to be there. -/
def required (read : Document → Option α) : Option Document → Option α
  | none => none
  | some d => read d

end Document
end LedgerCheck
