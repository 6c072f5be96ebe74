import LedgerCheck.Json.Basic
/-!
# Pointers

A pointer names a place in a document: the keys and indices on the way to it, each after a slash.
In a key a tilde is written `~0` and a slash `~1`, so that a key never looks like two.

* `Pointer.escape` — a key as a step of a pointer.
* `Json.leafPointers` — the pointers of all values that are neither objects nor arrays.
-/

namespace LedgerCheck
namespace Pointer

/-- A character of a key as it stands in a pointer. -/
def escapeChar (c : Char) : List Char :=
  if c = '~' then ['~', '0'] else if c = '/' then ['~', '1'] else [c]

/-- A key as a step of a pointer. -/
def escape (key : String) : String := String.ofList (key.toList.flatMap escapeChar)

/-- The pointer of a key or index inside the value at a pointer. -/
def child (pointer step : String) : String := pointer ++ "/" ++ step

end Pointer

namespace Json

mutual

/-- The pointers of the leaves of a value that stands at the given pointer, in document order.  A
leaf that is the whole document is at the root. -/
def leavesFrom (pointer : String) : Json → List String
  | .array items => itemLeaves pointer 0 items
  | .object fields => fieldLeaves pointer fields
  | .null => [if pointer = "" then "/" else pointer]
  | .bool _ => [if pointer = "" then "/" else pointer]
  | .number _ => [if pointer = "" then "/" else pointer]
  | .string _ => [if pointer = "" then "/" else pointer]

/-- The pointers of the leaves of items, of which the first has the given index. -/
def itemLeaves (pointer : String) (index : Nat) : List Json → List String
  | [] => []
  | item :: rest =>
    leavesFrom (Pointer.child pointer (toString index)) item ++ itemLeaves pointer (index + 1) rest

/-- The pointers of the leaves of fields. -/
def fieldLeaves (pointer : String) : List (String × Json) → List String
  | [] => []
  | (name, value) :: rest =>
    leavesFrom (Pointer.child pointer (Pointer.escape name)) value ++ fieldLeaves pointer rest

end

/-- The pointers of all leaves of a document. -/
def leafPointers (v : Json) : List String := v.leavesFrom ""

end Json
end LedgerCheck
