/-!
# Sorted maps

Finite maps as lists of keys with values, in increasing order of the keys.  They are written down
in that order, so two maps with the same entries are written alike whatever order the entries came
in.

* `SortedMap.insert`, `SortedMap.erase` — set or remove one key; `List.lookup` reads one.
* `SortedMap.ofList` — the map of a list of entries, the last one of each key being kept.
* `SortedMap.Sorted` — the keys are strictly increasing.
-/

namespace LedgerCheck
namespace SortedMap

variable {κ α : Type} [LT κ] [DecidableLT κ] [DecidableEq κ]

/-- Sets a key. -/
def insert (key : κ) (value : α) : List (κ × α) → List (κ × α)
  | [] => [(key, value)]
  | (k, v) :: rest =>
    if key < k then (key, value) :: (k, v) :: rest
    else if key = k then (key, value) :: rest
    else (k, v) :: insert key value rest

/-- Removes a key. -/
def erase (key : κ) (entries : List (κ × α)) : List (κ × α) :=
  entries.filter fun entry => !decide (entry.1 = key)

/-- The map of a list of entries; of several with one key the last is kept. -/
def ofList (entries : List (κ × α)) : List (κ × α) :=
  entries.foldl (fun acc entry => insert entry.1 entry.2 acc) []

/-- The keys are strictly increasing. -/
def Sorted (entries : List (κ × α)) : Prop :=
  entries.Pairwise fun a b => a.1 < b.1

end SortedMap
end LedgerCheck
