import LedgerCheck.Json.Basic
import LedgerCheck.Proofs.SortedMap

/-!
# Values with ordered objects

An object is a map: it holds one value for each of its keys.  `Json.Ordered` says that every object
inside a value lists its fields in byte order, each key once, which is how values are kept that
were read.

* `Json.induction_on_lookup` — induction through the values under the keys of objects.
* `Json.Ordered` — the property, by recursion on the value.
* `Json.Ordered.of_lookup` — it passes to the value under a key.
* `Json.Ordered.ext` — ordered objects that hold the same under each key are the same.
-/

namespace LedgerCheck
namespace Json

/-- **Induction through the values under the keys of objects.**  Arrays are not entered. -/
@[elab_as_elim]
theorem induction_on_lookup {motive : Json → Prop}
    (other : ∀ v, v.isObject = false → motive v)
    (object : ∀ fields, (∀ name v, fields.lookup name = some v → motive v) →
      motive (.object fields)) : ∀ v, motive v
  | .object fields => object fields fun _ v _ => induction_on_lookup other object v
  | .null => other _ rfl
  | .bool _ => other _ rfl
  | .number _ => other _ rfl
  | .string _ => other _ rfl
  | .array _ => other _ rfl
termination_by v => sizeOf v
decreasing_by
  rename_i hlookup
  have hfield := List.sizeOf_lt_of_mem (SortedMap.mem_of_lookup hlookup)
  simp only [Prod.mk.sizeOf_spec] at hfield
  simp only [Json.object.sizeOf_spec]
  omega

mutual

/-- Every object inside the value lists its fields in byte order, each key once. -/
def Ordered : Json → Prop
  | .array items => OrderedItems items
  | .object fields => SortedMap.Sorted fields ∧ OrderedFields fields
  | .null => True
  | .bool _ => True
  | .number _ => True
  | .string _ => True

/-- Every item is ordered. -/
def OrderedItems : List Json → Prop
  | [] => True
  | item :: rest => Ordered item ∧ OrderedItems rest

/-- The value of every field is ordered. -/
def OrderedFields : List (String × Json) → Prop
  | [] => True
  | (_, value) :: rest => Ordered value ∧ OrderedFields rest

end

lemma orderedFields_iff {fields : List (String × Json)} :
    OrderedFields fields ↔ ∀ field ∈ fields, field.2.Ordered := by
  induction fields with
  | nil => simp [OrderedFields]
  | cons field rest ih =>
      obtain ⟨name, value⟩ := field
      simp [OrderedFields, ih]

/-- The value under a key of an ordered object is ordered. -/
lemma Ordered.of_lookup {fields : List (String × Json)} {name : String} {value : Json}
    (h : (Json.object fields).Ordered) (hvalue : fields.lookup name = some value) :
    value.Ordered := by
  rw [Ordered] at h
  obtain ⟨l₁, l₂, rfl, -⟩ := List.lookup_eq_some_iff.mp hvalue
  exact orderedFields_iff.mp h.2 (name, value) (by simp)

/-- **Ordered objects that hold the same under each key are the same.** -/
lemma Ordered.ext {v w : Json} (hv : v.Ordered) (hw : w.Ordered) (hobject : v.isObject = true)
    (hobject' : w.isObject = true) (h : ∀ name, v.field? name = w.field? name) : v = w := by
  cases v with
  | object fields =>
      cases w with
      | object fields' =>
          rw [Ordered] at hv hw
          rw [SortedMap.Sorted.ext hv.1 hw.1 h]
      | _ => cases hobject'
  | _ => cases hobject

end Json
end LedgerCheck
