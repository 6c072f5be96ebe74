import LedgerCheck.Proofs.Config.PointerReader
import LedgerCheck.Proofs.Json.Ordered

/-!
# Pointers of leaves

The pointers of a document are collected along with the descent into it.  `Json.leafPlaces` collects
the places instead, as lists of steps, so that what is known of places carries over to pointers: the
leaves are found, nothing else is, and no two leaves of one document have the same pointer.  The last
is not true of all places, as the root has the pointer of an empty key and an index that of its digits.

* `Json.induction_on_members` — induction through the items of arrays and the fields of objects.
* `Json.leafPlaces` — the places of all leaves, in document order.
* **`Json.leafPointers_eq_map`** — the pointers of the leaves are those of their places.
* **`Json.mem_leafPlaces_iff`** — these are the places at which a leaf stands.
* **`Json.injOn_ofLocation`** — no two leaves of a document have the same pointer.
-/

namespace LedgerCheck
namespace Json

/-! ## Places of leaves -/

/-- **Induction through the members of values**, the items of arrays and the fields of objects. -/
@[elab_as_elim]
theorem induction_on_members {motive : Json → Prop} (leaf : ∀ v, v.isLeaf = true → motive v)
    (array : ∀ items, (∀ item ∈ items, motive item) → motive (.array items))
    (object : ∀ fields, (∀ field ∈ fields, motive field.2) → motive (.object fields)) :
    ∀ v, motive v
  | .array items => array items fun item _ => induction_on_members leaf array object item
  | .object fields => object fields fun field _ => induction_on_members leaf array object field.2
  | .null => leaf _ rfl
  | .bool _ => leaf _ rfl
  | .number _ => leaf _ rfl
  | .string _ => leaf _ rfl
termination_by v => sizeOf v
decreasing_by
  · rename_i hitem
    have := List.sizeOf_lt_of_mem hitem
    simp only [Json.array.sizeOf_spec]
    omega
  · rename_i hfield
    have := List.sizeOf_lt_of_mem hfield
    have : sizeOf field = 1 + sizeOf field.1 + sizeOf field.2 := by cases field; rfl
    simp only [Json.object.sizeOf_spec]
    omega

mutual

/-- **The places of the leaves of a value**, in document order. -/
def leafPlaces : Json → List Location
  | .array items => itemPlaces 0 items
  | .object fields => fieldPlaces fields
  | .null => [[]]
  | .bool _ => [[]]
  | .number _ => [[]]
  | .string _ => [[]]

/-- The places of the leaves of items, of which the first has the given index. -/
def itemPlaces (index : Nat) : List Json → List Location
  | [] => []
  | item :: rest => item.leafPlaces.map (.index index :: ·) ++ itemPlaces (index + 1) rest

/-- The places of the leaves of fields. -/
def fieldPlaces : List (String × Json) → List Location
  | [] => []
  | (name, value) :: rest => value.leafPlaces.map (.key name :: ·) ++ fieldPlaces rest

end

lemma leafPlaces_of_isLeaf {v : Json} (h : v.isLeaf = true) : v.leafPlaces = [[]] := by
  cases v <;> simp [isLeaf] at h <;> rw [leafPlaces]

end Json

/-! ## Pointers of the places -/

/-- The pointer of a leaf at a place that is reached from the value at a pointer. -/
def Pointer.ofLeaf (pointer : String) (place : Location) : String :=
  if extend pointer place = "" then "/" else extend pointer place

lemma Pointer.ofLeaf_empty (place : Location) : ofLeaf "" place = ofLocation place := by
  simp only [ofLeaf, ofLocation, extend_eq_empty_iff]

namespace Json

section Members

variable {items : List Json} {fields : List (String × Json)} {place : Location}

lemma itemLeaves_eq_map
    (h : ∀ item ∈ items, ∀ pointer,
      item.leavesFrom pointer = item.leafPlaces.map (Pointer.ofLeaf pointer))
    (pointer : String) (index : Nat) :
    itemLeaves pointer index items = (itemPlaces index items).map (Pointer.ofLeaf pointer) := by
  induction items generalizing index with
  | nil => rw [itemLeaves, itemPlaces, List.map_nil]
  | cons item rest ih =>
      rw [List.forall_mem_cons] at h
      rw [itemLeaves, itemPlaces, List.map_append, List.map_map, h.1, ih h.2]
      rfl

lemma fieldLeaves_eq_map
    (h : ∀ field ∈ fields, ∀ pointer,
      field.2.leavesFrom pointer = field.2.leafPlaces.map (Pointer.ofLeaf pointer))
    (pointer : String) :
    fieldLeaves pointer fields = (fieldPlaces fields).map (Pointer.ofLeaf pointer) := by
  induction fields with
  | nil => rw [fieldLeaves, fieldPlaces, List.map_nil]
  | cons field rest ih =>
      obtain ⟨name, value⟩ := field
      rw [List.forall_mem_cons] at h
      rw [fieldLeaves, fieldPlaces, List.map_append, List.map_map, h.1, ih h.2]
      rfl

/-- A leaf below items is a leaf of one of them. -/
lemma mem_itemPlaces_iff {index : Nat} : place ∈ itemPlaces index items ↔
    ∃ i item rest, items[i]? = some item ∧ rest ∈ item.leafPlaces ∧
      place = .index (index + i) :: rest := by
  induction items generalizing index with
  | nil => simp [itemPlaces]
  | cons first more ih =>
      rw [itemPlaces, List.mem_append, List.mem_map, ih]
      constructor
      · rintro (⟨rest, hrest, rfl⟩ | ⟨i, item, rest, hitem, hrest, rfl⟩)
        · exact ⟨0, first, rest, rfl, hrest, rfl⟩
        · exact ⟨i + 1, item, rest, hitem, hrest, by rw [Nat.add_right_comm, Nat.add_assoc]⟩
      · rintro ⟨i, item, rest, hitem, hrest, rfl⟩
        cases i with
        | zero =>
            cases hitem
            exact Or.inl ⟨rest, hrest, rfl⟩
        | succ i =>
            exact Or.inr ⟨i, item, rest, hitem, hrest, by rw [Nat.add_right_comm, Nat.add_assoc]⟩

/-- A leaf below fields is a leaf of one of them. -/
lemma mem_fieldPlaces_iff : place ∈ fieldPlaces fields ↔
    ∃ field ∈ fields, ∃ rest ∈ field.2.leafPlaces, place = .key field.1 :: rest := by
  induction fields with
  | nil => simp [fieldPlaces]
  | cons field more ih =>
      obtain ⟨name, value⟩ := field
      rw [fieldPlaces, List.mem_append, List.mem_map, ih]
      simp only [List.mem_cons, exists_eq_or_imp, eq_comm]

end Members

/-- The pointers that are collected below a pointer are those of the places. -/
lemma leavesFrom_eq_map (v : Json) (pointer : String) :
    v.leavesFrom pointer = v.leafPlaces.map (Pointer.ofLeaf pointer) := by
  induction v using induction_on_members generalizing pointer with
  | leaf v hv =>
      rw [leavesFrom_of_isLeaf hv, leafPlaces_of_isLeaf hv]
      rfl
  | array items ih =>
      rw [leavesFrom, leafPlaces]
      exact itemLeaves_eq_map ih pointer 0
  | object fields ih =>
      rw [leavesFrom, leafPlaces]
      exact fieldLeaves_eq_map ih pointer

/-- **The pointers of the leaves of a document are those of their places.** -/
theorem leafPointers_eq_map (v : Json) : v.leafPointers = v.leafPlaces.map Pointer.ofLocation := by
  rw [leafPointers, leavesFrom_eq_map]
  exact List.map_congr_left fun place _ => Pointer.ofLeaf_empty place

/-! ## The leaves are found -/

lemma orderedItems_iff {items : List Json} : OrderedItems items ↔ ∀ item ∈ items, item.Ordered := by
  induction items with
  | nil => simp [OrderedItems]
  | cons item rest ih => simp [OrderedItems, ih]

/-- **The places that are collected are those at which a leaf stands.** -/
theorem mem_leafPlaces_iff {v : Json} (hv : v.Ordered) {place : Location} :
    place ∈ v.leafPlaces ↔ ∃ x, v.at? place = some x ∧ x.isLeaf = true := by
  induction v using induction_on_members generalizing place with
  | leaf v hleaf =>
      rw [leafPlaces_of_isLeaf hleaf, List.mem_singleton]
      constructor
      · rintro rfl
        exact ⟨v, rfl, hleaf⟩
      · rintro ⟨x, hx, -⟩
        exact (at?_of_isLeaf hleaf hx).1
  | array items ih =>
      rw [Ordered, orderedItems_iff] at hv
      rw [leafPlaces, mem_itemPlaces_iff]
      constructor
      · rintro ⟨i, item, rest, hitem, hrest, rfl⟩
        have hmem := List.mem_of_getElem? hitem
        obtain ⟨x, hx, hleaf⟩ := (ih item hmem (hv item hmem)).mp hrest
        refine ⟨x, ?_, hleaf⟩
        rw [Nat.zero_add, at?, child?, hitem, Option.bind_some, hx]
      · rintro ⟨x, hx, hleaf⟩
        rcases place with _ | ⟨name | i, rest⟩
        · cases hx
          cases hleaf
        · cases hx
        · obtain ⟨item, hitem, hrest⟩ := Option.bind_eq_some_iff.mp hx
          have hmem := List.mem_of_getElem? hitem
          refine ⟨i, item, rest, hitem, (ih item hmem (hv item hmem)).mpr ⟨x, hrest, hleaf⟩, ?_⟩
          rw [Nat.zero_add]
  | object fields ih =>
      rw [Ordered, orderedFields_iff] at hv
      rw [leafPlaces, mem_fieldPlaces_iff]
      constructor
      · rintro ⟨field, hfield, rest, hrest, rfl⟩
        obtain ⟨x, hx, hleaf⟩ := (ih field hfield (hv.2 field hfield)).mp hrest
        refine ⟨x, ?_, hleaf⟩
        -- an ordered object has one field of each name, so that this one is found
        have hlookup := SortedMap.lookup_of_mem hv.1.nodup_keys hfield
        rw [at?, child?, field?, hlookup, Option.bind_some, hx]
      · rintro ⟨x, hx, hleaf⟩
        rcases place with _ | ⟨name | i, rest⟩
        · cases hx
          cases hleaf
        · obtain ⟨value, hvalue, hrest⟩ := Option.bind_eq_some_iff.mp hx
          have hmem : (name, value) ∈ fields := SortedMap.mem_of_lookup hvalue
          exact ⟨_, hmem, rest, (ih _ hmem (hv.2 _ hmem)).mpr ⟨x, hrest, hleaf⟩, rfl⟩
        · cases hx

/-! ## Leaves are told apart -/

/-- **No two leaves of a document have the same pointer.** -/
theorem injOn_ofLocation (v : Json) :
    Set.InjOn Pointer.ofLocation {place | ∃ x, v.at? place = some x ∧ x.isLeaf = true} := by
  rintro place ⟨x, hx, hleaf⟩ place' ⟨y, hy, hleaf'⟩ h
  by_cases hroot : place = []
  · -- where the root is a leaf, there is no other one
    subst hroot
    cases hx
    exact (at?_of_isLeaf hleaf hy).1.symm
  by_cases hroot' : place' = []
  · subst hroot'
    cases hy
    exact (at?_of_isLeaf hleaf' hx).1
  -- the pointer that both have is read back as one place
  have hread := follow?_ofLocation hroot hx
  rw [h, follow?_ofLocation hroot' hy] at hread
  exact (Option.some.inj hread).symm

end Json
end LedgerCheck
