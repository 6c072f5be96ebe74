import LedgerCheck.Proofs.Config.Pointer

/-!
# The order of leaves

The leaves of a document have an order, which is that of the items of its arrays and of the fields of its
objects.  Their pointers are collected in this order, and each of them leads back to its leaf.

* `Json.Precedes` — the order of the places in a document.
* `Json.pairwise_leafPlaces` — the places of leaves are collected in this order.
* **`Json.leafPointers_readBack`** — the pointers of a document lead to its leaves, one to each.
-/

namespace LedgerCheck
namespace Json

/-! ## The order of a document -/

/-- **Document order**: at the first step in which two places differ, the item or the field of the one
stands before that of the other. -/
inductive Precedes : Json → Location → Location → Prop
  | items {items : List Json} {i j : Nat} {rest rest' : Location} (h : i < j) :
      Precedes (.array items) (.index i :: rest) (.index j :: rest')
  | fields {fields : List (String × Json)} {name name' : String} {rest rest' : Location}
      (h : [name, name'].Sublist (fields.map Prod.fst)) :
      Precedes (.object fields) (.key name :: rest) (.key name' :: rest')
  | inside {v w : Json} {step : Step} {rest rest' : Location} (hstep : v.child? step = some w)
      (h : Precedes w rest rest') : Precedes v (step :: rest) (step :: rest')

/-- What stands one step inside an ordered value is ordered. -/
lemma Ordered.child? {v w : Json} (hv : v.Ordered) {step : Step} (h : v.child? step = some w) :
    w.Ordered := by
  cases step with
  | key name =>
      cases v with
      | object fields => exact hv.of_lookup h
      | _ => cases h
  | index i =>
      cases v with
      | array items =>
          rw [Ordered, orderedItems_iff] at hv
          exact hv w (List.mem_of_getElem? h)
      | _ => cases h

/-- No place stands before itself. -/
lemma Precedes.ne {v : Json} (hv : v.Ordered) {place place' : Location} (h : v.Precedes place place') :
    place ≠ place' := by
  induction h with
  | items hlt =>
      intro heq
      cases heq
      exact lt_irrefl _ hlt
  | fields hsub =>
      intro heq
      cases heq
      rw [Ordered] at hv
      have hnodup := hsub.nodup hv.1.nodup_keys
      simp at hnodup
  | inside hstep _ ih =>
      intro heq
      cases heq
      exact ih (hv.child? hstep) rfl

/-- The leaves of the last items of an array are collected in document order. -/
lemma pairwise_itemPlaces {all items : List Json} {index : Nat} (hall : all.drop index = items)
    (hitems : ∀ item ∈ items, item.leafPlaces.Pairwise item.Precedes) :
    (itemPlaces index items).Pairwise (Precedes (.array all)) := by
  induction items generalizing index with
  | nil =>
      rw [itemPlaces]
      exact List.Pairwise.nil
  | cons item rest ih =>
      have hitem : (array all).child? (.index index) = some item := by
        rw [child?, ← List.head?_drop, hall, List.head?_cons]
      have hrest : all.drop (index + 1) = rest := by rw [← List.tail_drop, hall, List.tail_cons]
      rw [List.forall_mem_cons] at hitems
      rw [itemPlaces, List.pairwise_append, List.pairwise_map]
      refine ⟨hitems.1.imp (Precedes.inside hitem), ih hrest hitems.2, ?_⟩
      intro place hplace place' hplace'
      obtain ⟨first, -, rfl⟩ := List.mem_map.mp hplace
      obtain ⟨i, -, second, -, -, rfl⟩ := mem_itemPlaces_iff.mp hplace'
      exact Precedes.items (by omega)

/-- The leaves of the last fields of an object are collected in document order. -/
lemma pairwise_fieldPlaces {all fields : List (String × Json)} (hall : fields <:+ all)
    (hkeys : (all.map Prod.fst).Nodup)
    (hfields : ∀ field ∈ fields, field.2.leafPlaces.Pairwise field.2.Precedes) :
    (fieldPlaces fields).Pairwise (Precedes (.object all)) := by
  induction fields with
  | nil =>
      rw [fieldPlaces]
      exact List.Pairwise.nil
  | cons field rest ih =>
      obtain ⟨name, value⟩ := field
      have hvalue : (object all).child? (.key name) = some value :=
        SortedMap.lookup_of_mem hkeys (hall.subset List.mem_cons_self)
      rw [List.forall_mem_cons] at hfields
      rw [fieldPlaces, List.pairwise_append, List.pairwise_map]
      refine ⟨hfields.1.imp (Precedes.inside hvalue),
        ih ((List.suffix_cons _ _).trans hall) hfields.2, ?_⟩
      intro place hplace place' hplace'
      obtain ⟨first, -, rfl⟩ := List.mem_map.mp hplace
      obtain ⟨field, hfield, second, -, rfl⟩ := mem_fieldPlaces_iff.mp hplace'
      have hboth : [(name, value), field].Sublist all :=
        ((List.singleton_sublist.mpr hfield).cons_cons _).trans hall.sublist
      exact Precedes.fields (hboth.map Prod.fst)

/-- **The leaves of a document are collected in document order.** -/
theorem pairwise_leafPlaces {v : Json} (hv : v.Ordered) : v.leafPlaces.Pairwise v.Precedes := by
  induction v using induction_on_members with
  | leaf v hleaf =>
      rw [leafPlaces_of_isLeaf hleaf]
      exact List.pairwise_singleton _ _
  | array items ih =>
      rw [Ordered, orderedItems_iff] at hv
      rw [leafPlaces]
      exact pairwise_itemPlaces rfl fun item hitem => ih item hitem (hv item hitem)
  | object fields ih =>
      rw [Ordered, orderedFields_iff] at hv
      rw [leafPlaces]
      exact pairwise_fieldPlaces (List.suffix_refl _) hv.1.nodup_keys fun field hfield =>
        ih field hfield (hv.2 field hfield)

/-! ## Pointers of leaves -/

/-- **The pointers of the leaves of a document.**  Those of an object or array are read back as the
places of its leaves: one for each leaf, in document order, and none twice.  That is so for keys of any
content, as no two of them are written alike, none is written with a slash, and each is read back from
what it is written as. -/
theorem leafPointers_readBack :
    (∀ v : Json, v.Ordered → v.isLeaf = false →
      ∃ places : List Location,
        (∀ place, place ∈ places ↔ ∃ x, v.at? place = some x ∧ x.isLeaf = true) ∧
        places.Nodup ∧ places.Pairwise v.Precedes ∧
        List.Forall₂ (fun pointer place => v.follow? pointer = some place) v.leafPointers places ∧
        v.leafPointers.Nodup) ∧
    Function.Injective Pointer.escape ∧
    (∀ key, '/' ∉ (Pointer.escape key).toList) ∧
    ∀ key, Pointer.unescape (Pointer.escape key) = key := by
  have hslash (key : String) : ∀ c ∈ (Pointer.ofStep (.key key)).toList, c ≠ '/' :=
    fun _ => Pointer.ne_slash_of_mem_ofStep
  refine ⟨fun v hv hroot => ?_, Pointer.escape_injective, fun key h => hslash key '/' h rfl,
    Pointer.unescape_escape⟩
  have hleaf {place : Location} : place ∈ v.leafPlaces ↔ _ := mem_leafPlaces_iff hv
  have hordered := pairwise_leafPlaces hv
  have hnodup : v.leafPlaces.Nodup := hordered.imp fun h => h.ne hv
  refine ⟨v.leafPlaces, fun place => hleaf, hnodup, hordered, ?_, ?_⟩
  · rw [leafPointers_eq_map, List.forall₂_map_left_iff, List.forall₂_same]
    intro place hplace
    obtain ⟨x, hx, hxleaf⟩ := hleaf.mp hplace
    refine follow?_ofLocation ?_ hx
    -- the root is no leaf here
    rintro rfl
    cases hx
    rw [hroot] at hxleaf
    cases hxleaf
  · rw [leafPointers_eq_map]
    refine hnodup.map_on fun place hplace place' hplace' heq => ?_
    exact injOn_ofLocation v (hleaf.mp hplace) (hleaf.mp hplace') heq

/-- Keys that look like steps, like what steps are written as, or like nothing, and values without
leaves. -/
theorem leafPointers_readBack_of_lookalikes :
    let v : Json := .object
      [("", .null), ("/~", .bool true),
        ("0", .array [.string "", .object [], .array [.null, .object [("/", .bool false)]]]),
        ("~01", .array []), ("~1", .object [("~0", .null)])]
    let places : List Location :=
      [[.key ""], [.key "/~"], [.key "0", .index 0], [.key "0", .index 2, .index 0],
        [.key "0", .index 2, .index 1, .key "/"], [.key "~1", .key "~0"]]
    v.Ordered ∧ v.isLeaf = false ∧
    v.leafPointers = ["/", "/~1~0", "/0/0", "/0/2/0", "/0/2/1/~1", "/~01/~00"] ∧
    v.leafPointers.Nodup ∧ v.leafPointers.map v.follow? = places.map some ∧
    (∀ place ∈ places, ∃ x, v.at? place = some x ∧ x.isLeaf = true) ∧
    places.Pairwise v.Precedes := by
  intro v places
  have hv : v.Ordered := by
    simp only [v, Ordered, OrderedFields, OrderedItems, SortedMap.Sorted, and_true]
    decide +kernel
  obtain ⟨found, hleaf, -, hordered, hread, hnodup⟩ := leafPointers_readBack.1 v hv rfl
  have hfollow : v.leafPointers.map v.follow? = found.map some :=
    List.forall₂_eq_eq_eq ▸ List.forall₂_map_left_iff.mpr (List.forall₂_map_right_iff.mpr hread)
  have hplaces : v.leafPointers.map v.follow? = places.map some := by decide +kernel
  obtain rfl : found = places :=
    List.map_injective_iff.mpr (Option.some_injective _) (hfollow.symm.trans hplaces)
  exact ⟨hv, rfl, by decide +kernel, hnodup, hfollow, fun place h => (hleaf place).mp h, hordered⟩

end Json
end LedgerCheck
