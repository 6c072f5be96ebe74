import LedgerCheck.Config.Layers
import LedgerCheck.Proofs.Json.Ordered

/-!
# What a merged document holds

A document under an overlay is described at one path of keys at a time.  Where the overlay holds
something, it decides, together with what the document holds there; where it holds nothing, the
document shows through, unless the overlay has a value on the way that is no object: that value
bars the document's whole subtree.

* `Json.isBarred` — a value that is no object stands on the way to a path, above its end.
* `Json.field?_merge_object` — a document under an overlay, one key deep.
* **`Json.atKeys?_merge`** — a document under an overlay, at any path.
* `Json.IsHereditary.merge` — what a document under an overlay has in common with both.
-/

namespace LedgerCheck
namespace Json

/-! ## Paths -/

/-- At a path the value holds an object. -/
def HoldsObject (v : Json) (path : List String) : Prop :=
  ∃ x, v.atKeys? path = some x ∧ x.isObject = true

/-- At a path the value holds something that is no object: an array or a scalar, null among them. -/
def HoldsOther (v : Json) (path : List String) : Prop :=
  ∃ x, v.atKeys? path = some x ∧ x.isObject = false

/-- On the way to a path, above its end, stands a value that is no object. -/
def isBarred : List String → Json → Bool
  | [], _ => false
  | name :: path, .object fields =>
    match fields.lookup name with
    | some value => value.isBarred path
    | none => false
  | _ :: _, _ => true

lemma exists_fields {v : Json} (h : v.isObject = true) : ∃ fields, v = .object fields := by
  cases v with
  | object fields => exact ⟨fields, rfl⟩
  | _ => simp [isObject] at h

lemma atKeys?_cons_object (name : String) (path : List String) (fields : List (String × Json)) :
    (Json.object fields).atKeys? (name :: path)
      = (fields.lookup name).bind (atKeys? path) := rfl

/-- What is no object holds nothing under a key. -/
lemma atKeys?_cons_of_not_isObject {v : Json} (h : v.isObject = false) (name : String)
    (path : List String) : v.atKeys? (name :: path) = none := by
  cases v with
  | object fields => simp [isObject] at h
  | _ => rfl

lemma isBarred_cons_of_not_isObject {v : Json} (h : v.isObject = false) (name : String)
    (path : List String) : v.isBarred (name :: path) = true := by
  cases v with
  | object fields => simp [isObject] at h
  | _ => rfl

/-- Behind a bar there is nothing. -/
lemma atKeys?_of_isBarred {v : Json} {path : List String} (h : v.isBarred path = true) :
    v.atKeys? path = none := by
  induction path generalizing v with
  | nil => simp [isBarred] at h
  | cons name path ih =>
      cases v with
      | object fields =>
          rw [atKeys?_cons_object]
          cases hvalue : fields.lookup name with
          | none => rfl
          | some value =>
              rw [isBarred, hvalue] at h
              exact ih h
      | _ => rfl

/-- **A path is barred** exactly if the value holds something that is no object at a proper prefix
of it. -/
lemma isBarred_iff {v : Json} {path : List String} :
    v.isBarred path = true ↔ ∃ above, above <+: path ∧ above ≠ path ∧ v.HoldsOther above := by
  induction path generalizing v with
  | nil => simp [isBarred]
  | cons name path ih =>
      cases hobject : v.isObject with
      | false =>
          rw [isBarred_cons_of_not_isObject hobject]
          simp only [true_iff]
          exact ⟨[], List.nil_prefix, by simp, v, rfl, hobject⟩
      | true =>
          obtain ⟨fields, rfl⟩ := exists_fields hobject
          constructor
          · intro h
            cases hvalue : fields.lookup name with
            | none => simp [isBarred, hvalue] at h
            | some value =>
                rw [isBarred, hvalue] at h
                obtain ⟨above, habove, hne, x, hx, hxobject⟩ := ih.mp h
                refine ⟨name :: above, by simpa using habove, by simpa using hne, x, ?_, hxobject⟩
                rw [atKeys?_cons_object, hvalue]
                exact hx
          · rintro ⟨above, habove, hne, x, hx, hxobject⟩
            cases above with
            | nil =>
                cases hx
                exact absurd hxobject (by simp [isObject])
            | cons first above =>
                obtain ⟨rfl, htail⟩ : first = name ∧ above <+: path := by simpa using habove
                rw [atKeys?_cons_object] at hx
                obtain ⟨value, hvalue, hx⟩ := Option.bind_eq_some_iff.mp hx
                rw [isBarred, hvalue]
                exact ih.mpr ⟨above, htail, by simpa using hne, x, hx, hxobject⟩

lemma isBarred_eq_false_iff {v : Json} {path : List String} :
    v.isBarred path = false ↔ ∀ above, above <+: path → above ≠ path → ¬ v.HoldsOther above := by
  rw [← Bool.not_eq_true, isBarred_iff]
  simp only [not_exists, not_and]

/-- At a path and above it there are only objects, if anything. -/
lemma isBarred_eq_false_and_not_holdsOther_iff {v : Json} {path : List String} :
    (v.isBarred path = false ∧ ¬ v.HoldsOther path) ↔
      ∀ above, above <+: path → ¬ v.HoldsOther above := by
  rw [isBarred_eq_false_iff]
  constructor
  · rintro ⟨habove, hpath⟩ above hprefix
    by_cases hne : above = path
    · rw [hne]
      exact hpath
    · exact habove above hprefix hne
  · intro h
    exact ⟨fun above hprefix _ => h above hprefix, h path (List.prefix_refl path)⟩

/-! ## One overlay -/

/-- What is no object replaces everything. -/
lemma merge_of_not_isObject (a : Json) {b : Json} (h : b.isObject = false) : merge a b = b := by
  cases b with
  | object fields => simp [isObject] at h
  | _ => rw [merge]

/-- Null, which stands for a missing value, is replaced by everything. -/
lemma merge_null (b : Json) : merge .null b = b := by
  cases b <;> rfl

/-- Merging fields goes through the keys of the overlay; each is met once. -/
lemma lookup_mergeFields {fields : List (String × Json)} (h : SortedMap.Sorted fields)
    (base : List (String × Json)) (name : String) :
    (mergeFields base fields).lookup name
      = match fields.lookup name with
        | some value => some (merge ((base.lookup name).getD .null) value)
        | none => base.lookup name := by
  induction fields generalizing base with
  | nil => rw [mergeFields, List.lookup_nil]
  | cons field rest ih =>
      obtain ⟨key, value⟩ := field
      rw [mergeFields, ih (List.pairwise_cons.mp h).2, SortedMap.lookup_insert]
      by_cases hname : name = key
      · subst hname
        rw [SortedMap.Sorted.lookup_tail h, List.lookup_cons_self, if_pos rfl]
      · rw [List.lookup_cons, beq_false_of_ne hname, if_neg hname]

/-- A document under an object, one key deep: a key of the overlay holds the merged value, where
the document counts as holding null if it holds nothing, and any other key is as it was. -/
lemma field?_merge_object (a : Json) {fields : List (String × Json)}
    (h : SortedMap.Sorted fields) (name : String) :
    (merge a (.object fields)).field? name
      = match fields.lookup name with
        | some value => some (merge ((a.field? name).getD .null) value)
        | none => a.field? name := by
  cases a with
  | object base => exact lookup_mergeFields h base name
  | _ =>
      rw [merge.eq_def]
      cases hvalue : fields.lookup name with
      | none => simp [field?, hvalue]
      | some value => simp [field?, hvalue, merge_null]

/-- **A document under an overlay, at a path of keys.**  Behind a bar of the overlay there is
nothing.  Elsewhere the overlay's value is merged into the document's, and where the overlay holds
nothing the document's value remains. -/
theorem atKeys?_merge (a : Json) {b : Json} (hb : b.Ordered) (path : List String) :
    (merge a b).atKeys? path
      = if b.isBarred path then none
        else match b.atKeys? path with
          | some value => some (merge ((a.atKeys? path).getD .null) value)
          | none => a.atKeys? path := by
  induction path generalizing a b with
  | nil => rfl
  | cons name path ih =>
      cases hobject : b.isObject with
      | false =>
          rw [merge_of_not_isObject a hobject, isBarred_cons_of_not_isObject hobject, if_pos rfl]
          exact atKeys?_cons_of_not_isObject hobject name path
      | true =>
          obtain ⟨fields, rfl⟩ := exists_fields hobject
          have hfields : SortedMap.Sorted fields := by
            rw [Ordered] at hb
            exact hb.1
          rw [atKeys?, field?_merge_object a hfields, atKeys?_cons_object, isBarred, atKeys?]
          cases hvalue : fields.lookup name with
          | none => rfl
          | some value =>
              simp only [Option.bind_some]
              rw [ih _ (hb.of_lookup hvalue)]
              cases hbase : a.field? name with
              | some below => simp
              | none =>
                  -- the document has no such key, and null holds nothing but itself
                  cases path with
                  | nil => simp [atKeys?, isBarred]
                  | cons next path =>
                      have hnull : atKeys? (next :: path) .null = none := rfl
                      simp [hnull]

/-! ## What overlays keep -/

/-- **A property that objects inherit**: null has it, and an object has it if its keys are in order and
the values under them have it. -/
structure IsHereditary (P : Json → Prop) : Prop where
  null : P .null
  object_iff : ∀ fields, P (.object fields) ↔ SortedMap.Sorted fields ∧ ∀ field ∈ fields, P field.2

namespace IsHereditary

variable {P : Json → Prop} (hP : IsHereditary P)
include hP

/-- The value under a key has the property, and so has null in place of it. -/
lemma field?_getD {v : Json} (h : P v) (name : String) : P ((v.field? name).getD .null) := by
  cases hvalue : v.field? name with
  | none => exact hP.null
  | some value =>
      cases v with
      | object fields => exact ((hP.object_iff _).mp h).2 _ (SortedMap.mem_of_lookup hvalue)
      | _ => cases hvalue

mutual

/-- **A value under an overlay has the property** if both have it. -/
theorem merge : ∀ {a : Json} (b : Json), P a → P b → P (Json.merge a b)
  | .object base, .object fields, ha, hb => by
      rw [hP.object_iff] at ha hb
      rw [Json.merge, hP.object_iff]
      exact mergeFields fields ha.1 ha.2 hb.2
  | .null, .object _, _, hb => by rwa [merge.eq_def]
  | .bool _, .object _, _, hb => by rwa [merge.eq_def]
  | .number _, .object _, _, hb => by rwa [merge.eq_def]
  | .string _, .object _, _, hb => by rwa [merge.eq_def]
  | .array _, .object _, _, hb => by rwa [merge.eq_def]
  | _, .null, _, hb => by rwa [Json.merge]
  | _, .bool _, _, hb => by rwa [Json.merge]
  | _, .number _, _, hb => by rwa [Json.merge]
  | _, .string _, _, hb => by rwa [Json.merge]
  | _, .array _, _, hb => by rwa [Json.merge]

/-- The fields of an overlay are set one by one, and each leaves a map of values with the property. -/
lemma mergeFields : ∀ {base : List (String × Json)} (fields : List (String × Json)),
    SortedMap.Sorted base → (∀ field ∈ base, P field.2) → (∀ field ∈ fields, P field.2) →
      SortedMap.Sorted (Json.mergeFields base fields) ∧
        ∀ field ∈ Json.mergeFields base fields, P field.2
  | base, [], hsorted, hbase, _ => by
      rw [Json.mergeFields]
      exact ⟨hsorted, hbase⟩
  | base, (name, value) :: rest, hsorted, hbase, hfields => by
      rw [List.forall_mem_cons] at hfields
      have hbelow : P ((base.lookup name).getD .null) :=
        field?_getD hP ((hP.object_iff base).mpr ⟨hsorted, hbase⟩) name
      have hvalue := merge value hbelow hfields.1
      rw [Json.mergeFields]
      refine mergeFields rest (SortedMap.sorted_insert _ _ hsorted) ?_ hfields.2
      intro field hfield
      rcases SortedMap.mem_insert hfield with rfl | hfield
      · exact hvalue
      · exact hbase field hfield

end

end IsHereditary

lemma isHereditary_ordered : IsHereditary Ordered where
  null := by rw [Ordered]; trivial
  object_iff fields := by rw [Ordered, orderedFields_iff]

/-- An ordered value under an ordered overlay is ordered. -/
lemma ordered_merge {a b : Json} (ha : a.Ordered) (hb : b.Ordered) : (merge a b).Ordered :=
  isHereditary_ordered.merge b ha hb

/-! ## What shows through -/

@[simp] lemma isObject_merge (a b : Json) : (merge a b).isObject = b.isObject := by
  cases hobject : b.isObject with
  | false => rw [merge_of_not_isObject a hobject, hobject]
  | true =>
      obtain ⟨fields, rfl⟩ := exists_fields hobject
      cases a <;> rfl

/-- A document under an overlay holds something at a path if the overlay does, or if the document
does and the overlay does not bar the path. -/
lemma isSome_atKeys?_merge (a : Json) {b : Json} (hb : b.Ordered) (path : List String) :
    ((merge a b).atKeys? path).isSome = true ↔
      (b.atKeys? path).isSome = true ∨
        (b.isBarred path = false ∧ (a.atKeys? path).isSome = true) := by
  rw [atKeys?_merge a hb]
  cases hbarred : b.isBarred path with
  | true => simp [atKeys?_of_isBarred hbarred]
  | false => cases hvalue : b.atKeys? path <;> simp

/-- What is no object comes from the overlay, or from the document where the overlay holds nothing
and does not bar the path. -/
lemma atKeys?_merge_eq_some_iff (a : Json) {b : Json} (hb : b.Ordered) (path : List String)
    {x : Json} (hx : x.isObject = false) :
    (merge a b).atKeys? path = some x ↔
      b.atKeys? path = some x ∨
        ((b.atKeys? path = none ∧ b.isBarred path = false) ∧ a.atKeys? path = some x) := by
  rw [atKeys?_merge a hb]
  cases hbarred : b.isBarred path with
  | true => simp [atKeys?_of_isBarred hbarred]
  | false =>
      cases hvalue : b.atKeys? path with
      | none => simp
      | some y =>
          simp only [Bool.false_eq_true, if_false, Option.some.injEq, reduceCtorEq, false_and,
            or_false]
          cases hobject : y.isObject with
          | false => rw [merge_of_not_isObject _ hobject]
          | true =>
              -- an object stays an object, and so neither side is the given value
              constructor
              · rintro rfl
                rw [isObject_merge, hobject] at hx
                exact absurd hx (by simp)
              · rintro rfl
                rw [hobject] at hx
                exact absurd hx (by simp)

/-- An object comes from the overlay, or from the document where the overlay holds nothing but
objects on the way and at the path. -/
lemma holdsObject_merge (a : Json) {b : Json} (hb : b.Ordered) (path : List String) :
    (merge a b).HoldsObject path ↔
      b.HoldsObject path ∨
        ((b.isBarred path = false ∧ ¬ b.HoldsOther path) ∧ a.HoldsObject path) := by
  rw [HoldsObject, atKeys?_merge a hb]
  cases hbarred : b.isBarred path with
  | true => simp [HoldsObject, atKeys?_of_isBarred hbarred]
  | false =>
      cases hvalue : b.atKeys? path with
      | none => simp [HoldsObject, HoldsOther, hvalue]
      | some y =>
          cases hobject : y.isObject with
          | false => simp [HoldsObject, HoldsOther, hvalue, hobject]
          | true => simp [HoldsObject, hvalue, hobject]

end Json
end LedgerCheck
