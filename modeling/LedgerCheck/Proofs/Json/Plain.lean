import LedgerCheck.Proofs.Json.Layout
import LedgerCheck.Proofs.SortedMap

/-!
# Plain values of written texts

A written value lists the fields of its objects in any order; read as a plain value, they stand in
byte order of their names.

* `Json.arranged` — a value with its fields in that order.
* `Json.field?_arranged` — arranging an object changes no field.
* `Json.NullFree` — a value without `null` at any path of keys.
* `Json.PlainWithin` — a value whose numerals are read as its numbers and that is not too deep.
* **`Json.read?_compact`**, **`Json.read?_fileText`** — such a value is read as it is, arranged.
* **`Binary64.readsBack_iff`** — a number is read back if its numeral has it for a value.
-/

namespace LedgerCheck
namespace Json

/-! ## Arranged values -/

mutual

/-- The value with the fields of every object in byte order of their names. -/
def arranged : Json → Json
  | .null => .null
  | .bool b => .bool b
  | .number n => .number n
  | .string s => .string s
  | .array items => .array (arrangedItems items)
  | .object fields => .object (SortedMap.ofList (arrangedFields fields))

/-- The items, each arranged. -/
def arrangedItems : List Json → List Json
  | [] => []
  | item :: rest => arranged item :: arrangedItems rest

/-- The fields in their old order, the value of each arranged. -/
def arrangedFields : List (String × Json) → List (String × Json)
  | [] => []
  | (name, value) :: rest => (name, arranged value) :: arrangedFields rest

end

lemma arrangedFields_eq_map (fields : List (String × Json)) :
    arrangedFields fields = fields.map fun field => (field.1, field.2.arranged) := by
  induction fields with
  | nil => rfl
  | cons field rest ih => rw [arrangedFields, List.map_cons, ih]

/-- **Arranging an object changes no field**, if there is one field of each name. -/
lemma field?_arranged {fields : List (String × Json)} (h : (fields.map Prod.fst).Nodup)
    (name : String) : (Json.object fields).arranged.field? name
      = ((Json.object fields).field? name).map arranged := by
  have hkeys : (arrangedFields fields).map Prod.fst = fields.map Prod.fst := by
    rw [arrangedFields_eq_map, List.map_map]
    rfl
  rw [arranged, field?, SortedMap.lookup_ofList, SortedMap.lookup_reverse (hkeys ▸ h),
    arrangedFields_eq_map, SortedMap.lookup_map_snd, field?]

/-- Every entry of an arranged object is a field of the object, arranged. -/
lemma exists_field_of_mem_ofList {fields : List (String × Json)} {entry : String × Json}
    (h : entry ∈ SortedMap.ofList (arrangedFields fields)) :
    ∃ field ∈ fields, entry = (field.1, field.2.arranged) := by
  have hmem := SortedMap.mem_of_mem_ofList h
  rw [arrangedFields_eq_map] at hmem
  obtain ⟨field, hfield, hentry⟩ := List.mem_map.mp hmem
  exact ⟨field, hfield, hentry.symm⟩

/-! ## Values without null -/

/-- **Nothing in the value is null**, neither the value nor what it holds at a path of keys. -/
def NullFree (v : Json) : Prop := ∀ path, v.atKeys? path ≠ some .null

lemma nullFree_bool (b : Bool) : (Json.bool b).arranged.NullFree := by
  rw [arranged]
  rintro (_ | ⟨name, path⟩) <;> simp [atKeys?, field?]

lemma nullFree_number (n : JsonNumber) : (Json.number n).arranged.NullFree := by
  rw [arranged]
  rintro (_ | ⟨name, path⟩) <;> simp [atKeys?, field?]

lemma nullFree_string (s : String) : (Json.string s).arranged.NullFree := by
  rw [arranged]
  rintro (_ | ⟨name, path⟩) <;> simp [atKeys?, field?]

/-- An object is without null if its fields are, arranged or not. -/
lemma nullFree_arranged {fields : List (String × Json)}
    (h : ∀ field ∈ fields, field.2.arranged.NullFree) : (Json.object fields).arranged.NullFree := by
  intro path
  cases path with
  | nil => simp [atKeys?, arranged]
  | cons name path =>
      rw [arranged, atKeys?, field?]
      cases hvalue : (SortedMap.ofList (arrangedFields fields)).lookup name with
      | none => simp
      | some value =>
          obtain ⟨field, hfield, hentry⟩ :=
            exists_field_of_mem_ofList (SortedMap.mem_of_lookup hvalue)
          obtain rfl := congrArg Prod.snd hentry
          exact h field hfield path

/-! ## Values that are read as they are -/

mutual

/-- **The numerals of the value are read as its numbers**, and it has at most `depth` levels of
containers. -/
def PlainWithin (depth : Nat) : Json → Prop
  | .null => True
  | .bool _ => True
  | .number n => n.numeral.number? = some n
  | .string _ => True
  | .array items =>
    match depth with
    | 0 => False
    | depth + 1 => PlainItemsWithin depth items
  | .object fields =>
    match depth with
    | 0 => False
    | depth + 1 => PlainFieldsWithin depth fields

/-- Every item is read as it is. -/
def PlainItemsWithin (depth : Nat) : List Json → Prop
  | [] => True
  | item :: rest => PlainWithin depth item ∧ PlainItemsWithin depth rest

/-- The value of every field is read as it is. -/
def PlainFieldsWithin (depth : Nat) : List (String × Json) → Prop
  | [] => True
  | (_, value) :: rest => PlainWithin depth value ∧ PlainFieldsWithin depth rest

end

lemma plainFieldsWithin_iff {depth : Nat} {fields : List (String × Json)} :
    PlainFieldsWithin depth fields ↔ ∀ field ∈ fields, field.2.PlainWithin depth := by
  induction fields with
  | nil => simp [PlainFieldsWithin]
  | cons field rest ih =>
      obtain ⟨name, value⟩ := field
      rw [PlainFieldsWithin, ih, List.forall_mem_cons]

/-- An object of values that are read as they are is read as it is. -/
lemma plainWithin_object {depth : Nat} {fields : List (String × Json)}
    (h : ∀ field ∈ fields, field.2.PlainWithin depth) :
    (Json.object fields).PlainWithin (depth + 1) := by
  rw [PlainWithin]
  exact plainFieldsWithin_iff.mpr h

lemma plainWithin_bool (depth : Nat) (b : Bool) : (Json.bool b).PlainWithin depth := by
  rw [PlainWithin]
  trivial

lemma plainWithin_string (depth : Nat) (s : String) : (Json.string s).PlainWithin depth := by
  rw [PlainWithin]
  trivial

lemma plainWithin_ofInt (depth : Nat) {i : Int} (h : IntegerRange i) :
    (ofInt i).PlainWithin depth := by
  rw [ofInt, PlainWithin]
  exact Numeral.number?_ofInt h

mutual

lemma toJsonWithin?_document : ∀ (v : Json) (depth : Nat), v.PlainWithin depth →
    v.document.toJsonWithin? depth = some v.arranged
  | .null, _, _ => by rw [document, Document.toJsonWithin?, arranged]
  | .bool _, _, _ => by rw [document, Document.toJsonWithin?, arranged]
  | .number n, _, h => by
      rw [PlainWithin] at h
      rw [document, Document.toJsonWithin?, arranged, h, Option.map_some]
  | .string s, _, _ => by rw [document, Document.toJsonWithin?, arranged, Option.map_some]
  | .array _, 0, h => by simp [PlainWithin] at h
  | .array items, depth + 1, h => by
      rw [PlainWithin] at h
      rw [document, Document.toJsonWithin?, arranged, itemsWithin?_itemDocuments items depth h,
        Option.map_some]
  | .object _, 0, h => by simp [PlainWithin] at h
  | .object fields, depth + 1, h => by
      rw [PlainWithin] at h
      rw [document, Document.toJsonWithin?, arranged, fieldsWithin?_fieldDocuments fields depth h,
        Option.map_some]

lemma itemsWithin?_itemDocuments : ∀ (items : List Json) (depth : Nat),
    PlainItemsWithin depth items →
      Document.itemsWithin? depth (itemDocuments items) = some (arrangedItems items)
  | [], _, _ => by rw [itemDocuments, Document.itemsWithin?, arrangedItems]
  | item :: rest, depth, h => by
      rw [PlainItemsWithin] at h
      rw [itemDocuments, Document.itemsWithin?, arrangedItems,
        toJsonWithin?_document item depth h.1, itemsWithin?_itemDocuments rest depth h.2]
      rfl

lemma fieldsWithin?_fieldDocuments : ∀ (fields : List (String × Json)) (depth : Nat),
    PlainFieldsWithin depth fields →
      Document.fieldsWithin? depth (fieldDocuments fields) = some (arrangedFields fields)
  | [], _, _ => by rw [fieldDocuments, Document.fieldsWithin?, arrangedFields]
  | (name, value) :: rest, depth, h => by
      rw [PlainFieldsWithin] at h
      rw [fieldDocuments, Document.fieldsWithin?, arrangedFields,
        toJsonWithin?_document value depth h.1, fieldsWithin?_fieldDocuments rest depth h.2]
      rfl

end

/-- **The compact form is read as the value that was written**, arranged. -/
theorem read?_compact {v : Json} (h : v.PlainWithin Document.depthLimit) :
    read? v.compact = some v.arranged := by
  rw [read?, Document.read?_compact, Option.bind_some]
  exact toJsonWithin?_document v _ h

/-- **The indented form is read as the value that was written**, arranged. -/
theorem read?_fileText {v : Json} (h : v.PlainWithin Document.depthLimit) :
    read? v.fileText = some v.arranged := by
  rw [read?, Document.read?_fileText, Option.bind_some]
  exact toJsonWithin?_document v _ h

end Json

namespace Binary64

/-! ## Numbers -/

/-- The text of a number is read as its numeral. -/
lemma read?_text (x : Binary64) : Document.read? x.text = some (.number x.numeral) := by
  have hread := Document.read?_compact (.number (.float x))
  rwa [Json.compact, Json.compactChars] at hread

/-- **A number is read back** if its numeral has it for a value, which is never an integer. -/
lemma readsBack_iff {x : Binary64} : x.ReadsBack ↔ x.numeral.number? = some (.float x) := by
  rw [ReadsBack, read?_text, Option.bind_some, Document.binary64?]
  have hfloat :
      x.numeral.number? = x.numeral.magnitude?.map fun m => .float (x.numeral.signed m) := by
    rw [Numeral.number?, not_integer_numeral, Bool.false_and, if_neg Bool.false_ne_true]
  rw [hfloat]
  cases x.numeral.magnitude? <;> simp

end Binary64

namespace Json

/-- A number whose text is read back is read as it is; in place of an infinity or a NaN stands
`null`, which is read as it is as well. -/
lemma plainWithin_ofBinary64 (depth : Nat) {x : Binary64} (h : x.isFinite = true → x.ReadsBack) :
    (ofBinary64 x).PlainWithin depth := by
  rw [ofBinary64]
  split_ifs with hfinite
  · rw [PlainWithin]
    exact Binary64.readsBack_iff.mp (h hfinite)
  · rw [PlainWithin]
    trivial

end Json
end LedgerCheck
