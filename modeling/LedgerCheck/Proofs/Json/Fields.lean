import LedgerCheck.Proofs.SortedMap
import LedgerCheck.Json.Document

/-!
# Fields of a text

The fields of an object stand in a text in any order and may repeat a name.  In a plain value they
stand in byte order, and of those with one name the last is left.

* `Document.FieldRead` — what a field of the text is in the plain value.
* `Document.lastField?` — the last field of a name.
* **`Document.read?_object`**, **`Document.lookup_lastField?`** — the object that is read from a
  text holds the last field of each name.
-/

namespace LedgerCheck
namespace Document

section Shapes

variable {d : Document} {depth : Nat}

/-- Only a numeral is read as a number. -/
lemma toJsonWithin?_eq_number_iff {k : JsonNumber} :
    d.toJsonWithin? depth = some (.number k) ↔ ∃ n, d = .number n ∧ n.number? = some k := by
  cases d <;> cases depth <;> simp [toJsonWithin?]

/-- Only a string without unpaired surrogates is read as a string. -/
lemma toJsonWithin?_eq_string_iff {s : String} :
    d.toJsonWithin? depth = some (.string s) ↔ d = .string (some s) := by
  cases d <;> cases depth <;> simp [toJsonWithin?]

/-- Only an object is read as an object. -/
lemma exists_fields_of_toJsonWithin? {object : List (String × Json)}
    (h : d.toJsonWithin? depth = some (.object object)) : ∃ fields, d = .object fields := by
  cases d <;> cases depth <;> simp [toJsonWithin?] at h ⊢

end Shapes

/-- A field of a text as a field of a plain value. -/
def FieldRead (depth : Nat) (field : Option String × Document) (entry : String × Json) : Prop :=
  field.1 = some entry.1 ∧ field.2.toJsonWithin? depth = some entry.2

/-- The fields are read one by one, and all of them have to be read. -/
lemma fieldsWithin?_eq_some_iff {depth : Nat} {fields : List (Option String × Document)}
    {entries : List (String × Json)} :
    fieldsWithin? depth fields = some entries ↔ List.Forall₂ (FieldRead depth) fields entries := by
  induction fields generalizing entries with
  | nil => simp [fieldsWithin?, eq_comm]
  | cons field rest ih =>
      obtain ⟨name, value⟩ := field
      simp only [fieldsWithin?, Option.bind_eq_bind, Option.bind_eq_some_iff,
        List.forall₂_cons_left_iff, ih, FieldRead]
      constructor
      · rintro ⟨k, hk, v, hv, entries', hrest, hentries⟩
        exact ⟨(k, v), entries', ⟨hk, hv⟩, hrest, (Option.some.inj hentries).symm⟩
      · rintro ⟨⟨k, v⟩, entries', ⟨hk, hv⟩, hrest, rfl⟩
        exact ⟨k, hk, v, hv, entries', hrest, rfl⟩

/-- The field under a name in the text and in the plain value. -/
lemma lookup_of_fieldRead {depth : Nat} {fields : List (Option String × Document)}
    {entries : List (String × Json)} (h : List.Forall₂ (FieldRead depth) fields entries)
    (name : String) :
    (fields.lookup (some name)).map (toJsonWithin? depth) = (entries.lookup name).map some := by
  induction h with
  | nil => rfl
  | @cons field entry fields entries hfield _ ih =>
      obtain ⟨k, d⟩ := field
      obtain ⟨k', v⟩ := entry
      obtain ⟨rfl, hvalue⟩ := hfield
      rw [List.lookup_cons, List.lookup_cons]
      by_cases hname : name = k'
      · rw [beq_iff_eq.mpr hname, beq_iff_eq.mpr (congrArg some hname)]
        exact congrArg some hvalue
      · rw [beq_false_of_ne hname, beq_false_of_ne (fun heq => hname (Option.some.inj heq))]
        exact ih

/-- The value of the last field of a name. -/
def lastField? (fields : List (Option String × Document)) (name : String) : Option Document :=
  fields.reverse.lookup (some name)

/-- How deep the containers in the fields of an object may be nested. -/
def fieldDepth : Nat := 126

/-- **The object that a text is read as.** -/
theorem read?_object {text : String} {fields : List (Option String × Document)}
    (h : read? text = some (.object fields)) :
    Json.read? text = (fieldsWithin? fieldDepth fields).map
      fun entries => .object (SortedMap.ofList entries) := by
  have hdepth : depthLimit = fieldDepth + 1 := rfl
  rw [Json.read?, h, Option.bind_some, toJson?, hdepth, toJsonWithin?]

/-- A text that is read as an object has fields. -/
lemma exists_fields_of_read? {text : String} {object : List (String × Json)}
    (h : Json.read? text = some (.object object)) :
    ∃ fields, read? text = some (.object fields) := by
  obtain ⟨d, hd, hobject⟩ := Option.bind_eq_some_iff.mp h
  obtain ⟨fields, rfl⟩ := exists_fields_of_toJsonWithin? hobject
  exact ⟨fields, hd⟩

/-- **Of the fields with one name the last is left.** -/
theorem lookup_lastField? {fields : List (Option String × Document)}
    {entries : List (String × Json)} (h : fieldsWithin? fieldDepth fields = some entries)
    (name : String) :
    (lastField? fields name).map (toJsonWithin? fieldDepth)
      = ((SortedMap.ofList entries).lookup name).map some := by
  rw [SortedMap.lookup_ofList, lastField?]
  exact lookup_of_fieldRead (List.forall₂_reverse_iff.mpr (fieldsWithin?_eq_some_iff.mp h)) name

end Document
end LedgerCheck
