import LedgerCheck.Proofs.SortedMap
import LedgerCheck.Yaml.Value

/-!
# Rearranged mappings

The order of the entries of a mapping does not count, except among keys that have the same text in
JSON: `1` and `"1"` are two keys of a mapping and one key of an object, and the later entry counts.

* `Yaml.Value.Rearranged` — a value with the entries of its mappings in another order, at any depth,
  the entries of one text keeping theirs.
* `Yaml.Value.Rearranged.exchange` — two neighbours may be exchanged.
* **`Yaml.Value.Rearranged.toJson?_eq`** — such values have the same JSON value.
* `Yaml.Rearranged` — texts with such values; `Yaml.Rearranged.read_eq` says that they are read
  alike.
-/

namespace LedgerCheck
namespace Yaml

namespace Value

/-! ## The relation -/

/-- The key of the entry has the given text in JSON. -/
def hasText (text : String) (entry : Value × Value) : Bool := keyText? entry.1 == some text

/-- **The values differ in the order of the entries of mappings only**, at any depth, and no two
entries whose keys have the same text are exchanged. -/
inductive Rearranged : Value → Value → Prop
  | refl (v : Value) : Rearranged v v
  | trans {u v w : Value} : Rearranged u v → Rearranged v w → Rearranged u w
  | entries {fields fields' : List (Value × Value)} (hperm : fields.Perm fields')
      (horder : ∀ text, fields.filter (hasText text) = fields'.filter (hasText text)) :
      Rearranged (.mapping fields) (.mapping fields')
  | entry (before : List (Value × Value)) {k k' v v' : Value} (after : List (Value × Value)) :
      Rearranged k k' → Rearranged v v' →
        Rearranged (.mapping (before ++ (k, v) :: after)) (.mapping (before ++ (k', v') :: after))
  | item (before : List Value) {v v' : Value} (after : List Value) :
      Rearranged v v' →
        Rearranged (.sequence (before ++ v :: after)) (.sequence (before ++ v' :: after))
  | tagged (name : String) {v v' : Value} :
      Rearranged v v' → Rearranged (.tagged name v) (.tagged name v')

/-! ## One entry at a time -/

/-- The field of an object that an entry of a mapping becomes. -/
def fieldJson? (entry : Value × Value) : Option (String × Json) :=
  (keyText? entry.1).bind fun k => (toJson? entry.2).map fun v => (k, v)

lemma fieldsJson?_cons (entry : Value × Value) (rest : List (Value × Value)) :
    fieldsJson? (entry :: rest)
      = (fieldJson? entry).bind fun field => (fieldsJson? rest).map fun fields =>
        field :: fields := by
  obtain ⟨k, v⟩ := entry
  rw [fieldsJson?, fieldJson?]
  cases keyText? k with
  | none => rfl
  | some k =>
      cases toJson? v with
      | none => rfl
      | some v => cases fieldsJson? rest <;> rfl

lemma fieldsJson?_eq_mapM (fields : List (Value × Value)) :
    fieldsJson? fields = fields.mapM fieldJson? := by
  induction fields with
  | nil => rfl
  | cons entry rest ih =>
      rw [fieldsJson?_cons, List.mapM_cons, ih]
      cases fieldJson? entry with
      | none => rfl
      | some field => cases rest.mapM fieldJson? <;> rfl

lemma itemsJson?_eq_mapM (items : List Value) : itemsJson? items = items.mapM toJson? := by
  induction items with
  | nil => rfl
  | cons v rest ih =>
      rw [itemsJson?, List.mapM_cons, ih]
      rfl

/-- Entries become fields if each of them does. -/
lemma isSome_fieldsJson?_iff (fields : List (Value × Value)) :
    (fieldsJson? fields).isSome = true ↔ ∀ entry ∈ fields, (fieldJson? entry).isSome = true := by
  induction fields with
  | nil => simp [fieldsJson?]
  | cons entry rest ih =>
      rw [List.forall_mem_cons, ← ih, fieldsJson?_cons]
      cases fieldJson? entry with
      | none => simp
      | some field => cases fieldsJson? rest <;> simp

/-- The fields of one name come from the entries whose keys have it for their text. -/
lemma fieldsJson?_filter {fields : List (Value × Value)} {named : List (String × Json)}
    (h : fieldsJson? fields = some named) (text : String) :
    fieldsJson? (fields.filter (hasText text))
      = some (named.filter fun field => text == field.1) := by
  induction fields generalizing named with
  | nil =>
      cases h
      rfl
  | cons entry rest ih =>
      rw [fieldsJson?_cons] at h
      obtain ⟨field, hfield, h⟩ := Option.bind_eq_some_iff.mp h
      obtain ⟨others, hothers, rfl⟩ := Option.map_eq_some_iff.mp h
      have hname : keyText? entry.1 = some field.1 := by
        obtain ⟨k, hk, hfield⟩ := Option.bind_eq_some_iff.mp hfield
        obtain ⟨v, hv, rfl⟩ := Option.map_eq_some_iff.mp hfield
        exact hk
      cases htext : text == field.1 with
      | true =>
          have hentry : hasText text entry = true := by
            rw [hasText, hname, beq_iff_eq.mp htext]
            exact beq_self_eq_true _
          simp only [List.filter_cons, hentry, htext, if_true, fieldsJson?_cons, hfield,
            ih hothers, Option.bind_some, Option.map_some]
      | false =>
          have hentry : hasText text entry = false := by
            rw [hasText, hname, beq_eq_false_iff_ne, Ne, Option.some.injEq]
            rintro rfl
            exact absurd htext (by simp)
          simp only [List.filter_cons, hentry, htext, Bool.false_eq_true, if_false, ih hothers]

/-! ## Values with the same JSON value -/

/-- The entries of a mapping may change places. -/
lemma toJson?_mapping_eq {fields fields' : List (Value × Value)} (hperm : fields.Perm fields')
    (horder : ∀ text, fields.filter (hasText text) = fields'.filter (hasText text)) :
    toJson? (.mapping fields) = toJson? (.mapping fields') := by
  have hsome : (fieldsJson? fields).isSome = (fieldsJson? fields').isSome := by
    rw [Bool.eq_iff_iff, isSome_fieldsJson?_iff, isSome_fieldsJson?_iff]
    simp only [hperm.mem_iff]
  rw [toJson?, toJson?]
  cases hnamed : fieldsJson? fields with
  | none =>
      rw [hnamed, Option.isSome_none, eq_comm, Option.isSome_eq_false_iff,
        Option.isNone_iff_eq_none] at hsome
      rw [hsome]
  | some named =>
      rw [hnamed, Option.isSome_some, eq_comm] at hsome
      obtain ⟨named', hnamed'⟩ := Option.isSome_iff_exists.mp hsome
      have hfilter : ∀ text, (named.filter fun field => text == field.1)
          = named'.filter fun field => text == field.1 := by
        intro text
        have hleft := fieldsJson?_filter hnamed text
        rw [horder, fieldsJson?_filter hnamed' text] at hleft
        exact (Option.some.inj hleft).symm
      rw [hnamed', Option.map_some, Option.map_some, SortedMap.ofList_congr hfilter]

namespace Rearranged

/-- Two entries that stand side by side may be exchanged if their keys have no text in common. -/
lemma exchange (before : List (Value × Value)) {e e' : Value × Value} (after : List (Value × Value))
    (h : keyText? e.1 ≠ keyText? e'.1) :
    Rearranged (.mapping (before ++ e :: e' :: after)) (.mapping (before ++ e' :: e :: after)) := by
  refine entries (List.Perm.append_left _ (List.Perm.swap _ _ _)) fun text => ?_
  rw [List.filter_append, List.filter_append]
  congr 1
  cases hfirst : hasText text e with
  | false => simp only [List.filter_cons, hfirst, Bool.false_eq_true, if_false]
  | true =>
      have hsecond : hasText text e' = false := by
        rw [hasText, beq_iff_eq] at hfirst
        rw [hasText, beq_eq_false_iff_ne, ← hfirst]
        exact h.symm
      simp only [List.filter_cons, hsecond, Bool.false_eq_true, if_false]

variable {v w : Value}

/-- Rearranging a key leaves it the text that it has. -/
lemma keyText?_eq (h : Rearranged v w) : keyText? v = keyText? w := by
  induction h with
  | refl v => rfl
  | trans _ _ ih ih' => exact ih.trans ih'
  | entries _ _ => rfl
  | entry _ _ _ _ _ _ => rfl
  | item _ _ _ _ => rfl
  | tagged _ _ _ => rfl

lemma isNull_eq (h : Rearranged v w) : v.isNull = w.isNull := by
  induction h with
  | refl v => rfl
  | trans _ _ ih ih' => exact ih.trans ih'
  | entries _ _ => rfl
  | entry _ _ _ _ _ _ => rfl
  | item _ _ _ _ => rfl
  | tagged _ _ ih => exact ih

/-- **Rearranged values have the same JSON value.** -/
theorem toJson?_eq (h : Rearranged v w) : v.toJson? = w.toJson? := by
  induction h with
  | refl v => rfl
  | trans _ _ ih ih' => exact ih.trans ih'
  | entries hperm horder => exact toJson?_mapping_eq hperm horder
  | @entry before k k' v v' after hk _ _ ih =>
      have hentry : fieldJson? (k, v) = fieldJson? (k', v') := by
        rw [fieldJson?, fieldJson?, hk.keyText?_eq, ih]
      simp only [toJson?, fieldsJson?_eq_mapM, List.mapM_append, List.mapM_cons, hentry]
  | item before after _ ih =>
      simp only [toJson?, itemsJson?_eq_mapM, List.mapM_append, List.mapM_cons, ih]
  | tagged name _ ih => rw [toJson?, toJson?, ih]

end Rearranged
end Value

/-! ## Texts -/

/-- The texts have rearranged values, or both have none. -/
def Rearranged (text text' : String) : Prop :=
  Option.Rel Value.Rearranged (readValue? text) (readValue? text')

/-- Rearranged texts are read alike. -/
lemma Rearranged.read_eq {text text' : String} (h : Rearranged text text') :
    read text = read text' := by
  rw [Rearranged] at h
  rw [read, read]
  generalize readValue? text = v, readValue? text' = w at h ⊢
  cases h with
  | none => rfl
  | some hvalue =>
      simp only [hvalue.isNull_eq, hvalue.toJson?_eq]

end Yaml
end LedgerCheck
