import LedgerCheck.Proofs.Binary64.Distinct
import LedgerCheck.Proofs.Config.Location
import LedgerCheck.Proofs.Json.Layout
import LedgerCheck.Proofs.Json.Ordered

/-!
# Distinct values have distinct texts

The compact form of a value is read as its document, and so a text is written for one document
only.  The document spells every key, string and item, and the numeral of every number, which is
that of no other number.

* `JsonNumber.numeral_inj` — numbers with one numeral are the same.
* `Json.FiniteNumbers` — no number of a value is an infinity or a NaN.
* **`Json.compact_inj`** — values with one compact form are the same.
* `Json.SameAs` — two values hold the same at every place.
* **`Json.eq_of_sameAs`** — ordered values that hold the same everywhere are the same.
-/

namespace LedgerCheck

/-! ## Numbers -/

namespace Numeral

/-- An integer is given by its numeral. -/
lemma ofInt_inj {i j : Int} (h : ofInt i = ofInt j) : i = j := by
  rw [ofInt, ofInt, mk.injEq] at h
  obtain ⟨hsign, hdigits, -⟩ := h
  rw [decide_eq_decide] at hsign
  have hsize : i.natAbs = j.natAbs := by
    rw [← Digits.decimal_toDigits i.natAbs, hdigits, Digits.decimal_toDigits]
  omega

end Numeral

namespace JsonNumber

/-- The number is an integer or a finite binary64 number. -/
def IsFinite : JsonNumber → Prop
  | .int _ => True
  | .float x => x.isFinite = true

/-- No integer has the numeral of a binary64 number. -/
lemma ofInt_ne_numeral (i : Int) (x : Binary64) : Numeral.ofInt i ≠ x.numeral := by
  intro h
  have hpoint := x.not_integer_numeral
  rw [← h] at hpoint
  exact absurd hpoint (by simp [Numeral.ofInt])

/-- **Numbers with one numeral are the same**, in kind and in value. -/
theorem numeral_inj {m n : JsonNumber} (hm : m.IsFinite) (hn : n.IsFinite)
    (h : m.numeral = n.numeral) : m = n := by
  cases m with
  | int i =>
      cases n with
      | int j => rw [Numeral.ofInt_inj h]
      | float y => exact absurd h (ofInt_ne_numeral i y)
  | float x =>
      cases n with
      | int j => exact absurd h.symm (ofInt_ne_numeral j x)
      | float y => rw [Binary64.numeral_inj hm hn h]

end JsonNumber

namespace Json

mutual

/-- No number inside the value is an infinity or a NaN. -/
def FiniteNumbers : Json → Prop
  | .null => True
  | .bool _ => True
  | .number n => n.IsFinite
  | .string _ => True
  | .array items => FiniteItems items
  | .object fields => FiniteFields fields

/-- Every item has finite numbers only. -/
def FiniteItems : List Json → Prop
  | [] => True
  | item :: rest => FiniteNumbers item ∧ FiniteItems rest

/-- The value of every field has finite numbers only. -/
def FiniteFields : List (String × Json) → Prop
  | [] => True
  | (_, value) :: rest => FiniteNumbers value ∧ FiniteFields rest

end

lemma finiteFields_iff {fields : List (String × Json)} :
    FiniteFields fields ↔ ∀ field ∈ fields, field.2.FiniteNumbers := by
  induction fields with
  | nil => simp [FiniteFields]
  | cons field rest ih =>
      obtain ⟨name, value⟩ := field
      rw [FiniteFields, ih, List.forall_mem_cons]

/-! ## Documents -/

mutual

/-- A value is given by the document that it is written with. -/
lemma eq_of_document_eq : ∀ {v w : Json}, v.FiniteNumbers → w.FiniteNumbers →
    v.document = w.document → v = w
  | .null, w, _, _, h => by
      cases w with
      | null => rfl
      | _ => simp [document] at h
  | .bool b, w, _, _, h => by
      cases w with
      | bool b' => simpa [document] using h
      | _ => simp [document] at h
  | .number m, w, hv, hw, h => by
      cases w with
      | number n =>
          simp only [document, Document.number.injEq] at h
          rw [FiniteNumbers] at hv hw
          rw [JsonNumber.numeral_inj hv hw h]
      | _ => simp [document] at h
  | .string s, w, _, _, h => by
      cases w with
      | string s' => simpa [document] using h
      | _ => simp [document] at h
  | .array items, w, hv, hw, h => by
      cases w with
      | array items' =>
          simp only [document, Document.array.injEq] at h
          rw [FiniteNumbers] at hv hw
          rw [eq_of_itemDocuments_eq hv hw h]
      | _ => simp [document] at h
  | .object fields, w, hv, hw, h => by
      cases w with
      | object fields' =>
          simp only [document, Document.object.injEq] at h
          rw [FiniteNumbers] at hv hw
          rw [eq_of_fieldDocuments_eq hv hw h]
      | _ => simp [document] at h

lemma eq_of_itemDocuments_eq : ∀ {items items' : List Json}, FiniteItems items →
    FiniteItems items' → itemDocuments items = itemDocuments items' → items = items'
  | [], [], _, _, _ => rfl
  | [], _ :: _, _, _, h => by simp [itemDocuments] at h
  | _ :: _, [], _, _, h => by simp [itemDocuments] at h
  | item :: rest, item' :: rest', hv, hw, h => by
      simp only [itemDocuments, List.cons.injEq] at h
      rw [FiniteItems] at hv hw
      rw [eq_of_document_eq hv.1 hw.1 h.1, eq_of_itemDocuments_eq hv.2 hw.2 h.2]

lemma eq_of_fieldDocuments_eq : ∀ {fields fields' : List (String × Json)}, FiniteFields fields →
    FiniteFields fields' → fieldDocuments fields = fieldDocuments fields' → fields = fields'
  | [], [], _, _, _ => rfl
  | [], _ :: _, _, _, h => by simp [fieldDocuments] at h
  | _ :: _, [], _, _, h => by simp [fieldDocuments] at h
  | (name, value) :: rest, (name', value') :: rest', hv, hw, h => by
      simp only [fieldDocuments, List.cons.injEq, Prod.mk.injEq, Option.some.injEq] at h
      obtain ⟨⟨rfl, hvalue⟩, hrest⟩ := h
      rw [FiniteFields] at hv hw
      rw [eq_of_document_eq hv.1 hw.1 hvalue, eq_of_fieldDocuments_eq hv.2 hw.2 hrest]

end

/-- **Values with one compact form are the same.** -/
theorem compact_inj {v w : Json} (hv : v.FiniteNumbers) (hw : w.FiniteNumbers)
    (h : v.compact = w.compact) : v = w := by
  refine eq_of_document_eq hv hw (Option.some.inj ?_)
  rw [← Document.read?_compact, h, Document.read?_compact]

/-! ## Values that hold the same -/

/-- What a value is by itself: a scalar with its content, or an array or object without it. -/
def head : Json → Json
  | .array _ => .array []
  | .object _ => .object []
  | .null => .null
  | .bool b => .bool b
  | .number n => .number n
  | .string s => .string s

/-- **The values hold the same at every place**: the same scalar, an array both, an object both, or
nothing both.  The order of the fields of an object does not count. -/
def SameAs (v w : Json) : Prop := ∀ place, (v.at? place).map head = (w.at? place).map head

lemma SameAs.head_eq {v w : Json} (h : v.SameAs w) : v.head = w.head :=
  Option.some.inj (h [])

/-- Values that hold the same do so one step further. -/
lemma SameAs.child? {v w : Json} (h : v.SameAs w) (step : Step) :
    Option.Rel SameAs (v.child? step) (w.child? step) := by
  have hchild := h [step]
  rw [at?, at?] at hchild
  cases hv : v.child? step with
  | none =>
      cases hw : w.child? step with
      | none => exact Option.Rel.none
      | some b => simp [hv, hw, at?] at hchild
  | some a =>
      cases hw : w.child? step with
      | none => simp [hv, hw, at?] at hchild
      | some b =>
          refine Option.Rel.some fun place => ?_
          simpa [at?, hv, hw] using h (step :: place)

/-- Related options are the same if related values are. -/
lemma eq_of_rel {o o' : Option Json} (h : Option.Rel SameAs o o')
    (heq : ∀ a ∈ o, ∀ b ∈ o', a.SameAs b → a = b) : o = o' := by
  cases h with
  | none => rfl
  | some hab => rw [heq _ rfl _ rfl hab]

mutual

/-- **Ordered values that hold the same are the same.** -/
theorem eq_of_sameAs : ∀ {v w : Json}, v.Ordered → w.Ordered → v.SameAs w → v = w
  | .null, w, _, _, h => by
      cases w with
      | null => rfl
      | _ => simpa [head] using h.head_eq
  | .bool _, w, _, _, h => by cases w <;> simpa [head] using h.head_eq
  | .number _, w, _, _, h => by cases w <;> simpa [head] using h.head_eq
  | .string _, w, _, _, h => by cases w <;> simpa [head] using h.head_eq
  | .array items, w, hv, hw, h => by
      cases w with
      | array items' =>
          rw [Ordered] at hv hw
          rw [eq_of_sameAs_items hv hw fun i => h.child? (.index i)]
      | _ => simpa [head] using h.head_eq
  | .object fields, w, hv, hw, h => by
      cases w with
      | object fields' =>
          rw [Ordered] at hv hw
          have hlookup : ∀ key, fields.lookup key = fields'.lookup key := by
            intro key
            refine eq_of_rel (h.child? (.key key)) fun a ha b hb hab => ?_
            exact eq_of_sameAs_field hv.2 _ (SortedMap.mem_of_lookup ha)
              (orderedFields_iff.mp hw.2 _ (SortedMap.mem_of_lookup hb)) hab
          rw [SortedMap.Sorted.ext hv.1 hw.1 hlookup]
      | _ => simpa [head] using h.head_eq

lemma eq_of_sameAs_items : ∀ {items items' : List Json}, OrderedItems items → OrderedItems items' →
    (∀ i : Nat, Option.Rel SameAs items[i]? items'[i]?) → items = items'
  | [], [], _, _, _ => rfl
  | [], _ :: _, _, _, h => by simpa using h 0
  | _ :: _, [], _, _, h => by simpa using h 0
  | item :: rest, item' :: rest', hv, hw, h => by
      rw [OrderedItems] at hv hw
      have hhead : item.SameAs item' := by simpa using h 0
      have htail : ∀ i : Nat, Option.Rel SameAs rest[i]? rest'[i]? := fun i => by
        simpa using h (i + 1)
      rw [eq_of_sameAs hv.1 hw.1 hhead, eq_of_sameAs_items hv.2 hw.2 htail]

lemma eq_of_sameAs_field : ∀ {fields : List (String × Json)}, OrderedFields fields →
    ∀ field ∈ fields, ∀ {w : Json}, w.Ordered → field.2.SameAs w → field.2 = w
  | [], _, _, hfield, _, _, _ => absurd hfield List.not_mem_nil
  | (name, value) :: rest, hv, field, hfield, w, hw, h => by
      rw [OrderedFields] at hv
      rcases List.mem_cons.mp hfield with rfl | hrest
      · exact eq_of_sameAs hv.1 hw h
      · exact eq_of_sameAs_field hv.2 field hrest hw h

end

end Json
end LedgerCheck
