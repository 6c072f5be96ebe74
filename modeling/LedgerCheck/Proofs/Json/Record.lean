import LedgerCheck.Proofs.Json.Plain
import LedgerCheck.RunResult

/-!
# Reading written records

A record is written as an object with some of its declared fields.  Read again, it has those fields
and no others.

* `Record.ofFields?_of_nodup` — the fields of an object whose names are all different.
* `Holds`, `Record.ofFields?_eq_some_iff`, `Record.ofDocument?_pair_iff` — the fields of any object:
  one value or none under each declared name.
* **`Record.ofDocument?_document`**, **`Record.ofJson?_arranged`** — the same for a written object
  and for an object as a plain value.
* `RunResult.lookup_optionalField`, `Verdict.lookup_toField` — fields that may be left out.
* `Document.uint64?_document`, … — the readers of values take what was written.
* `Document.Tells`, `Document.optional_eq_some_iff` — what is read of a field that may be left out.
-/

namespace LedgerCheck

/-! ## Fields -/

section Fields

variable {α : Type}

/-- No name stands twice where the names are all different. -/
lemma length_filter_le_one {fields : List (String × α)} (h : (fields.map Prod.fst).Nodup)
    (name : String) : (fields.filter (·.1 == name)).length ≤ 1 := by
  have hcount : (fields.filter (·.1 == name)).length = (fields.map Prod.fst).count name := by
    rw [List.count, List.countP_map, List.countP_eq_length_filter]
    rfl
  rw [hcount]
  exact List.nodup_iff_count_le_one.mp h name

/-- **The value that stands under a name**: the only one, or none. -/
def Holds (fields : List (String × α)) (name : String) (value : Option α) : Prop :=
  (fields.filter (·.1 == name)).map Prod.snd = value.toList

/-- The value that is looked up is the first one that stands under the name. -/
lemma lookup_eq_head? (fields : List (String × α)) (name : String) :
    fields.lookup name = ((fields.filter (·.1 == name)).map Prod.snd).head? := by
  induction fields with
  | nil => rfl
  | cons field rest ih =>
      obtain ⟨other, value⟩ := field
      rw [List.lookup_cons, List.filter_cons, BEq.comm (a := name)]
      cases other == name with
      | true => rfl
      | false => exact ih

lemma holds_iff {fields : List (String × α)} {name : String} {value : Option α} :
    Holds fields name value ↔
      (fields.filter (·.1 == name)).length ≤ 1 ∧ fields.lookup name = value := by
  rw [Holds, lookup_eq_head?]
  generalize fields.filter (·.1 == name) = held
  cases value <;> rcases held with _ | ⟨first, _ | ⟨second, rest⟩⟩ <;> simp

/-- A value under a name is the one that stands there. -/
lemma Holds.eq_some {fields : List (String × α)} {name : String} {value : Option α}
    (h : Holds fields name value) {v : α} (hv : (name, v) ∈ fields) : value = some v := by
  have hmem : v ∈ (fields.filter (·.1 == name)).map Prod.snd :=
    List.mem_map.mpr ⟨(name, v), List.mem_filter.mpr ⟨hv, beq_self_eq_true name⟩, rfl⟩
  rw [h, Option.mem_toList] at hmem
  exact hmem

namespace Record

/-- **The fields of an object whose names are all different**, if it may have other ones. -/
lemma ofFields?_of_nodup {r : Record} (hopen : r.closed = false) {fields : List (String × α)}
    (h : (fields.map Prod.fst).Nodup) :
    r.ofFields? fields = some (r.names.map fun name => fields.lookup name) := by
  have honce : (r.names.any fun name => decide (1 < (fields.filter (·.1 == name)).length))
      = false := by
    refine List.any_eq_false.mpr fun name _ => ?_
    simpa using length_filter_le_one h name
  rw [ofFields?, hopen, Bool.false_and, if_neg Bool.false_ne_true, honce, if_neg Bool.false_ne_true]

/-- **An object has the fields of a record** if one value or none stands under each declared name,
and, in a closed record, no value under any other. -/
lemma ofFields?_eq_some_iff {r : Record} {fields : List (String × α)} {values : List (Option α)} :
    r.ofFields? fields = some values ↔
      (r.closed = true → ∀ field ∈ fields, field.1 ∈ r.names) ∧
        List.Forall₂ (Holds fields) r.names values := by
  have hvalues : List.Forall₂ (Holds fields) r.names values ↔
      (∀ name ∈ r.names, (fields.filter (·.1 == name)).length ≤ 1) ∧
        (r.names.map fun name => fields.lookup name) = values := by
    rw [← List.forall₂_eq_eq_eq, List.forall₂_map_left_iff, ← List.forall₂_and_left]
    simp only [← holds_iff]
  have hother : (r.closed && fields.any fun field => !r.names.contains field.1) = true ↔
      ¬ (r.closed = true → ∀ field ∈ fields, field.1 ∈ r.names) := by
    simp
  have htwice : (r.names.any fun name => decide (1 < (fields.filter (·.1 == name)).length)) = true ↔
      ¬ ∀ name ∈ r.names, (fields.filter (·.1 == name)).length ≤ 1 := by
    simp
  rw [hvalues, ofFields?]
  simp only [hother, htwice, ite_not, Option.ite_none_right_eq_some, Option.some.injEq]

/-- Names are those of strings that are all well formed. -/
lemma named?_eq_some_iff {fields : List (Option String × α)} {named : List (String × α)} :
    named? fields = some named ↔ fields = named.map fun field => (some field.1, field.2) := by
  induction fields generalizing named with
  | nil => simp [named?]
  | cons field rest ih =>
      obtain ⟨name, value⟩ := field
      rw [named?] at ih ⊢
      simp only [List.mapM_cons, Option.bind_eq_bind, Option.bind_eq_some_iff, ih]
      constructor
      · rintro ⟨first, hfirst, others, rfl, h⟩
        obtain ⟨text, rfl, rfl⟩ := Option.map_eq_some_iff.mp hfirst
        cases h
        rfl
      · intro h
        cases named with
        | nil => cases h
        | cons first others =>
            obtain ⟨hfirst, hrest⟩ := List.cons.inj h
            cases hfirst
            exact ⟨first, rfl, others, hrest, rfl⟩

/-- **The two fields of a record** are one value or none under each name of an object, or the items of
an array, of which the last ones may be left out. -/
lemma ofDocument?_pair_iff {first second : String} {least : Nat} {closed : Bool} {d : Document}
    {a b : Option Document} :
    (⟨[first, second], least, closed⟩ : Record).ofDocument? d = some [a, b] ↔
      (∃ fields, d = .object (fields.map fun field => (some field.1, field.2)) ∧
        (closed = true → ∀ field ∈ fields, field.1 = first ∨ field.1 = second) ∧
        Holds fields first a ∧ Holds fields second b) ∨
      ∃ items, d = .array items ∧ least ≤ items.length ∧ items.length ≤ 2 ∧ a = items[0]? ∧
        b = items[1]? := by
  cases d with
  | object fields =>
      simp [ofDocument?, Option.bind_eq_some_iff, named?_eq_some_iff, ofFields?_eq_some_iff]
  | array items =>
      rw [ofDocument?, ofItems?]
      rcases items with _ | ⟨x, _ | ⟨y, _ | ⟨z, rest⟩⟩⟩ <;>
        simp [@eq_comm _ a, @eq_comm _ b, List.replicate]
  | _ => simp [ofDocument?]

end Record

end Fields

namespace Json

lemma named?_fieldDocuments (fields : List (String × Json)) :
    Record.named? (fieldDocuments fields)
      = some (fields.map fun field => (field.1, field.2.document)) := by
  induction fields with
  | nil => rfl
  | cons field rest ih =>
      rw [Record.named?] at ih ⊢
      rw [fieldDocuments, List.mapM_cons, ih]
      rfl

end Json

namespace Record

variable (r : Record) (v : Json) {fields : List (String × Json)}

/-- **A written object is read field by field**: each declared field has the value that was written
under its name, if there was one. -/
theorem ofDocument?_document (hopen : r.closed = false) (hv : v = .object fields)
    (h : (fields.map Prod.fst).Nodup) :
    r.ofDocument? v.document
      = some (r.names.map fun name => (v.field? name).map Json.document) := by
  subst hv
  have hkeys : (fields.map fun field => (field.1, field.2.document)).map Prod.fst
      = fields.map Prod.fst := by
    rw [List.map_map]
    rfl
  rw [Json.document, ofDocument?, Json.named?_fieldDocuments, Option.bind_some,
    ofFields?_of_nodup hopen (hkeys ▸ h)]
  simp only [SortedMap.lookup_map_snd]
  rfl

/-- **An object is read field by field**, in whatever order its fields stand. -/
theorem ofJson?_arranged (hopen : r.closed = false) (hv : v = .object fields)
    (h : (fields.map Prod.fst).Nodup) :
    r.ofJson? v.arranged = some (r.names.map fun name => (v.field? name).map Json.arranged) := by
  subst hv
  have hnames := (SortedMap.sorted_ofList (Json.arrangedFields fields)).nodup_keys
  have hfields := Json.field?_arranged h
  rw [Json.arranged] at hfields
  rw [Json.arranged, ofJson?, ofFields?_of_nodup hopen hnames]
  simp only [Json.field?] at hfields ⊢
  simp only [hfields]

end Record

/-! ## Fields that may be left out -/

namespace RunResult

variable {α : Type}

lemma keys_optionalField (name : String) (toJson : α → Json) (value : Option α) :
    ((optionalField name toJson value).map Prod.fst).Sublist [name] := by
  cases value <;> simp [optionalField]

lemma mem_optionalField {name : String} {toJson : α → Json} {value : Option α}
    {field : String × Json} (h : field ∈ optionalField name toJson value) :
    ∃ a ∈ value, field = (name, toJson a) := by
  cases value with
  | none => exact absurd h List.not_mem_nil
  | some a => exact ⟨a, rfl, List.mem_singleton.mp h⟩

/-- A field that is left out without a value is there exactly with one. -/
lemma lookup_optionalField (name other : String) (toJson : α → Json) (value : Option α) :
    (optionalField name toJson value).lookup other
      = if other = name then value.map toJson else none := by
  by_cases hname : other = name
  · cases value <;> simp [optionalField, hname]
  · cases value <;> simp [optionalField, hname, List.lookup_cons, beq_false_of_ne hname]

end RunResult

namespace Verdict

lemma keys_toField (name : String) (v : Verdict) :
    ((v.toField name).map Prod.fst).Sublist [name] := by
  cases v <;> simp [toField, toOption]

lemma mem_toField {name : String} {v : Verdict} {field : String × Json}
    (h : field ∈ v.toField name) : ∃ b ∈ v.toOption, field = (name, .bool b) := by
  cases v <;> simp_all [toField, toOption]

/-- The field of a verdict is there exactly if the test was run. -/
lemma lookup_toField (name other : String) (v : Verdict) :
    (v.toField name).lookup other = if other = name then v.toOption.map .bool else none := by
  by_cases hname : other = name
  · cases v <;> simp [toField, toOption, hname]
  · cases v <;> simp [toField, toOption, hname, List.lookup_cons, beq_false_of_ne hname]

/-- A verdict is read from its field, or from the lack of it. -/
lemma ofField?_document (v : Verdict) :
    ofField? ((v.toOption.map Json.bool).map Json.document) = some v := by
  cases v <;> rfl

end Verdict

/-! ## Values of fields -/

namespace Json

lemma integerRange_toNat (n : UInt64) : IntegerRange n.toNat :=
  ⟨le_trans (by decide) (Int.natCast_nonneg _), Int.ofNat_lt.mpr n.toNat_lt⟩

lemma integerRange_toInt (n : Int64) : IntegerRange n.toInt :=
  ⟨n.le_toInt, lt_trans n.toInt_lt (by decide)⟩

end Json

/-- A number whose numeral is read as an integer is that integer. -/
lemma JsonNumber.eq_int_of_number? {n : JsonNumber} {i : Int}
    (h : n.numeral.number? = some (.int i)) : n = .int i := by
  cases n with
  | int k =>
      obtain ⟨digits, hnumeral, hvalue, -⟩ := Numeral.number?_eq_int_iff.mp h
      obtain ⟨hsign, rfl⟩ := by simpa [numeral, Numeral.ofInt] using hnumeral
      rw [Nat.ofDigitChars_ten_toDigits] at hvalue
      rw [show k = i by omega]
  | float x =>
      rw [numeral, Numeral.number?, x.not_integer_numeral, Bool.false_and,
        if_neg Bool.false_ne_true] at h
      obtain ⟨y, -, hy⟩ := Option.map_eq_some_iff.mp h
      cases hy

namespace Document

lemma int?_document {i : Int} (h : Json.IntegerRange i) :
    (Json.ofInt i).document.int? = some i := by
  rw [Json.ofInt, Json.document, int?]
  simp only [JsonNumber.numeral, Numeral.number?_ofInt h]

/-- An unsigned 64-bit number is read as it was written. -/
lemma uint64?_document (n : UInt64) : (Json.ofInt n.toNat).document.uint64? = some n := by
  have hrange := Json.integerRange_toNat n
  have hlow : (0 : Int) ≤ n.toNat := Int.natCast_nonneg _
  rw [uint64?, int?_document hrange, Option.bind_eq_bind, Option.bind_some,
    if_pos ⟨hlow, hrange.2⟩, Int.toNat_natCast, UInt64.ofNat_toNat]

/-- An integer is read as what its numeral is read as. -/
lemma int?_number_iff {m : Numeral} {i : Int} :
    (number m).int? = some i ↔ m.number? = some (.int i) := by
  rw [int?]
  split <;> simp_all

/-- A signed 64-bit number is an integer in its range. -/
lemma int64?_eq_some_iff_int? {d : Document} {n : Int64} :
    d.int64? = some n ↔ d.int? = some n.toInt := by
  rw [int64?, Option.bind_eq_bind]
  constructor
  · intro h
    obtain ⟨i, hi, h⟩ := Option.bind_eq_some_iff.mp h
    split_ifs at h with hfits
    cases h
    rwa [Int64.toInt_ofInt_of_le hfits.1 hfits.2]
  · intro h
    have hfits : -Int.pow 2 63 ≤ n.toInt ∧ n.toInt < Int.pow 2 63 := ⟨n.le_toInt, n.toInt_lt⟩
    rw [h, Option.bind_some, if_pos hfits, Int64.ofInt_toInt]

/-- A signed 64-bit number is read as it was written. -/
lemma int64?_document (n : Int64) : (Json.ofInt n.toInt).document.int64? = some n :=
  int64?_eq_some_iff_int?.mpr (int?_document (Json.integerRange_toInt n))

/-- **A written value is read as a signed 64-bit number** exactly if it is one. -/
lemma int64?_document_iff {v : Json} {n : Int64} :
    v.document.int64? = some n ↔ v = .ofInt n.toInt := by
  rw [int64?_eq_some_iff_int?]
  constructor
  · intro h
    cases v with
    | number m => rw [JsonNumber.eq_int_of_number? (int?_number_iff.mp h), Json.ofInt]
    | _ => cases h
  · rintro rfl
    exact int?_document (Json.integerRange_toInt n)

lemma string?_document (s : String) : (Json.string s).document.string? = some s := rfl

/-- A finite number whose text is read back is read as it was written. -/
lemma binary64?_document {x : Binary64} (hfinite : x.isFinite = true) (h : x.ReadsBack) :
    (Json.ofBinary64 x).document.binary64? = some x := by
  rw [Json.ofBinary64, if_pos hfinite, Json.document, binary64?]
  simp only [JsonNumber.numeral, Binary64.readsBack_iff.mp h]

variable {α : Type}

/-- An optional field is read as its value, if that is not written as null. -/
lemma optional_document {read : Document → Option α} {toJson : α → Json} {value : Option α}
    (hnull : ∀ a, toJson a ≠ .null) (hread : ∀ a ∈ value, read (toJson a).document = some a) :
    optional read ((value.map toJson).map Json.document) = some value := by
  cases value with
  | none => rfl
  | some a =>
      rw [Option.map_some, Option.map_some, optional.eq_3]
      · rw [hread a rfl, Option.map_some]
      · intro hdocument
        cases hjson : toJson a <;> simp [hjson, Json.document] at hdocument
        exact hnull a hjson

/-- A value of an optional field was read from a document. -/
lemma exists_of_optional {read : Document → Option α} {field : Option Document} {a : α}
    (h : optional read field = some (some a)) : ∃ d, read d = some a := by
  rw [optional.eq_def] at h
  split at h
  · cases h
  · cases h
  · obtain ⟨b, hb, heq⟩ := Option.map_eq_some_iff.mp h
    cases heq
    exact ⟨_, hb⟩

/-! ## What fields tell -/

/-- **A document is an integer of 64 bits**: a numeral without fraction and exponent, with a sign
exactly if the integer is negative. -/
def IsInteger (d : Document) (n : Int64) : Prop :=
  ∃ digits, d = .number ⟨decide (n.toInt < 0), digits, [], none⟩ ∧
    n.toInt.natAbs = Nat.ofDigitChars 10 digits 0

/-- A document is a text: a string in which every surrogate is half of a pair. -/
def IsText (d : Document) (s : String) : Prop := d = .string (some s)

/-- **What a field tells that may be left out**: nothing if it is missing or null. -/
inductive Tells (IsValue : Document → α → Prop) : Option Document → Option α → Prop
  | missing : Tells IsValue none none
  | null : Tells IsValue (some .null) none
  | value {d : Document} {a : α} (h : IsValue d a) : Tells IsValue (some d) (some a)

/-- What is read as a signed 64-bit number is one. -/
lemma int64?_eq_some_iff {d : Document} {n : Int64} : d.int64? = some n ↔ d.IsInteger n := by
  rw [int64?_eq_some_iff_int?, IsInteger]
  cases d with
  | number m =>
      rw [int?_number_iff, Numeral.number?_eq_int_iff]
      simp [Json.integerRange_toInt]
  | _ => simp [int?]

lemma string?_eq_some_iff {d : Document} {s : String} : d.string? = some s ↔ d.IsText s := by
  cases d <;> simp [string?, IsText]

/-- A field that may be left out is read as what it tells. -/
lemma optional_eq_some_iff {read : Document → Option α} {IsValue : Document → α → Prop}
    (hread : ∀ {d a}, read d = some a ↔ IsValue d a) (hnull : read .null = none)
    {field : Option Document} {value : Option α} :
    optional read field = some value ↔ Tells IsValue field value := by
  constructor
  · intro h
    rw [optional.eq_def] at h
    split at h
    · cases h
      exact .missing
    · cases h
      exact .null
    · obtain ⟨a, ha, rfl⟩ := Option.map_eq_some_iff.mp h
      exact .value (hread.mp ha)
  · intro h
    cases h with
    | missing => rfl
    | null => rfl
    | @value d a h =>
        have ha := hread.mpr h
        rw [optional.eq_3, ha, Option.map_some]
        rintro rfl
        rw [hnull] at ha
        cases ha

/-- A field tells something if it is there and not null. -/
lemma isSome_of_optional {read : Document → Option α} {d : Document} {value : Option α}
    (h : optional read (some d) = some value) (hd : d ≠ .null) : value.isSome = true := by
  rw [optional.eq_3 _ _ hd] at h
  obtain ⟨a, -, rfl⟩ := Option.map_eq_some_iff.mp h
  rfl

end Document
end LedgerCheck
