import LedgerCheck.Proofs.Counter.Count

/-!
# Which texts describe a snapshot

The fields of an object are taken one by one, in byte order of their names and each name once.  The
first field that is neither the coverage nor a count of a counter ends the run with an error about
it; what was taken before makes no difference to what a field does.

* `Snapshot.addField_cases` — what one field does: it is the coverage, or a count, or offends.
* `Snapshot.value_of_addFields` — what stands in a snapshot after all fields.
* **`Snapshot.read_counts`** — which texts are accepted, which counts they give, and which field an
  error is about.
-/

namespace LedgerCheck

/-! ## One field -/

/-- The field that an error is about. -/
def SnapshotError.name? : SnapshotError → Option String
  | .notJson | .notObject => none
  | .coverageNotNumber => some Snapshot.coverageName
  | .unknownCounter name | .notInteger name _ | .notDecimal name | .notCount name _
  | .negative name => some name

/-- The wording of an error quotes the name of the field that it is about. -/
lemma SnapshotError.message_of_name? {e : SnapshotError} {name : String} (h : e.name? = some name) :
    ∃ before after, e.message = before ++ name ++ after := by
  cases e with
  | notJson => cases h
  | notObject => cases h
  | coverageNotNumber =>
      cases h
      exact ⟨"", " must be a number", by decide⟩
  | unknownCounter name =>
      cases h
      exact ⟨"unknown counter '", "'", rfl⟩
  | negative name =>
      cases h
      exact ⟨"counter '", "' must not be negative", rfl⟩
  | notInteger name value =>
      cases h
      exact ⟨"invalid value for counter '", _, String.append_assoc ..⟩
  | notDecimal name =>
      cases h
      exact ⟨"invalid value for counter '", _, String.append_assoc ..⟩
  | notCount name value =>
      cases h
      exact ⟨"invalid value for counter '", _, String.append_assoc ..⟩

lemma Counter.ofName?_eq_some_iff {name : String} {counter : Counter} :
    ofName? name = some counter ↔ counter.name = name := by
  constructor
  · intro h
    have hname := List.find?_some h
    exact eq_of_beq hname
  · rintro rfl
    cases counter <;> decide

lemma Counter.name_ne_coverageName (counter : Counter) : counter.name ≠ Snapshot.coverageName := by
  cases counter <;> decide

namespace Snapshot

/-- A field that is taken: a number for the coverage, or a count for a counter. -/
def Takes (name : String) (v : Json) : Prop :=
  (name = coverageName ∧ ∃ k, v = .number k) ∨
    ∃ counter : Counter, counter.name = name ∧ ∃ n : Nat, counterValue name v = .ok n

/-- The coverage is set by any number. -/
lemma addField_coverage (v : Json) :
    (∃ k x, v = .number k ∧ ∀ s, addField s coverageName v = .ok (s.withCoverage x)) ∨
    ((∀ k, v ≠ .number k) ∧ ∀ s, addField s coverageName v = .error .coverageNotNumber) := by
  cases v with
  | number k =>
      cases k with
      | int i => exact Or.inl ⟨_, Binary64.ofInt i, rfl, fun s => rfl⟩
      | float x => exact Or.inl ⟨_, x, rfl, fun s => rfl⟩
  | _ => exact Or.inr ⟨by simp, fun s => rfl⟩

lemma name?_of_counterValue {name : String} {v : Json} {e : SnapshotError}
    (h : counterValue name v = .error e) : e.name? = some name := by
  rw [counterValue.eq_def] at h
  split at h
  · cases h
  · cases h
    rfl
  · split at h
    · cases h
    · cases h
      rfl
  · cases h
    rfl

/-- A counter is set by a count. -/
lemma addField_counter (counter : Counter) (v : Json) :
    (∃ n : Nat, counterValue counter.name v = .ok n ∧
      ∀ s, addField s counter.name v = .ok (s.set counter n)) ∨
    ((∀ n : Nat, counterValue counter.name v ≠ .ok n) ∧ ∃ e : SnapshotError,
      e.name? = some counter.name ∧ ∀ s, addField s counter.name v = .error e) := by
  have hfield (s : Snapshot) : addField s counter.name v
      = (counterValue counter.name v).bind fun i =>
        if i < 0 then .error (.negative counter.name) else .ok (s.set counter i) := by
    rw [addField.eq_def, if_neg counter.name_ne_coverageName,
      Counter.ofName?_eq_some_iff.mpr rfl]
    cases counterValue counter.name v <;> rfl
  cases hvalue : counterValue counter.name v with
  | error e =>
      refine Or.inr ⟨by simp, e, name?_of_counterValue hvalue, fun s => ?_⟩
      rw [hfield, hvalue, Except.bind]
  | ok i =>
      by_cases hnegative : i < 0
      · refine Or.inr ⟨?_, .negative counter.name, rfl, fun s => ?_⟩
        · rintro n heq
          have hi : i = n := Except.ok.inj heq
          omega
        · rw [hfield, hvalue, Except.bind, if_pos hnegative]
      · obtain ⟨n, rfl⟩ := Int.eq_ofNat_of_zero_le (not_lt.mp hnegative)
        refine Or.inl ⟨n, rfl, fun s => ?_⟩
        rw [hfield, hvalue, Except.bind, if_neg hnegative]

/-- **What one field does**: it sets the coverage, or it sets a counter to a count, or it offends.
What was set before makes no difference. -/
lemma addField_cases (name : String) (v : Json) :
    (name = coverageName ∧ Takes name v ∧ ∃ x, ∀ s, addField s name v = .ok (s.withCoverage x)) ∨
    (∃ counter : Counter, counter.name = name ∧ Takes name v ∧ ∃ n : Nat,
      counterValue name v = .ok n ∧ ∀ s, addField s name v = .ok (s.set counter n)) ∨
    (¬ Takes name v ∧ ∃ e : SnapshotError,
      e.name? = some name ∧ ∀ s, addField s name v = .error e) := by
  by_cases hname : name = coverageName
  · subst hname
    rcases addField_coverage v with ⟨k, x, hv, hadd⟩ | ⟨hv, hadd⟩
    · exact Or.inl ⟨rfl, Or.inl ⟨rfl, k, hv⟩, x, hadd⟩
    · refine Or.inr (Or.inr ⟨?_, .coverageNotNumber, rfl, hadd⟩)
      rintro (⟨-, k, hk⟩ | ⟨counter, hcounter, -⟩)
      · exact hv k hk
      · exact counter.name_ne_coverageName hcounter
  · cases hcounter : Counter.ofName? name with
    | none =>
        refine Or.inr (Or.inr ⟨?_, .unknownCounter name, rfl, fun s => ?_⟩)
        · rintro (⟨hcoverage, -⟩ | ⟨counter, hcounter', -⟩)
          · exact hname hcoverage
          · rw [Counter.ofName?_eq_some_iff.mpr hcounter'] at hcounter
            cases hcounter
        · rw [addField.eq_def, if_neg hname, hcounter]
    | some counter =>
        obtain rfl := Counter.ofName?_eq_some_iff.mp hcounter
        rcases addField_counter counter v with ⟨n, hn, hadd⟩ | ⟨hn, e, he, hadd⟩
        · exact Or.inr (Or.inl ⟨counter, rfl, Or.inr ⟨counter, rfl, n, hn⟩, n, hn, hadd⟩)
        · refine Or.inr (Or.inr ⟨?_, e, he, hadd⟩)
          rintro (⟨hcoverage, -⟩ | ⟨-, -, n, hn'⟩)
          · exact hname hcoverage
          · exact hn n hn'

/-- What a field leaves in a counter: its own count, or what was there. -/
lemma value_of_addField {name : String} {v : Json} {s s' : Snapshot}
    (h : s.addField name v = .ok s') (counter : Counter) :
    (counter.name = name →
      ∃ n : Nat, counterValue counter.name v = .ok n ∧ s'.value counter = some (n : Int)) ∧
    (counter.name ≠ name → s'.value counter = s.value counter) := by
  rcases addField_cases name v with
    ⟨hcoverage, -, x, hadd⟩ | ⟨counter', rfl, -, n, hn, hadd⟩ | ⟨-, e, -, hadd⟩
  · cases (hadd s).symm.trans h
    exact ⟨fun hname => absurd (hname.trans hcoverage) counter.name_ne_coverageName, fun _ => rfl⟩
  · cases (hadd s).symm.trans h
    refine ⟨fun hname => ?_, fun hname => ?_⟩
    · obtain rfl : counter = counter' := by
        have hcounter := Counter.ofName?_eq_some_iff.mpr hname
        rw [Counter.ofName?_eq_some_iff.mpr rfl] at hcounter
        exact (Option.some.inj hcounter).symm
      exact ⟨n, hn, if_pos rfl⟩
    · refine if_neg ?_
      rintro rfl
      exact hname rfl
  · cases (hadd s).symm.trans h

/-! ## All fields -/

/-- Fields that are all taken make a snapshot. -/
lemma exists_addFields {entries : List (String × Json)} (s : Snapshot)
    (h : ∀ entry ∈ entries, Takes entry.1 entry.2) : ∃ s', s.addFields entries = .ok s' := by
  induction entries generalizing s with
  | nil => exact ⟨s, rfl⟩
  | cons entry rest ih =>
      obtain ⟨name, v⟩ := entry
      rw [List.forall_mem_cons] at h
      rw [addFields]
      rcases addField_cases name v with ⟨-, -, x, hadd⟩ | ⟨counter, -, -, n, -, hadd⟩ | ⟨hno, -⟩
      · rw [hadd]
        exact ih _ h.2
      · rw [hadd]
        exact ih _ h.2
      · exact absurd h.1 hno

/-- **The first offending field** is the one that the error is about. -/
lemma exists_of_addFields_error {entries : List (String × Json)} {s : Snapshot} {e : SnapshotError}
    (h : s.addFields entries = .error e) :
    ∃ before name v after, entries = before ++ (name, v) :: after ∧
      (∀ entry ∈ before, Takes entry.1 entry.2) ∧ ¬ Takes name v ∧ e.name? = some name := by
  induction entries generalizing s with
  | nil => cases h
  | cons entry rest ih =>
      obtain ⟨name, v⟩ := entry
      rw [addFields] at h
      have hlater (s' : Snapshot) (htakes : Takes name v) (hrest : s'.addFields rest = .error e) :
          ∃ before name' v' after, (name, v) :: rest = before ++ (name', v') :: after ∧
            (∀ entry ∈ before, Takes entry.1 entry.2) ∧ ¬ Takes name' v' ∧
              e.name? = some name' := by
        obtain ⟨before, name', v', after, rfl, hbefore, hoffends⟩ := ih hrest
        exact ⟨(name, v) :: before, name', v', after, rfl,
          List.forall_mem_cons.mpr ⟨htakes, hbefore⟩, hoffends⟩
      rcases addField_cases name v with
        ⟨-, htakes, x, hadd⟩ | ⟨counter, -, htakes, n, -, hadd⟩ | ⟨hno, e', he', hadd⟩
      · rw [hadd] at h
        exact hlater _ htakes h
      · rw [hadd] at h
        exact hlater _ htakes h
      · rw [hadd] at h
        cases h
        exact ⟨[], name, v, rest, rfl, List.forall_mem_nil _, hno, he'⟩

/-- Every field of a snapshot that was made is taken. -/
lemma takes_of_addFields {entries : List (String × Json)} {s s' : Snapshot}
    (h : s.addFields entries = .ok s') : ∀ entry ∈ entries, Takes entry.1 entry.2 := by
  induction entries generalizing s with
  | nil => exact List.forall_mem_nil _
  | cons entry rest ih =>
      obtain ⟨name, v⟩ := entry
      rw [addFields] at h
      rw [List.forall_mem_cons]
      rcases addField_cases name v with
        ⟨-, htakes, x, hadd⟩ | ⟨counter, -, htakes, n, -, hadd⟩ | ⟨-, e, -, hadd⟩
      · rw [hadd] at h
        exact ⟨htakes, ih h⟩
      · rw [hadd] at h
        exact ⟨htakes, ih h⟩
      · simp [hadd] at h

/-- **What stands in a snapshot**: each counter that is named has its count, and every other one is
as it was. -/
lemma value_of_addFields {entries : List (String × Json)} (hnames : (entries.map Prod.fst).Nodup)
    {s s' : Snapshot} (h : s.addFields entries = .ok s') (counter : Counter) :
    (∀ v, entries.lookup counter.name = some v →
      ∃ n : Nat, counterValue counter.name v = .ok n ∧ s'.value counter = some (n : Int)) ∧
    (entries.lookup counter.name = none → s'.value counter = s.value counter) := by
  induction entries generalizing s with
  | nil =>
      cases h
      exact ⟨by simp, fun _ => rfl⟩
  | cons entry rest ih =>
      obtain ⟨name, v⟩ := entry
      obtain ⟨hnew, hnames'⟩ := List.nodup_cons.mp hnames
      rw [addFields] at h
      cases hadd : s.addField name v with
      | error e => simp [hadd] at h
      | ok s₁ =>
          rw [hadd] at h
          obtain ⟨hset, hkept⟩ := value_of_addField hadd counter
          obtain ⟨hnamed, hunnamed⟩ := ih hnames' h
          rw [List.lookup_cons]
          by_cases hname : counter.name = name
          · have hrest : rest.lookup counter.name = none := by
              rw [List.lookup_eq_none_iff]
              rintro field hfield
              simp only [bne_iff_ne, ne_eq]
              intro heq
              exact hnew (List.mem_map.mpr ⟨field, hfield, heq.symm.trans hname⟩)
            obtain ⟨n, hn, hvalue⟩ := hset hname
            rw [beq_iff_eq.mpr hname]
            refine ⟨?_, by simp⟩
            intro w hw
            cases hw
            exact ⟨n, hn, (hunnamed hrest).trans hvalue⟩
          · rw [beq_false_of_ne hname]
            exact ⟨hnamed, fun hrest => (hunnamed hrest).trans (hkept hname)⟩

/-- Fields that have the same effect make the same snapshot. -/
lemma addFields_congr {entries entries' : List (String × Json)}
    (h : List.Forall₂ (fun a b => ∀ s, addField s a.1 a.2 = addField s b.1 b.2) entries entries')
    (s : Snapshot) : s.addFields entries = s.addFields entries' := by
  induction h generalizing s with
  | nil => rfl
  | @cons a b _ _ hab _ ih =>
      rw [addFields, addFields, hab]
      cases addField s b.1 b.2 with
      | error e => rfl
      | ok s' => exact ih s'

/-! ## Texts -/

/-- **A field that a snapshot may have**: a numeral for the coverage, or a count for a counter. -/
def Admits (name : String) (d : Document) : Prop :=
  (name = coverageName ∧ ∃ m, d = .number m) ∨
    ∃ counter : Counter, counter.name = name ∧ ∃ n, d.WritesCount n

lemma takes_iff_admits {d : Document} {depth : Nat} {v : Json} (h : d.toJsonWithin? depth = some v)
    (name : String) : Takes name v ↔ Admits name d := by
  have hnumber : (∃ k, v = .number k) ↔ ∃ m, d = .number m := by
    constructor
    · rintro ⟨k, rfl⟩
      obtain ⟨m, hm, -⟩ := Document.toJsonWithin?_eq_number_iff.mp h
      exact ⟨m, hm⟩
    · rintro ⟨m, rfl⟩
      rw [Document.toJsonWithin?] at h
      obtain ⟨k, -, hk⟩ := Option.map_eq_some_iff.mp h
      exact ⟨k, hk.symm⟩
  rw [Takes, Admits, hnumber]
  simp only [counterValue_eq_ok_iff h]

section Texts

variable {text : String} {fields : List (Option String × Document)}

/-- The fields of an object, once their values are read, are taken in byte order of their names. -/
lemma read_eq (h : Document.read? text = some (.object fields)) :
    read text = match Document.fieldsWithin? Document.fieldDepth fields with
      | some entries => empty.addFields (SortedMap.ofList entries)
      | none => .error .notJson := by
  rw [read, Document.read?_object h]
  cases Document.fieldsWithin? Document.fieldDepth fields <;> rfl

/-- A snapshot is only made from the fields of an object. -/
lemma exists_entries_of_read {s : Snapshot} (h : read text = .ok s) :
    ∃ fields entries, Document.read? text = some (.object fields) ∧
      Document.fieldsWithin? Document.fieldDepth fields = some entries ∧
      empty.addFields (SortedMap.ofList entries) = .ok s := by
  have hobject : ∃ object, Json.read? text = some (.object object) := by
    rw [read] at h
    cases hjson : Json.read? text with
    | none => simp [hjson] at h
    | some v => cases v <;> simp_all [ofJson]
  obtain ⟨object, hobject⟩ := hobject
  obtain ⟨fields, hfields⟩ := Document.exists_fields_of_read? hobject
  rw [read_eq hfields] at h
  cases hentries : Document.fieldsWithin? Document.fieldDepth fields with
  | none => simp [hentries] at h
  | some entries =>
      rw [hentries] at h
      exact ⟨fields, entries, hfields, hentries, h⟩

/-- The fields of an object that is read as a plain value. -/
lemma exists_entries_of_isSome (h : Document.read? text = some (.object fields))
    (hjson : (Json.read? text).isSome = true) :
    ∃ entries, Document.fieldsWithin? Document.fieldDepth fields = some entries := by
  rw [Document.read?_object h, Option.isSome_map] at hjson
  exact Option.isSome_iff_exists.mp hjson

variable {entries : List (String × Json)}
  (hentries : Document.fieldsWithin? Document.fieldDepth fields = some entries)
include hentries

/-- The last field of a name is the one that is taken. -/
lemma exists_entry {name : String} {d : Document} (h : Document.lastField? fields name = some d) :
    ∃ v, (SortedMap.ofList entries).lookup name = some v ∧
      d.toJsonWithin? Document.fieldDepth = some v := by
  have hlast := Document.lookup_lastField? hentries name
  rw [h, Option.map_some] at hlast
  obtain ⟨v, hv, hd⟩ := Option.map_eq_some_iff.mp hlast.symm
  exact ⟨v, hv, hd.symm⟩

lemma exists_lastField {name : String} {v : Json}
    (h : (SortedMap.ofList entries).lookup name = some v) :
    ∃ d, Document.lastField? fields name = some d ∧
      d.toJsonWithin? Document.fieldDepth = some v := by
  have hlast := Document.lookup_lastField? hentries name
  rw [h, Option.map_some] at hlast
  exact Option.map_eq_some_iff.mp hlast

/-- All fields are taken if the snapshot may have the last one of each name. -/
lemma forall_takes_iff :
    (∀ entry ∈ SortedMap.ofList entries, Takes entry.1 entry.2) ↔
      ∀ name d, Document.lastField? fields name = some d → Admits name d := by
  constructor
  · intro h name d hd
    obtain ⟨v, hv, hread⟩ := exists_entry hentries hd
    exact (takes_iff_admits hread name).mp (h _ (SortedMap.mem_of_lookup hv))
  · rintro h ⟨name, v⟩ hmem
    have hlookup := SortedMap.lookup_of_mem (SortedMap.sorted_ofList entries).nodup_keys hmem
    obtain ⟨d, hd, hread⟩ := exists_lastField hentries hlookup
    exact (takes_iff_admits hread name).mpr (h name d hd)

/-- The error is about the first offending field in byte order of the names. -/
lemma exists_first_offending {s : Snapshot} {e : SnapshotError}
    (h : s.addFields (SortedMap.ofList entries) = .error e) :
    ∃ name d, Document.lastField? fields name = some d ∧ ¬ Admits name d ∧ e.name? = some name ∧
      ∀ name' d', name' < name → Document.lastField? fields name' = some d' → Admits name' d' := by
  obtain ⟨before, name, v, after, hsplit, hbefore, hoffends, hname⟩ := exists_of_addFields_error h
  have hsorted := SortedMap.sorted_ofList entries
  have hentry : (name, v) ∈ SortedMap.ofList entries := by
    rw [hsplit]
    exact List.mem_append_right _ List.mem_cons_self
  obtain ⟨d, hd, hread⟩ :=
    exists_lastField hentries (SortedMap.lookup_of_mem hsorted.nodup_keys hentry)
  have hrefused : ¬ Admits name d := fun hadmits =>
    hoffends ((takes_iff_admits hread name).mpr hadmits)
  refine ⟨name, d, hd, hrefused, hname, ?_⟩
  intro name' d' hlt hd'
  obtain ⟨v', hv', hread'⟩ := exists_entry hentries hd'
  have hmem : (name', v') ∈ before ++ (name, v) :: after := by
    rw [← hsplit]
    exact SortedMap.mem_of_lookup hv'
  refine (takes_iff_admits hread' name').mp ?_
  rcases List.mem_append.mp hmem with hmem | hmem
  · exact hbefore _ hmem
  -- Names from the offending one on are not less than it.
  · have hle : (name', v') = (name, v) ∨ name < name' := by
      rw [hsplit, SortedMap.Sorted, List.pairwise_append] at hsorted
      rcases List.mem_cons.mp hmem with heq | hafter
      · exact Or.inl heq
      · exact Or.inr ((List.pairwise_cons.mp hsorted.2.1).1 _ hafter)
    rcases hle with heq | hgt
    · cases heq
      exact absurd hlt (irrefl_of (· < ·) name)
    · exact absurd (trans_of (· < ·) hlt hgt) (irrefl_of (· < ·) name')

/-- The counters of a snapshot that was made from the fields. -/
lemma get_of_addFields {s : Snapshot} (h : empty.addFields (SortedMap.ofList entries) = .ok s)
    (counter : Counter) :
    (∀ d, Document.lastField? fields counter.name = some d →
      (∃ n, d.WritesCount n) ∧ ∀ n, d.WritesCount n → s.get counter = .ok n) ∧
    (Document.lastField? fields counter.name = none →
      s.get counter = .error (.uninitialized counter)) ∧
    ∀ i, s.get counter = .ok i → 0 ≤ i := by
  obtain ⟨hnamed, hunnamed⟩ :=
    value_of_addFields (SortedMap.sorted_ofList entries).nodup_keys h counter
  have hget {d : Document} (hd : Document.lastField? fields counter.name = some d) :
      ∃ n : Nat, s.get counter = .ok n ∧ ∀ n' : Nat, d.WritesCount n' ↔ n = n' := by
    obtain ⟨v, hv, hread⟩ := exists_entry hentries hd
    obtain ⟨n, hn, hvalue⟩ := hnamed v hv
    refine ⟨n, by rw [get, hvalue], fun n' => ?_⟩
    rw [← counterValue_eq_ok_iff hread counter.name, hn, Except.ok.injEq, Int.natCast_inj]
  have hunset (hnone : Document.lastField? fields counter.name = none) :
      s.get counter = .error (.uninitialized counter) := by
    have hlookup := Document.lookup_lastField? hentries counter.name
    rw [hnone, Option.map_none, eq_comm, Option.map_eq_none_iff] at hlookup
    rw [get, hunnamed hlookup]
    rfl
  refine ⟨fun d hd => ?_, hunset, fun i hi => ?_⟩
  · obtain ⟨n, hn, hcount⟩ := hget hd
    refine ⟨⟨n, (hcount n).mpr rfl⟩, fun n' hn' => ?_⟩
    rw [hn, (hcount n').mp hn']
  · cases hlast : Document.lastField? fields counter.name with
    | none =>
        rw [hunset hlast] at hi
        cases hi
    | some d =>
        obtain ⟨n, hn, -⟩ := hget hlast
        rw [hn] at hi
        cases hi
        exact Int.natCast_nonneg n

end Texts

/-! ## Numerals and strings -/

/-- **The same field**, but that a counter's count may be written in two ways. -/
def SameField (a b : Option String × Document) : Prop :=
  a.1 = b.1 ∧ (a.2 = b.2 ∨
    ∃ counter : Counter, a.1 = some counter.name ∧ ∃ n, a.2.WritesCount n ∧ b.2.WritesCount n)

lemma exists_read_of_writesCount {d : Document} {n : Nat} (h : d.WritesCount n) (depth : Nat) :
    ∃ v, d.toJsonWithin? depth = some v := by
  rcases h with ⟨digits, rfl, hcount⟩ | ⟨s, rfl, -⟩
  · have hnumber := Numeral.number?_eq_natural_iff.mpr ⟨digits, rfl, hcount⟩
    rw [Document.toJsonWithin?, hnumber]
    exact ⟨_, rfl⟩
  · rw [Document.toJsonWithin?]
    exact ⟨_, rfl⟩

lemma addField_of_count {counter : Counter} {v : Json} {n : Nat}
    (h : counterValue counter.name v = .ok n) (s : Snapshot) :
    addField s counter.name v = .ok (s.set counter n) := by
  rcases addField_counter counter v with ⟨n', hn', hadd⟩ | ⟨hno, -⟩
  · rw [h] at hn'
    rw [hadd, ← Except.ok.inj hn']
  · exact absurd h (hno n)

/-- Values of fields that have the same effect, whatever was set before. -/
def SameEffect (name : String) (v w : Json) : Prop := ∀ s, addField s name v = addField s name w

/-- The same field is read as a field of the same effect, if it is read at all. -/
lemma sameEffect_of_sameField {name : Option String} {d d' : Document}
    (h : SameField (name, d) (name, d')) (depth : Nat) :
    (d.toJsonWithin? depth = none ∧ d'.toJsonWithin? depth = none) ∨
      ∃ v w, d.toJsonWithin? depth = some v ∧ d'.toJsonWithin? depth = some w ∧
        ∀ k ∈ name, SameEffect k v w := by
  rcases h.2 with heq | ⟨counter, hname, n, hd, hd'⟩
  · cases heq
    cases hread : d.toJsonWithin? depth with
    | none => exact Or.inl ⟨rfl, rfl⟩
    | some v => exact Or.inr ⟨v, v, rfl, rfl, fun k _ s => rfl⟩
  · obtain ⟨v, hv⟩ := exists_read_of_writesCount hd depth
    obtain ⟨w, hw⟩ := exists_read_of_writesCount hd' depth
    refine Or.inr ⟨v, w, hv, hw, fun k hk s => ?_⟩
    cases hname.symm.trans hk
    rw [addField_of_count ((counterValue_eq_ok_iff hv _).mpr hd),
      addField_of_count ((counterValue_eq_ok_iff hw _).mpr hd')]

lemma fieldsWithin?_of_sameField {fields fields' : List (Option String × Document)}
    (h : List.Forall₂ SameField fields fields') (depth : Nat) :
    (Document.fieldsWithin? depth fields = none ∧ Document.fieldsWithin? depth fields' = none) ∨
      ∃ entries entries', Document.fieldsWithin? depth fields = some entries ∧
        Document.fieldsWithin? depth fields' = some entries' ∧
        List.Forall₂ (SortedMap.RelatedEntry SameEffect) entries entries' := by
  induction h with
  | nil =>
      have hnil : Document.fieldsWithin? depth [] = some [] := by rw [Document.fieldsWithin?]
      exact Or.inr ⟨[], [], hnil, hnil, .nil⟩
  | @cons a b rest rest' hab _ ih =>
      obtain ⟨name, d⟩ := a
      obtain ⟨name', d'⟩ := b
      obtain rfl : name = name' := hab.1
      rw [Document.fieldsWithin?, Document.fieldsWithin?]
      cases name with
      | none => exact Or.inl ⟨rfl, rfl⟩
      | some name =>
          rcases sameEffect_of_sameField hab depth with ⟨hd, hd'⟩ | ⟨v, w, hv, hw, hsame⟩
          · rw [hd, hd']
            exact Or.inl ⟨rfl, rfl⟩
          · rw [hv, hw]
            rcases ih with ⟨hrest, hrest'⟩ | ⟨entries, entries', hrest, hrest', hrelated⟩
            · rw [hrest, hrest']
              exact Or.inl ⟨rfl, rfl⟩
            · rw [hrest, hrest']
              exact Or.inr ⟨_, _, rfl, rfl, .cons ⟨rfl, hsame name rfl⟩ hrelated⟩

/-- **It makes no difference in which way a count is written.** -/
lemma read_of_sameField {text text' : String} {fields fields' : List (Option String × Document)}
    (htext : Document.read? text = some (.object fields))
    (htext' : Document.read? text' = some (.object fields'))
    (h : List.Forall₂ SameField fields fields') : read text = read text' := by
  rw [read_eq htext, read_eq htext']
  rcases fieldsWithin?_of_sameField h Document.fieldDepth with
    ⟨hnone, hnone'⟩ | ⟨entries, entries', hsome, hsome', hrelated⟩
  · rw [hnone, hnone']
  · rw [hsome, hsome']
    refine addFields_congr ?_ empty
    refine (SortedMap.forall₂_ofList hrelated).imp ?_
    rintro ⟨name, v⟩ ⟨name', w⟩ ⟨rfl, hsame⟩
    exact hsame

/-- **Which texts describe a snapshot, and which one.**  A text is accepted if it is a JSON object
and the last field of each name is a number for the coverage or a count for a counter.  Each counter
that is named then has exactly the count that is written, and every other one is uninitialized; a
numeral and a string of the same count give the same snapshot.  The error about an object that is
not accepted is about the first offending name in byte order, and quotes it. -/
theorem read_counts (text : String) :
    ((∃ s, read text = .ok s) ↔
      ∃ fields, Document.read? text = some (.object fields) ∧ (Json.read? text).isSome = true ∧
        ∀ name d, Document.lastField? fields name = some d → Admits name d) ∧
    (∀ s fields, read text = .ok s → Document.read? text = some (.object fields) →
      ∀ counter : Counter,
        (∀ d, Document.lastField? fields counter.name = some d →
          (∃ n, d.WritesCount n) ∧ ∀ n, d.WritesCount n → s.get counter = .ok n) ∧
        (Document.lastField? fields counter.name = none →
          s.get counter = .error (.uninitialized counter)) ∧
        ∀ i, s.get counter = .ok i → 0 ≤ i) ∧
    (∀ e fields, read text = .error e → Document.read? text = some (.object fields) →
      (Json.read? text).isSome = true →
      ∃ name d, Document.lastField? fields name = some d ∧ ¬ Admits name d ∧ e.name? = some name ∧
        (∃ before after, e.message = before ++ name ++ after) ∧
        ∀ name' d', name' < name → Document.lastField? fields name' = some d' → Admits name' d') ∧
    ∀ text' fields fields', Document.read? text = some (.object fields) →
      Document.read? text' = some (.object fields') → List.Forall₂ SameField fields fields' →
      read text' = read text := by
  refine ⟨⟨?_, ?_⟩, ?_, ?_, ?_⟩
  · rintro ⟨s, hs⟩
    obtain ⟨fields, entries, hfields, hentries, hadd⟩ := exists_entries_of_read hs
    refine ⟨fields, hfields, ?_, ?_⟩
    · rw [Document.read?_object hfields, hentries]
      rfl
    · refine (forall_takes_iff hentries).mp fun entry hentry => ?_
      exact takes_of_addFields hadd entry hentry
  · rintro ⟨fields, hfields, hjson, hadmits⟩
    obtain ⟨entries, hentries⟩ := exists_entries_of_isSome hfields hjson
    obtain ⟨s, hs⟩ := exists_addFields empty ((forall_takes_iff hentries).mpr hadmits)
    exact ⟨s, by rw [read_eq hfields, hentries]; exact hs⟩
  · intro s fields hs hfields
    obtain ⟨fields', entries, hfields', hentries, hadd⟩ := exists_entries_of_read hs
    cases hfields.symm.trans hfields'
    exact get_of_addFields hentries hadd
  · intro e fields hread hfields hjson
    obtain ⟨entries, hentries⟩ := exists_entries_of_isSome hfields hjson
    rw [read_eq hfields, hentries] at hread
    obtain ⟨name, d, hd, hoffends, hname, hfirst⟩ := exists_first_offending hentries hread
    exact ⟨name, d, hd, hoffends, hname, SnapshotError.message_of_name? hname, hfirst⟩
  · intro text' fields fields' hfields hfields' hsame
    exact (read_of_sameField hfields hfields' hsame).symm

-- Of the two fields for orphans the last counts, and a count beyond 64 bits is a string.
example :
    let text := "\x7b\"orphans\": 1e2, \"blocks\": \" +18446744073709551616\", \"orphans\": 7\x7d"
    (read text).toOption.map
        (fun s => [Counter.blocks, .orphans, .operations].map fun c => (s.get c).toOption)
      = some [some 18446744073709551616, some 7, none] := by
  decide +kernel

end Snapshot
end LedgerCheck
