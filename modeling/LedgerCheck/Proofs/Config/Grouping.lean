import LedgerCheck.Proofs.Config.Merge

/-!
# Layers that may be merged beforehand

Layers are put one over the other from the first to the last.  Two neighbours may be merged into
one layer beforehand, unless the second of them opens a section again that the first one has
closed: put over a document one by one, they leave nothing of its section, while merged beforehand
they let it show through.  Even then there is no difference if the section that is opened again
covers all of the one that was closed.

* `Json.Reopened` — of three layers the second closes a section, which the third opens again.
* `Json.IsCoveredBy`, `Json.merge_eq_right_iff` — values of which an overlay leaves nothing.
* `Json.merge_assoc_object_iff` — the order of merging objects matters only under common keys.
* **`Json.merge_grouping`** — when neighbours may be merged beforehand; a layer that is put on
  twice is the same as once.
-/

namespace LedgerCheck
namespace Json

/-! ## Overlays that leave nothing -/

/-- What is under an object leaves no trace, if it is no object. -/
lemma merge_of_base_not_isObject {a : Json} (b : Json) (h : a.isObject = false) :
    merge a b = b := by
  cases a with
  | object fields => simp [isObject] at h
  | _ => cases b <;> rfl

/-- **Wherever a value holds something, the other one does so too**, or bars the way there. -/
def IsCoveredBy (x z : Json) : Prop :=
  ∀ path, (x.atKeys? path).isSome = true → z.isBarred path = true ∨ (z.atKeys? path).isSome = true

lemma isCoveredBy_self (x : Json) : x.IsCoveredBy x := fun _ h => Or.inr h

/-- What is no object is covered by anything, as it holds nothing but itself. -/
lemma isCoveredBy_of_not_isObject {x : Json} (z : Json) (h : x.isObject = false) :
    x.IsCoveredBy z := by
  intro path hpath
  cases path with
  | nil => exact Or.inr rfl
  | cons name path =>
      rw [atKeys?_cons_of_not_isObject h] at hpath
      cases hpath

/-- A value is covered by an object if the object has all of its keys, and the values under them are
covered. -/
lemma isCoveredBy_object_iff {x : Json} {fields : List (String × Json)} :
    x.IsCoveredBy (.object fields) ↔
      ∀ name u, x.field? name = some u → ∃ v, fields.lookup name = some v ∧ u.IsCoveredBy v := by
  constructor
  · intro h name u hu
    have hplace (path : List String) : x.atKeys? (name :: path) = u.atKeys? path := by
      rw [atKeys?, hu, Option.bind_some]
    cases hv : fields.lookup name with
    | none =>
        have hname := h [name] (by rw [hplace]; rfl)
        simp [isBarred, atKeys?_cons_object, hv] at hname
    | some v =>
        refine ⟨v, rfl, fun path hpath => ?_⟩
        have hbelow := h (name :: path) (by rwa [hplace])
        rwa [isBarred, atKeys?_cons_object, hv] at hbelow
  · intro h path hpath
    cases path with
    | nil => exact Or.inr rfl
    | cons name path =>
        rw [atKeys?] at hpath
        cases hu : x.field? name with
        | none => simp [hu] at hpath
        | some u =>
            rw [hu] at hpath
            obtain ⟨v, hv, hcovered⟩ := h name u hu
            rw [isBarred, atKeys?_cons_object, hv]
            exact hcovered path hpath

/-- **Of a value that is covered an overlay leaves nothing**, and only of such a value. -/
theorem merge_eq_right_iff {x z : Json} (hx : x.Ordered) (hz : z.Ordered) :
    merge x z = z ↔ x.IsCoveredBy z := by
  constructor
  · intro h path hpath
    by_contra hnot
    rw [not_or, Bool.not_eq_true, Bool.not_eq_true, Option.isSome_eq_false_iff,
      Option.isNone_iff_eq_none] at hnot
    have hplace := atKeys?_merge x hz path
    simp only [h, hnot.1, hnot.2, Bool.false_eq_true, if_false] at hplace
    rw [← hplace] at hpath
    cases hpath
  · intro h
    induction z using induction_on_lookup generalizing x with
    | other z hother => exact merge_of_not_isObject x hother
    | object fields ih =>
        have hfields := (isHereditary_ordered.object_iff fields).mp hz
        refine (ordered_merge hx hz).ext hz (isObject_merge _ _) rfl fun name => ?_
        rw [field?_merge_object x hfields.1]
        cases hv : fields.lookup name with
        | none =>
            cases hu : x.field? name with
            | none => exact hv.symm
            | some u =>
                obtain ⟨v, hv', -⟩ := isCoveredBy_object_iff.mp h name u hu
                rw [hv] at hv'
                cases hv'
        | some v =>
            have hcovered : ((x.field? name).getD .null).IsCoveredBy v := by
              cases hu : x.field? name with
              | none => exact isCoveredBy_of_not_isObject v rfl
              | some u =>
                  obtain ⟨v', hv', hcovered⟩ := isCoveredBy_object_iff.mp h name u hu
                  rw [hv] at hv'
                  cases hv'
                  exact hcovered
            have hbelow := ih name v hv (isHereditary_ordered.field?_getD hx name)
              (hz.of_lookup hv) hcovered
            exact (congrArg some hbelow).trans hv.symm

/-! ## Three layers -/

/-- **A section is closed and opened again**: at a path of keys the first and the third of three
layers hold an object, and the second one holds something else, which may be null. -/
def Reopened (a b c : Json) (path : List String) : Prop :=
  a.HoldsObject path ∧ b.HoldsOther path ∧ c.HoldsObject path

/-- Whatever is closed and opened again anywhere was covered. -/
def ReopensCovered (a b c : Json) : Prop :=
  ∀ path x z, Reopened a b c path → a.atKeys? path = some x → c.atKeys? path = some z →
    x.IsCoveredBy z

section Objects

variable {as bs cs : List (String × Json)}

/-- Under a key a section is closed and opened again by what the three objects have there. -/
lemma reopened_cons_iff {name : String} {path : List String} :
    Reopened (.object as) (.object bs) (.object cs) (name :: path) ↔
      ∃ x y z, as.lookup name = some x ∧ bs.lookup name = some y ∧ cs.lookup name = some z ∧
        Reopened x y z path := by
  simp only [Reopened, HoldsObject, HoldsOther, atKeys?_cons_object]
  cases as.lookup name <;> cases bs.lookup name <;> cases cs.lookup name <;> simp

/-- Objects do not close a section themselves, but the values under their common keys may. -/
lemma reopensCovered_object_iff :
    ReopensCovered (.object as) (.object bs) (.object cs) ↔
      ∀ name x y z, as.lookup name = some x → bs.lookup name = some y → cs.lookup name = some z →
        ReopensCovered x y z := by
  constructor
  · intro h name x y z hx hy hz path u w hreopened hu hw
    refine h (name :: path) u w (reopened_cons_iff.mpr ⟨x, y, z, hx, hy, hz, hreopened⟩) ?_ ?_
    · rwa [atKeys?_cons_object, hx]
    · rwa [atKeys?_cons_object, hz]
  · intro h path u w hreopened hu hw
    cases path with
    | nil =>
        obtain ⟨-, ⟨y, hy, hother⟩, -⟩ := hreopened
        cases hy
        cases hother
    | cons name path =>
        obtain ⟨x, y, z, hx, hy, hz, hreopened⟩ := reopened_cons_iff.mp hreopened
        rw [atKeys?_cons_object, hx] at hu
        rw [atKeys?_cons_object, hz] at hw
        exact h name x y z hx hy hz path u w hreopened hu hw

variable (ha : (Json.object as).Ordered) (hb : (Json.object bs).Ordered)
  (hc : (Json.object cs).Ordered)
include ha hb hc

/-- **The order of merging objects matters only under keys that all three have.**  A key that one of
them lacks holds what the other two make of it, in either order. -/
lemma merge_assoc_object_iff :
    merge (merge (.object as) (.object bs)) (.object cs)
        = merge (.object as) (merge (.object bs) (.object cs)) ↔
      ∀ name x y z, as.lookup name = some x → bs.lookup name = some y → cs.lookup name = some z →
        merge (merge x y) z = merge x (merge y z) := by
  have hbs := ((isHereditary_ordered.object_iff bs).mp hb).1
  have hcs := ((isHereditary_ordered.object_iff cs).mp hc).1
  have hbc : SortedMap.Sorted (mergeFields bs cs) :=
    ((isHereditary_ordered.object_iff _).mp (ordered_merge hb hc)).1
  have hmerged : merge (.object bs) (.object cs) = .object (mergeFields bs cs) := by rw [merge]
  -- under one key the two sides differ at most by the order of merging three values
  have hname (name : String) :
      (merge (merge (.object as) (.object bs)) (.object cs)).field? name
          = (merge (.object as) (merge (.object bs) (.object cs))).field? name ↔
        ∀ x y z, as.lookup name = some x → bs.lookup name = some y → cs.lookup name = some z →
          merge (merge x y) z = merge x (merge y z) := by
    have hbase : (Json.object as).field? name = as.lookup name := rfl
    rw [hmerged, field?_merge_object _ hcs, field?_merge_object _ hbs, field?_merge_object _ hbc,
      lookup_mergeFields hcs, hbase]
    cases as.lookup name <;> cases bs.lookup name <;> cases cs.lookup name <;> simp [merge_null]
  constructor
  · intro h name
    exact (hname name).mp (congrArg (field? name) h)
  · intro h
    refine (ordered_merge (ordered_merge ha hb) hc).ext (ordered_merge ha (ordered_merge hb hc))
      ?_ ?_ fun name => (hname name).mpr (h name)
    · rw [isObject_merge]
      rfl
    · rw [isObject_merge, isObject_merge]
      rfl

end Objects

lemma not_holdsObject_of_not_isObject {v : Json} (h : v.isObject = false) (path : List String) :
    ¬ v.HoldsObject path := by
  rintro ⟨x, hx, hobject⟩
  cases path with
  | nil =>
      cases hx
      rw [h] at hobject
      cases hobject
  | cons name path =>
      rw [atKeys?_cons_of_not_isObject h] at hx
      cases hx

/-- What closes a section without being an object closes it where it stands, and nowhere below. -/
lemma eq_nil_of_reopened {a b c : Json} {path : List String} (hb : b.isObject = false)
    (h : Reopened a b c path) : path = [] := by
  obtain ⟨-, ⟨y, hy, -⟩, -⟩ := h
  cases path with
  | nil => rfl
  | cons name path =>
      rw [atKeys?_cons_of_not_isObject hb] at hy
      cases hy

/-- **Neighbours may be merged beforehand exactly if all that they close and open again is
covered.** -/
theorem merge_assoc_iff {a b c : Json} (ha : a.Ordered) (hb : b.Ordered) (hc : c.Ordered) :
    merge (merge a b) c = merge a (merge b c) ↔ ReopensCovered a b c := by
  induction c using induction_on_lookup generalizing a b with
  | other c hother =>
      rw [merge_of_not_isObject _ hother, merge_of_not_isObject b hother,
        merge_of_not_isObject a hother]
      refine iff_of_true rfl fun path x z hreopened _ _ => ?_
      exact absurd hreopened.2.2 (not_holdsObject_of_not_isObject hother path)
  | object cs ih =>
      cases hbobject : b.isObject with
      | false =>
          rw [merge_of_not_isObject a hbobject, merge_of_base_not_isObject _ hbobject, eq_comm,
            merge_eq_right_iff ha hc]
          constructor
          · intro hcovered path x z hreopened hx hz
            obtain rfl := eq_nil_of_reopened hbobject hreopened
            cases hx
            cases hz
            exact hcovered
          · intro h
            cases haobject : a.isObject with
            | false => exact isCoveredBy_of_not_isObject _ haobject
            | true =>
                exact h [] a _ ⟨⟨a, rfl, haobject⟩, ⟨b, rfl, hbobject⟩, ⟨_, rfl, rfl⟩⟩ rfl rfl
      | true =>
          obtain ⟨bs, rfl⟩ := exists_fields hbobject
          cases haobject : a.isObject with
          | false =>
              rw [merge_of_base_not_isObject _ haobject, merge_of_base_not_isObject _ haobject]
              refine iff_of_true rfl fun path x z hreopened _ _ => ?_
              exact absurd hreopened.1 (not_holdsObject_of_not_isObject haobject path)
          | true =>
              obtain ⟨as, rfl⟩ := exists_fields haobject
              rw [merge_assoc_object_iff ha hb hc, reopensCovered_object_iff]
              constructor
              · intro h name x y z hx hy hz
                exact (ih name z hz (ha.of_lookup hx) (hb.of_lookup hy) (hc.of_lookup hz)).mp
                  (h name x y z hx hy hz)
              · intro h name x y z hx hy hz
                exact (ih name z hz (ha.of_lookup hx) (hb.of_lookup hy) (hc.of_lookup hz)).mpr
                  (h name x y z hx hy hz)

/-- Under an overlay that is put on again nothing is closed that it opens. -/
lemma not_reopened_self (a b : Json) (path : List String) : ¬ Reopened a b b path := by
  rintro ⟨-, ⟨y, hy, hother⟩, ⟨z, hz, hobject⟩⟩
  rw [hy] at hz
  cases hz
  rw [hother] at hobject
  cases hobject

/-- **Neighbouring layers may be merged beforehand**, unless the second of them opens a section
again that the first one has closed.  Then it makes a difference exactly if some section that is
closed held anything that is not covered by what is opened in its place.  Whatever the layers are,
putting one on twice in a row is the same as putting it on once. -/
theorem merge_grouping {a b c : Json} (ha : a.Ordered) (hb : b.Ordered) (hc : c.Ordered) :
    ((∀ path, ¬ Reopened a b c path) → merge (merge a b) c = merge a (merge b c)) ∧
    (merge (merge a b) c = merge a (merge b c) ↔ ReopensCovered a b c) ∧
    merge (merge a b) b = merge a b := by
  have hassoc {c : Json} (hc : c.Ordered) (h : ∀ path, ¬ Reopened a b c path) :
      merge (merge a b) c = merge a (merge b c) :=
    (merge_assoc_iff ha hb hc).mpr fun path _ _ hreopened => absurd hreopened (h path)
  refine ⟨hassoc hc, merge_assoc_iff ha hb hc, ?_⟩
  calc merge (merge a b) b = merge a (merge b b) := hassoc hb (not_reopened_self a b)
    _ = merge a b := by rw [(merge_eq_right_iff hb hb).mpr (isCoveredBy_self b)]

/-- A section to which the last layer adds a key.  The middle layer may leave the section out; if
it has null in its place, merging it with its neighbour beforehand brings a key back. -/
theorem merge_grouping_of_null :
    let data (v : Json) : Json := .object [("data", v)]
    let a := data (.object [("x", .ofInt 1)])
    let c := data (.object [("y", .ofInt 2)])
    (a.Ordered ∧ (Json.object []).Ordered ∧ (data .null).Ordered ∧ c.Ordered) ∧
      merge (merge a (.object [])) c = merge a (merge (.object []) c) ∧
      merge (merge a (data .null)) c ≠ merge a (merge (data .null) c) ∧
      merge (merge a c) c = merge a c := by
  intro data a c
  have ha : a.Ordered := by simp [a, data, ofInt, Ordered, OrderedFields, SortedMap.Sorted]
  have hempty : (Json.object []).Ordered := by simp [Ordered, OrderedFields, SortedMap.Sorted]
  have hnull : (data .null).Ordered := by
    simp [data, Ordered, OrderedFields, SortedMap.Sorted]
  have hc : c.Ordered := by simp [c, data, ofInt, Ordered, OrderedFields, SortedMap.Sorted]
  refine ⟨⟨ha, hempty, hnull, hc⟩, (merge_grouping ha hempty hc).1 ?_, ?_,
    (merge_grouping ha hc hc).2.2⟩
  · rintro path ⟨-, ⟨y, hy, hother⟩, -⟩
    cases path with
    | nil =>
        cases hy
        cases hother
    | cons name path => cases hy
  · rw [ne_eq, (merge_grouping ha hnull hc).2.1]
    intro h
    have hreopened : Reopened a (data .null) c ["data"] :=
      ⟨⟨_, rfl, rfl⟩, ⟨_, rfl, rfl⟩, ⟨_, rfl, rfl⟩⟩
    have hcovered := h ["data"] _ _ hreopened rfl rfl ["x"] rfl
    rcases hcovered with hbarred | hheld
    · cases hbarred
    · cases hheld

end Json
end LedgerCheck
