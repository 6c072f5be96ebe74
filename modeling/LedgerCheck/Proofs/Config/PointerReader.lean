import LedgerCheck.Proofs.Config.Escape
import LedgerCheck.Proofs.Config.Location
import LedgerCheck.Proofs.Text.Digits

/-!
# Reading pointers

A pointer is read in the document that it points into.  It is cut at its slashes, each step is read as
the key that it writes, and this is a key indeed where an object was reached, and the digits of an index
where an array was.

* `Pointer.steps?_ofLocation` — the steps of the pointer of a place are read back.
* `Json.follow?` — the place that a pointer leads to.
* **`Json.follow?_ofLocation`** — the pointer of a place other than the root leads to that place, so that
  no two such places of a document have the same pointer.
-/

namespace LedgerCheck
namespace Pointer

/-! ## Indices -/

/-- The index that a step of a pointer writes: decimal digits without needless zeros in front. -/
def index? (step : String) : Option Nat :=
  let digits := step.toList
  if digits ≠ [] ∧ digits.all Char.isDigit ∧ (digits.head? = some '0' → digits = ['0']) then
    some (Digits.decimal digits)
  else none

lemma toList_index (i : Nat) : (toString i).toList = Nat.toDigits 10 i := by
  rw [Nat.toString_eq_repr, Nat.toList_repr]

lemma index?_toString (i : Nat) : index? (toString i) = some i := by
  have hwhole := Digits.isWhole_toDigits i
  simp only [index?, toList_index]
  rw [if_pos ⟨hwhole.ne_nil, List.all_eq_true.mpr hwhole.isDigit, hwhole.alone⟩,
    Digits.decimal_toDigits]

/-! ## Steps -/

/-- The steps of a pointer, read as keys.  The empty pointer has none, and every other one starts with
a slash. -/
def steps? (pointer : String) : Option (List String) :=
  match pointer.toList.splitOn '/' with
  | [] :: steps => some (steps.map fun step => unescape (String.ofList step))
  | _ => none

end Pointer

/-- The key that a step is read as, before it is known where it leads. -/
def Step.name : Step → String
  | .key name => name
  | .index i => toString i

namespace Pointer

lemma unescape_ofStep (step : Step) : unescape (ofStep step) = step.name := by
  cases step with
  | key name => exact unescape_escape name
  | index i =>
      have hplain (first : Char) (hfirst : first.isDigit = false) :
          first ∉ (ofStep (.index i)).toList := by
        intro hmem
        rw [isDigit_of_mem_index hmem] at hfirst
        cases hfirst
      rw [unescape, replacePair_of_not_mem (hplain '~' rfl), replacePair_of_not_mem (hplain '~' rfl),
        String.ofList_toList]
      rfl

/-- The characters of a pointer are its steps with slashes between them, behind an empty one. -/
lemma locationChars_eq_intercalate (place : Location) :
    locationChars place = ['/'].intercalate ([] :: place.map fun step => (ofStep step).toList) := by
  have hstart (part : List Char) (parts : List (List Char)) :
      ['/'].intercalate ([] :: part :: parts) = '/' :: ['/'].intercalate (part :: parts) := by
    rw [List.intercalate_cons_cons, List.nil_append, List.singleton_append]
  induction place with
  | nil => rfl
  | cons step rest ih =>
      rw [locationChars, List.flatMap_cons, ← locationChars, ih, List.map_cons, hstart]
      cases rest with
      | nil => simp
      | cons next rest =>
          rw [List.map_cons, hstart, List.intercalate_cons_cons, List.append_assoc]
          rfl

/-- **The steps of the pointer of a place** are read back, one by one. -/
lemma steps?_ofLocation {place : Location} (h : place ≠ []) :
    steps? (ofLocation place) = some (place.map Step.name) := by
  have hslash : ∀ part ∈ [] :: place.map fun step => (ofStep step).toList, '/' ∉ part := by
    simp only [List.mem_cons, List.mem_map]
    rintro part (rfl | ⟨step, -, rfl⟩) hmem
    · exact absurd hmem List.not_mem_nil
    · exact ne_slash_of_mem_ofStep hmem rfl
  rw [steps?, toList_ofLocation h, locationChars_eq_intercalate,
    List.splitOn_intercalate '/' hslash (List.cons_ne_nil _ _)]
  simp only [List.map_map, Option.some.injEq]
  refine List.map_congr_left fun step _ => ?_
  rw [Function.comp_apply, String.ofList_toList, unescape_ofStep]

end Pointer

namespace Json

/-! ## Following a pointer -/

/-- The step into a value that a name means: a key of an object, or an index of an array. -/
def stepNamed? (name : String) : Json → Option Step
  | .object _ => some (.key name)
  | .array _ => (Pointer.index? name).map .index
  | _ => none

/-- The place inside a value that names lead to. -/
def locate? : List String → Json → Option Location
  | [], _ => some []
  | name :: names, v =>
    (v.stepNamed? name).bind fun step =>
      (v.child? step).bind fun w => (locate? names w).map (step :: ·)

/-- **The place in a document that a pointer leads to.** -/
def follow? (v : Json) (pointer : String) : Option Location :=
  (Pointer.steps? pointer).bind fun names => v.locate? names

/-- A step into a value is the one that its name means there. -/
lemma stepNamed?_of_child? {v w : Json} {step : Step} (h : v.child? step = some w) :
    v.stepNamed? step.name = some step := by
  cases step with
  | key name =>
      cases v with
      | object fields => rfl
      | _ => cases h
  | index i =>
      cases v with
      | array items => rw [Step.name, stepNamed?, Pointer.index?_toString, Option.map_some]
      | _ => cases h

lemma locate?_of_at? {v x : Json} {place : Location} (h : v.at? place = some x) :
    v.locate? (place.map Step.name) = some place := by
  induction place generalizing v with
  | nil => rfl
  | cons step rest ih =>
      obtain ⟨w, hw, hrest⟩ := Option.bind_eq_some_iff.mp h
      rw [List.map_cons, locate?, stepNamed?_of_child? hw, Option.bind_some, hw, Option.bind_some,
        ih hrest, Option.map_some]

/-- **The pointer of a place leads to that place**, unless it is the root, whose pointer leads to an
empty key. -/
theorem follow?_ofLocation {v x : Json} {place : Location} (hne : place ≠ [])
    (h : v.at? place = some x) : v.follow? (Pointer.ofLocation place) = some place := by
  rw [follow?, Pointer.steps?_ofLocation hne, Option.bind_some, locate?_of_at? h]

end Json
end LedgerCheck
