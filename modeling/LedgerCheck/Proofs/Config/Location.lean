import LedgerCheck.Proofs.Config.Prefixes
import LedgerCheck.Proofs.SortedMap

/-!
# Places in a document

A place is the way to a value inside a document, over keys and indices.  Its pointer writes it as a
text, in which no key looks like two and no consumed key looks like an index.

* `Location` — a place, as the steps of the way; `Json.at?` — the value there.
* `Pointer.ofLocation` — the pointer of a place; `Json.mem_leafPointers` says that the pointer of
  every leaf of a document is found.
* `Pointer.exists_rest_of_append` — a pointer that goes on from the pointer of plain keys belongs to
  a place behind these keys.
* **`UnusedKeys.exists_path_of_isClean`** — without unused keys, every leaf stands at or behind the
  keys of a consumed pointer.
-/

namespace LedgerCheck

/-- A step into a value. -/
inductive Step where
  | key (name : String)
  | index (i : Nat)
deriving DecidableEq

/-- The step leads into a list. -/
def Step.isIndex : Step → Bool
  | .key _ => false
  | .index _ => true

/-- The way to a value inside a document. -/
abbrev Location := List Step

namespace Location

/-- The way over keys alone. -/
def ofKeys (path : List String) : Location := path.map .key

end Location

namespace Json

/-- The value is neither an object nor an array. -/
def isLeaf : Json → Bool
  | .object _ => false
  | .array _ => false
  | _ => true

/-- The value one step into a value. -/
def child? : Step → Json → Option Json
  | .key name, v => v.field? name
  | .index i, .array items => items[i]?
  | .index _, _ => none

/-- The value at a place. -/
def at? : Location → Json → Option Json
  | [], v => some v
  | step :: place, v => (v.child? step).bind (at? place)

lemma at?_append (first rest : Location) (v : Json) :
    v.at? (first ++ rest) = (v.at? first).bind (at? rest) := by
  induction first generalizing v with
  | nil => rfl
  | cons step first ih =>
      rw [List.cons_append, at?, at?, Option.bind_assoc]
      exact congrArg _ (funext ih)

/-- On the way over keys alone, a place is a path. -/
lemma at?_ofKeys (path : List String) (v : Json) :
    v.at? (Location.ofKeys path) = v.atKeys? path := by
  induction path generalizing v with
  | nil => rfl
  | cons name path ih =>
      rw [Location.ofKeys, List.map_cons, at?, atKeys?]
      exact congrArg _ (funext ih)

/-- There is nothing below a leaf. -/
lemma at?_of_isLeaf {v x : Json} {place : Location} (hv : v.isLeaf = true)
    (h : v.at? place = some x) : place = [] ∧ x = v := by
  cases place with
  | nil => exact ⟨rfl, (Option.some.inj h).symm⟩
  | cons step place =>
      cases v <;> cases step <;> simp [at?, child?, field?, isLeaf] at h hv

end Json

/-! ## Pointers of places -/

namespace Pointer

/-- A step as a part of a pointer. -/
def ofStep : Step → String
  | .key name => escape name
  | .index i => toString i

/-- The pointer of a place that is reached from the value at a pointer. -/
def extend (pointer : String) (place : Location) : String :=
  place.foldl (fun pointer step => child pointer (ofStep step)) pointer

/-- The pointer of a place; the root has a pointer of its own. -/
def ofLocation (place : Location) : String :=
  if place = [] then "/" else extend "" place

/-- The characters of the pointer of a place. -/
def locationChars (place : Location) : List Char :=
  place.flatMap fun step => '/' :: (ofStep step).toList

lemma toList_extend (pointer : String) (place : Location) :
    (extend pointer place).toList = pointer.toList ++ locationChars place := by
  induction place generalizing pointer with
  | nil => simp [extend, locationChars]
  | cons step place ih =>
      rw [extend, List.foldl_cons]
      have hrest := ih (child pointer (ofStep step))
      rw [extend] at hrest
      rw [hrest]
      simp [child, locationChars]

/-- An index is written in digits. -/
lemma isDigit_of_mem_index {i : Nat} {c : Char} (h : c ∈ (ofStep (.index i)).toList) :
    c.isDigit = true := by
  rw [ofStep, Nat.toString_eq_repr, Nat.toList_repr] at h
  exact Nat.isDigit_of_mem_toDigits (by decide) (by decide) h

/-- Every part of a pointer starts with a slash. -/
lemma head_locationChars (place : Location) : ∀ c ∈ (locationChars place).head?, c = '/' := by
  cases place with
  | nil => simp [locationChars]
  | cons step place => simp [locationChars]

lemma locationChars_eq_nil_iff {place : Location} : locationChars place = [] ↔ place = [] := by
  cases place <;> simp [locationChars]

lemma extend_eq_empty_iff {place : Location} : extend "" place = "" ↔ place = [] := by
  rw [← String.toList_eq_nil_iff, toList_extend]
  simp [locationChars_eq_nil_iff]

end Pointer

/-! ## The leaves of a document -/

namespace Json

lemma mem_fieldLeaves {fields : List (String × Json)} {name : String} {value : Json}
    {pointer leaf : String} (hfield : (name, value) ∈ fields)
    (h : leaf ∈ value.leavesFrom (Pointer.child pointer (Pointer.escape name))) :
    leaf ∈ fieldLeaves pointer fields := by
  induction fields with
  | nil => exact absurd hfield List.not_mem_nil
  | cons field rest ih =>
      obtain ⟨name', value'⟩ := field
      rw [fieldLeaves, List.mem_append]
      rcases List.mem_cons.mp hfield with heq | hrest
      · cases heq
        exact Or.inl h
      · exact Or.inr (ih hrest)

/-- A leaf of an object is a leaf of one of its fields. -/
lemma exists_field_of_mem_fieldLeaves {fields : List (String × Json)} {pointer leaf : String}
    (h : leaf ∈ fieldLeaves pointer fields) :
    ∃ field ∈ fields,
      leaf ∈ field.2.leavesFrom (Pointer.child pointer (Pointer.escape field.1)) := by
  induction fields with
  | nil =>
      rw [fieldLeaves] at h
      exact absurd h List.not_mem_nil
  | cons field rest ih =>
      rw [fieldLeaves, List.mem_append] at h
      rcases h with hfirst | hrest
      · exact ⟨field, List.mem_cons_self, hfirst⟩
      · obtain ⟨field', hfield', hleaf⟩ := ih hrest
        exact ⟨field', List.mem_cons_of_mem _ hfield', hleaf⟩

lemma mem_itemLeaves {items : List Json} {index i : Nat} {item : Json} {pointer leaf : String}
    (hitem : items[i]? = some item)
    (h : leaf ∈ item.leavesFrom (Pointer.child pointer (toString (index + i)))) :
    leaf ∈ itemLeaves pointer index items := by
  induction items generalizing index i with
  | nil => simp at hitem
  | cons first rest ih =>
      rw [itemLeaves, List.mem_append]
      cases i with
      | zero =>
          cases hitem
          exact Or.inl h
      | succ i =>
          refine Or.inr (ih hitem ?_)
          rwa [Nat.add_right_comm, Nat.add_assoc]

lemma leavesFrom_of_isLeaf {v : Json} (h : v.isLeaf = true) (pointer : String) :
    v.leavesFrom pointer = [if pointer = "" then "/" else pointer] := by
  cases v <;> simp [isLeaf] at h <;> rw [leavesFrom]

/-- A leaf at a place behind a pointer is found under the pointer of both. -/
lemma mem_leavesFrom {v x : Json} {place : Location} (h : v.at? place = some x)
    (hx : x.isLeaf = true) (pointer : String) :
    (if Pointer.extend pointer place = "" then "/" else Pointer.extend pointer place)
      ∈ v.leavesFrom pointer := by
  induction place generalizing v pointer with
  | nil =>
      cases h
      rw [leavesFrom_of_isLeaf hx]
      exact List.mem_singleton_self _
  | cons step place ih =>
      obtain ⟨w, hw, hrest⟩ := Option.bind_eq_some_iff.mp h
      have hleaf := ih hrest (Pointer.child pointer (Pointer.ofStep step))
      cases step with
      | key name =>
          cases v with
          | object fields =>
              rw [leavesFrom]
              exact mem_fieldLeaves (SortedMap.mem_of_lookup hw) hleaf
          | _ => cases hw
      | index i =>
          cases v with
          | array items =>
              rw [leavesFrom]
              refine mem_itemLeaves hw ?_
              rw [Nat.zero_add]
              exact hleaf
          | _ => cases hw

/-- **The pointer of every leaf of a document is found.** -/
theorem mem_leafPointers {v x : Json} {place : Location} (h : v.at? place = some x)
    (hx : x.isLeaf = true) : Pointer.ofLocation place ∈ v.leafPointers := by
  have hmem := mem_leavesFrom h hx ""
  rw [leafPointers, Pointer.ofLocation]
  simpa only [Pointer.extend_eq_empty_iff] using hmem

/-- A leaf has no other pointer than that of its place. -/
lemma eq_ofLocation_of_mem_leavesFrom {v : Json} (hv : v.isLeaf = true) {place : Location}
    {leaf : String} (h : leaf ∈ v.leavesFrom (Pointer.extend "" place)) :
    leaf = Pointer.ofLocation place := by
  rw [leavesFrom_of_isLeaf hv, List.mem_singleton] at h
  rw [h, Pointer.ofLocation]
  simp only [Pointer.extend_eq_empty_iff]

end Json

/-! ## Places of pointers -/

namespace Pointer

/-- The parts of pointers have no slash in them. -/
lemma ne_slash_of_mem_ofStep {step : Step} {c : Char} (h : c ∈ (ofStep step).toList) : c ≠ '/' := by
  cases step with
  | key name =>
      simp only [ofStep, escape, String.toList_ofList, List.mem_flatMap, escapeChar] at h
      obtain ⟨d, -, hc⟩ := h
      split_ifs at hc with htilde hslash
      · simp only [List.mem_cons, List.not_mem_nil, or_false] at hc
        rcases hc with rfl | rfl <;> decide
      · simp only [List.mem_cons, List.not_mem_nil, or_false] at hc
        rcases hc with rfl | rfl <;> decide
      · rwa [List.mem_singleton.mp hc]
  | index i =>
      rintro rfl
      exact absurd (isDigit_of_mem_index h) (by decide)

/-- **A key that is written as it is**, and that no index is written as. -/
def IsPlain (key : String) : Prop :=
  (∀ c ∈ key.toList, c ≠ '/' ∧ c ≠ '~') ∧ ∃ c ∈ key.toList, c.isDigit = false

lemma escapeChar_of_plain {c : Char} (h : c ≠ '/' ∧ c ≠ '~') : escapeChar c = [c] := by
  rw [escapeChar, if_neg h.2, if_neg h.1]

/-- A text without tildes that a key is written as is the key. -/
lemma flatMap_escapeChar_of_plain {cs : List Char}
    (h : ∀ c ∈ cs.flatMap escapeChar, c ≠ '~') : cs.flatMap escapeChar = cs := by
  induction cs with
  | nil => rfl
  | cons c rest ih =>
      rw [List.flatMap_cons] at h ⊢
      have hc : escapeChar c = [c] := by
        have htilde : ∀ d ∈ escapeChar c, d ≠ '~' := fun d hd => h d (List.mem_append_left _ hd)
        rw [escapeChar] at htilde ⊢
        split_ifs at htilde ⊢ with h₁ h₂
        · exact absurd rfl (htilde '~' List.mem_cons_self)
        · exact absurd rfl (htilde '~' List.mem_cons_self)
        · rfl
      rw [hc, ih fun d hd => h d (List.mem_append_right _ hd)]
      rfl

lemma toList_ofStep_of_plain {key : String} (h : IsPlain key) :
    (ofStep (.key key)).toList = key.toList := by
  rw [ofStep, escape, String.toList_ofList]
  calc key.toList.flatMap escapeChar = key.toList.flatMap fun c => [c] :=
        List.flatMap_congr fun c hc => escapeChar_of_plain (h.1 c hc)
    _ = key.toList := List.flatMap_singleton' _

/-- A step that is written as a plain key is that key. -/
lemma eq_key_of_toList_ofStep {step : Step} {key : String} (hkey : IsPlain key)
    (h : (ofStep step).toList = key.toList) : step = .key key := by
  cases step with
  | key name =>
      rw [ofStep, escape, String.toList_ofList] at h
      have hname : name.toList.flatMap escapeChar = name.toList := by
        refine flatMap_escapeChar_of_plain fun c hc => ?_
        rw [h] at hc
        exact (hkey.1 c hc).2
      rw [String.toList_inj.mp (hname.symm.trans h)]
  | index i =>
      obtain ⟨c, hc, hdigit⟩ := hkey.2
      rw [← h] at hc
      rw [isDigit_of_mem_index hc] at hdigit
      cases hdigit

/-- What stands in front of a slash is determined by the text. -/
lemma append_inj_of_slash {xs ys xs' ys' : List Char} (hxs : ∀ c ∈ xs, c ≠ '/')
    (hxs' : ∀ c ∈ xs', c ≠ '/') (hys : ∀ c ∈ ys.head?, c = '/') (hys' : ∀ c ∈ ys'.head?, c = '/')
    (h : xs ++ ys = xs' ++ ys') : xs = xs' ∧ ys = ys' := by
  induction xs generalizing xs' with
  | nil =>
      cases xs' with
      | nil => exact ⟨rfl, h⟩
      | cons c xs' =>
          rw [List.nil_append] at h
          exact absurd (hys c (by rw [h]; rfl)) (hxs' c List.mem_cons_self)
  | cons c xs ih =>
      cases xs' with
      | nil =>
          rw [List.nil_append] at h
          exact absurd (hys' c (by rw [← h]; rfl)) (hxs c List.mem_cons_self)
      | cons c' xs' =>
          rw [List.cons_append, List.cons_append, List.cons.injEq] at h
          obtain ⟨rfl, hrest⟩ := h
          rw [List.forall_mem_cons] at hxs hxs'
          obtain ⟨rfl, rfl⟩ := ih hxs.2 hxs'.2 hrest
          exact ⟨rfl, rfl⟩

/-- **A pointer that goes on from plain keys** belongs to a place behind these keys. -/
theorem exists_rest_of_append {path : List String} (hpath : ∀ key ∈ path, IsPlain key)
    {place : Location} {tail : List Char} (htail : ∀ c ∈ tail.head?, c = '/')
    (h : locationChars place = locationChars (Location.ofKeys path) ++ tail) :
    ∃ rest, place = Location.ofKeys path ++ rest ∧ locationChars rest = tail := by
  induction path generalizing place with
  | nil => exact ⟨place, rfl, h⟩
  | cons key path ih =>
      rw [List.forall_mem_cons] at hpath
      cases place with
      | nil => simp [locationChars, Location.ofKeys] at h
      | cons step place =>
          have hchars : (ofStep step).toList ++ locationChars place
              = key.toList ++ (locationChars (Location.ofKeys path) ++ tail) := by
            rw [← toList_ofStep_of_plain hpath.1]
            simpa [locationChars, Location.ofKeys] using h
          have hafter : ∀ c ∈ (locationChars (Location.ofKeys path) ++ tail).head?, c = '/' := by
            cases path with
            | nil => exact htail
            | cons key' path' => simp [locationChars, Location.ofKeys]
          obtain ⟨hstep, hrest⟩ := append_inj_of_slash (fun c => ne_slash_of_mem_ofStep)
            (fun c hc => (hpath.1.1 c hc).1) (head_locationChars place) hafter hchars
          obtain ⟨rest, rfl, hbehind⟩ := ih hpath.2 hrest
          obtain rfl := eq_key_of_toList_ofStep hpath.1 hstep
          exact ⟨rest, rfl, hbehind⟩

lemma toList_ofLocation {place : Location} (h : place ≠ []) :
    (ofLocation place).toList = locationChars place := by
  rw [ofLocation, if_neg h, toList_extend]
  rfl

/-- The pointer of the root is the pointer of no plain keys, nor does it go on from it. -/
lemma locationChars_append_ne_slash {path : List String} (hne : path ≠ [])
    (hpath : ∀ key ∈ path, IsPlain key) (tail : List Char) :
    locationChars (Location.ofKeys path) ++ tail ≠ ['/'] := by
  obtain ⟨key, path, rfl⟩ := List.exists_cons_of_ne_nil hne
  have hkey := hpath key List.mem_cons_self
  obtain ⟨c, hc, -⟩ := hkey.2
  obtain ⟨first, more, hchars⟩ := List.exists_cons_of_ne_nil (List.ne_nil_of_mem hc)
  have hstep := toList_ofStep_of_plain hkey
  simp [locationChars, Location.ofKeys, hstep, hchars]

section Covers

variable {path : List String} (hne : path ≠ []) (hpath : ∀ key ∈ path, IsPlain key)
include hne hpath

lemma exists_rest_of_ofLocation {place : Location} {tail : List Char}
    (htail : ∀ c ∈ tail.head?, c = '/')
    (h : (ofLocation place).toList = (ofLocation (Location.ofKeys path)).toList ++ tail) :
    ∃ rest, place = Location.ofKeys path ++ rest ∧ locationChars rest = tail := by
  have hkeys : Location.ofKeys path ≠ [] := by simpa [Location.ofKeys] using hne
  rw [toList_ofLocation hkeys] at h
  by_cases hroot : place = []
  · rw [hroot] at h
    exact absurd h.symm (locationChars_append_ne_slash hne hpath tail)
  · rw [toList_ofLocation hroot] at h
    exact exists_rest_of_append hpath htail h

/-- The pointer of plain keys. -/
lemma toList_ofLocation_ofKeys :
    (ofLocation (Location.ofKeys path)).toList = path.flatMap fun key => '/' :: key.toList := by
  have hkeys : Location.ofKeys path ≠ [] := by simpa [Location.ofKeys] using hne
  rw [toList_ofLocation hkeys, locationChars, Location.ofKeys, List.flatMap_map]
  refine List.flatMap_congr fun key hkey => ?_
  rw [toList_ofStep_of_plain (hpath key hkey)]

/-- **Only one place has the pointer of plain keys.** -/
lemma eq_ofKeys_of_ofLocation {place : Location}
    (h : ofLocation place = ofLocation (Location.ofKeys path)) : place = Location.ofKeys path := by
  have hchars : (ofLocation place).toList = (ofLocation (Location.ofKeys path)).toList ++ [] := by
    rw [h, List.append_nil]
  obtain ⟨rest, rfl, hrest⟩ := exists_rest_of_ofLocation hne hpath (by simp) hchars
  rw [locationChars_eq_nil_iff.mp hrest, List.append_nil]

lemma ofLocation_ofKeys_ne_root : ofLocation (Location.ofKeys path) ≠ "/" := by
  intro hroot
  have hkeys : Location.ofKeys path ≠ [] := by simpa [Location.ofKeys] using hne
  refine locationChars_append_ne_slash hne hpath [] ?_
  rw [List.append_nil, ← toList_ofLocation hkeys, hroot]
  rfl

/-- **What a pointer of plain keys covers** is at or below the place of these keys. -/
lemma exists_rest_of_covers {place : Location}
    (h : covers (ofLocation (Location.ofKeys path)) (ofLocation place) = true) :
    ∃ rest, place = Location.ofKeys path ++ rest := by
  rw [covers, Bool.or_eq_true, Bool.or_eq_true, beq_iff_eq, beq_iff_eq,
    List.isPrefixOf_iff_prefix] at h
  rcases h with (hroot | heq) | ⟨tail, htail⟩
  · exact absurd hroot (ofLocation_ofKeys_ne_root hne hpath)
  · exact ⟨[], by rw [List.append_nil, eq_ofKeys_of_ofLocation hne hpath heq]⟩
  · rw [List.append_assoc] at htail
    obtain ⟨rest, hrest, -⟩ := exists_rest_of_ofLocation hne hpath (by simp) htail.symm
    exact ⟨rest, hrest⟩

end Covers

end Pointer

/-! ## Consumed places -/

/-- The keys of the consumed pointers. -/
def consumedPaths : List (List String) :=
  [["data", "balance_tracking_disabled"], ["data", "ignore_reconciliation_error"],
    ["data", "reconciliation_disabled"], ["data", "results_output_file"], ["http_timeout_secs"],
    ["network", "blockchain"], ["network", "network"], ["online_url"]]

lemma isPlain_of_mem_consumedPaths :
    ∀ path ∈ consumedPaths, path ≠ [] ∧ ∀ key ∈ path, Pointer.IsPlain key := by
  simp [consumedPaths, Pointer.IsPlain]

/-- What leaves are compared with are the pointers of the consumed keys. -/
lemma UnusedKeys.prefixes_eq :
    prefixes = consumedPaths.map fun path => Pointer.ofLocation (Location.ofKeys path) := by
  have hchars : prefixes.map String.toList
      = consumedPaths.map fun path => path.flatMap fun key => '/' :: key.toList := by
    decide +kernel
  refine (List.map_injective_iff.mpr fun _ _ => String.toList_inj.mp) ?_
  rw [hchars, List.map_map]
  refine List.map_congr_left fun path hpath => ?_
  obtain ⟨hne, hplain⟩ := isPlain_of_mem_consumedPaths path hpath
  exact (Pointer.toList_ofLocation_ofKeys hne hplain).symm

lemma mem_consumedPointers_iff {pointer : String} : pointer ∈ consumedPointers ↔
    ∃ path ∈ consumedPaths, Pointer.ofLocation (Location.ofKeys path) = pointer := by
  rw [← UnusedKeys.prefixes_perm.mem_iff, UnusedKeys.prefixes_eq, List.mem_map]

lemma ofLocation_mem_consumedPointers {path : List String} (h : path ∈ consumedPaths) :
    Pointer.ofLocation (Location.ofKeys path) ∈ consumedPointers :=
  mem_consumedPointers_iff.mpr ⟨path, h, rfl⟩

/-- Only the places of the consumed keys have a consumed pointer. -/
lemma exists_path_of_ofLocation_mem {place : Location}
    (h : Pointer.ofLocation place ∈ consumedPointers) :
    ∃ path ∈ consumedPaths, place = Location.ofKeys path := by
  obtain ⟨path, hpath, heq⟩ := mem_consumedPointers_iff.mp h
  obtain ⟨hne, hplain⟩ := isPlain_of_mem_consumedPaths path hpath
  exact ⟨path, hpath, Pointer.eq_ofKeys_of_ofLocation hne hplain heq.symm⟩

namespace UnusedKeys

/-- A document has no unused keys if every leaf is covered by a consumed pointer. -/
lemma isClean_iff {v : Json} : (of v).isClean = true ↔
    ∀ leaf ∈ v.leafPointers, ∃ pointer ∈ consumedPointers, Pointer.covers pointer leaf = true := by
  rw [isClean, of, List.isEmpty_iff, sorted_eq_nil_iff, List.filter_eq_nil_iff]
  simp only [isUnused, Bool.not_eq_true', Bool.not_eq_false, List.any_eq_true,
    prefixes_perm.mem_iff]

/-- **Without unused keys, every leaf stands at or behind the keys of a consumed pointer.** -/
theorem exists_path_of_isClean {v x : Json} (h : (of v).isClean = true) {place : Location}
    (hplace : v.at? place = some x) (hx : x.isLeaf = true) :
    ∃ path ∈ consumedPaths, ∃ rest, place = Location.ofKeys path ++ rest := by
  obtain ⟨pointer, hpointer, hcovers⟩ := isClean_iff.mp h _ (Json.mem_leafPointers hplace hx)
  obtain ⟨path, hpath, rfl⟩ := mem_consumedPointers_iff.mp hpointer
  obtain ⟨hne, hplain⟩ := isPlain_of_mem_consumedPaths path hpath
  exact ⟨path, hpath, Pointer.exists_rest_of_covers hne hplain hcovers⟩

end UnusedKeys
end LedgerCheck
