import LedgerCheck.Config.Load
import LedgerCheck.Proofs.Config.Pointer
import LedgerCheck.Proofs.Text.ByteOrder

/-!
# The report on unused keys

Unused keys are found by comparing pointers as texts, and are meant to be the leaves that stand at no
consumed place.  As a key never looks like two, nor a consumed key like another one, both are the same
whatever the keys of a document are.

* `Location.IsConsumed` — being at or below the keys of a consumed pointer.
* `UnusedKeys.isUnused_ofLocation_iff` — the comparison of texts decides about that.
* **`UnusedKeys.check_reports_leaves`** — what the report lists, and when it is refused.
-/

namespace LedgerCheck

/-! ## Consumed places -/

/-- **The place is consumed**: the way to it starts with the keys of a consumed pointer. -/
def Location.IsConsumed (place : Location) : Prop :=
  ∃ path ∈ consumedPaths, Location.ofKeys path <+: place

/-- A pointer covers the pointers of all places behind its own. -/
lemma Pointer.covers_of_prefix {first place : Location} (hfirst : first ≠ [])
    (h : first <+: place) : covers (ofLocation first) (ofLocation place) = true := by
  obtain ⟨rest, rfl⟩ := h
  cases rest with
  | nil => rw [List.append_nil, covers_self]
  | cons step rest =>
      rw [covers, Bool.or_eq_true, List.isPrefixOf_iff_prefix, toList_ofLocation hfirst,
        toList_ofLocation (by simp [hfirst])]
      refine Or.inr ⟨(ofStep step).toList ++ locationChars rest, ?_⟩
      simp [locationChars]

/-- **The comparison of pointers as texts is the comparison of places step by step.** -/
lemma UnusedKeys.isUnused_ofLocation_iff {place : Location} :
    isUnused (Pointer.ofLocation place) = true ↔ ¬ place.IsConsumed := by
  rw [isUnused, Bool.not_eq_true', ← Bool.not_eq_true, List.any_eq_true, not_iff_not]
  simp only [prefixes_perm.mem_iff]
  constructor
  · rintro ⟨pointer, hpointer, hcovers⟩
    obtain ⟨path, hpath, rfl⟩ := mem_consumedPointers_iff.mp hpointer
    obtain ⟨hne, hplain⟩ := isPlain_of_mem_consumedPaths path hpath
    obtain ⟨rest, rfl⟩ := Pointer.exists_rest_of_covers hne hplain hcovers
    exact ⟨path, hpath, List.prefix_append _ _⟩
  · rintro ⟨path, hpath, hprefix⟩
    have hne := (isPlain_of_mem_consumedPaths path hpath).1
    refine ⟨_, ofLocation_mem_consumedPointers hpath, Pointer.covers_of_prefix ?_ hprefix⟩
    simpa [Location.ofKeys] using hne

/-! ## The report -/

namespace UnusedKeys

/-- The leaves of a value that stand at no consumed place. -/
def unusedPlaces (v : Json) : Set Location :=
  {place | (∃ x, v.at? place = some x ∧ x.isLeaf = true) ∧ ¬ place.IsConsumed}

/-- The report lists the pointers of the unused leaves. -/
lemma mem_pointers_iff {v : Json} (hv : v.Ordered) {pointer : String} :
    pointer ∈ (of v).pointers ↔ ∃ place ∈ unusedPlaces v, Pointer.ofLocation place = pointer := by
  rw [of, mem_sorted, List.mem_filter, Json.leafPointers_eq_map, List.mem_map]
  constructor
  · rintro ⟨⟨place, hplace, rfl⟩, hunused⟩
    exact ⟨place, ⟨(Json.mem_leafPlaces_iff hv).mp hplace, isUnused_ofLocation_iff.mp hunused⟩, rfl⟩
  · rintro ⟨place, ⟨hleaf, hconsumed⟩, rfl⟩
    exact ⟨⟨place, (Json.mem_leafPlaces_iff hv).mpr hleaf, rfl⟩,
      isUnused_ofLocation_iff.mpr hconsumed⟩

lemma injOn_unusedPlaces (v : Json) : Set.InjOn Pointer.ofLocation (unusedPlaces v) :=
  (Json.injOn_ofLocation v).mono fun _ h => h.1

/-- **The report lists as many pointers as there are unused leaves.** -/
lemma length_pointers {v : Json} (hv : v.Ordered) :
    (of v).pointers.length = (unusedPlaces v).ncard := by
  have himage : Pointer.ofLocation '' unusedPlaces v = {pointer | pointer ∈ (of v).pointers} := by
    ext pointer
    exact (mem_pointers_iff hv).symm
  have hnodup : (of v).pointers.Nodup := nodup_sorted _
  rw [← (injOn_unusedPlaces v).ncard_image, himage, ← List.coe_toFinset,
    Set.ncard_coe_finset, List.toFinset_card_of_nodup hnodup]

/-- **The report on unused keys** lists the leaves that stand at no consumed place, be their keys what
they may: their pointers, in strictly increasing byte order, one for each of them.  It is the same
under both policies, and it is refused exactly if it lists something and the policy is strict. -/
theorem check_reports_leaves {v : Json} (hv : v.Ordered) :
    ∃ report : UnusedKeys,
      (∀ policy, check policy v
        = if policy = .fail ∧ report.pointers ≠ [] then .error (.unusedKeys report)
          else .ok report) ∧
      report.consumedPrefixes
        = consumedPaths.map (fun path => Pointer.ofLocation (Location.ofKeys path)) ∧
      (report.pointers.Pairwise fun a b => a.toUTF8.data.toList < b.toUTF8.data.toList) ∧
      (∀ pointer, pointer ∈ report.pointers ↔
        ∃ place ∈ unusedPlaces v, Pointer.ofLocation place = pointer) ∧
      Set.InjOn Pointer.ofLocation (unusedPlaces v) ∧
      report.pointers.length = (unusedPlaces v).ncard := by
  refine ⟨of v, fun policy => ?_, prefixes_eq, ?_, fun pointer => mem_pointers_iff hv,
    injOn_unusedPlaces v, length_pointers hv⟩
  · simp only [check, isClean, List.isEmpty_iff, ne_eq]
  · exact (pairwise_sorted _).imp Text.bytes_lt_of_lt

/-- Keys that look like consumed pointers, like more of one, or like nothing. -/
theorem check_reports_leaves_of_lookalikes :
    let v : Json := .object
      [("", .null),
       ("data", .object
         [("results_output_file", .string "out.json"), ("results_output_file/x", .null),
          ("results_output_filex", .null)]),
       ("data/results_output_file", .array [.bool true, .object []]),
       ("~1", .null)]
    v.Ordered ∧
    ∃ report : UnusedKeys, check .warn v = .ok report ∧ check .fail v = .error (.unusedKeys report) ∧
      report.pointers = ["/", "/data/results_output_filex", "/data/results_output_file~1x",
        "/data~1results_output_file/0", "/~01"] ∧
      (unusedPlaces v).ncard = 5 := by
  intro v
  have hv : v.Ordered := by
    simp only [v, Json.Ordered, Json.OrderedFields, Json.OrderedItems, SortedMap.Sorted, and_true]
    decide +kernel
  obtain ⟨report, hcheck, -, -, -, -, hlength⟩ := check_reports_leaves hv
  have hwarn : check .warn v = .ok report := by
    rw [hcheck, if_neg fun h => UnusedKeyPolicy.noConfusion h.1]
  have hreport : report = of v := by
    cases hwarn
    rfl
  have hpointers : report.pointers = ["/", "/data/results_output_filex",
      "/data/results_output_file~1x", "/data~1results_output_file/0", "/~01"] := by
    rw [hreport]
    decide +kernel
  refine ⟨hv, report, hwarn, ?_, hpointers, ?_⟩
  · rw [hcheck, if_pos ⟨rfl, by simp [hpointers]⟩]
  · rw [← hlength, hpointers]
    rfl

end UnusedKeys
end LedgerCheck
