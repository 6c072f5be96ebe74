import LedgerCheck.Config.Unused
import LedgerCheck.Proofs.Text.Utf8

/-!
# Pointers as they are compared

The consumed pointers are normalised and put in order before the leaves of a document are compared
with them.  They are written in normal form and no two of them are the same, so that this changes
nothing but their order.

* `UnusedKeys.mem_sorted`, `UnusedKeys.pairwise_sorted` — putting texts in order.
* `Pointer.normalize_eq_self` — pointers in normal form.
* **`UnusedKeys.prefixes_perm`** — what leaves are compared with are the consumed pointers.
-/

namespace LedgerCheck

/-! ## Texts in order -/

namespace UnusedKeys

lemma mem_insert {text other : String} {texts : List String} :
    other ∈ insert text texts ↔ other = text ∨ other ∈ texts := by
  induction texts with
  | nil => simp [insert]
  | cons t rest ih =>
      rw [insert]
      split_ifs with hlt heq
      · exact List.mem_cons
      · rw [heq, List.mem_cons, ← or_assoc, or_self]
      · rw [List.mem_cons, ih, List.mem_cons, or_left_comm]

lemma mem_sorted {text : String} {texts : List String} : text ∈ sorted texts ↔ text ∈ texts := by
  induction texts with
  | nil => rfl
  | cons t rest ih => rw [sorted, List.foldr_cons, mem_insert, List.mem_cons, ← sorted, ih]

lemma sorted_eq_nil_iff {texts : List String} : sorted texts = [] ↔ texts = [] := by
  simp only [List.eq_nil_iff_forall_not_mem, mem_sorted]

lemma pairwise_insert {text : String} {texts : List String} (h : texts.Pairwise (· < ·)) :
    (insert text texts).Pairwise (· < ·) := by
  induction texts with
  | nil => exact List.pairwise_singleton _ _
  | cons t rest ih =>
      obtain ⟨hhead, hrest⟩ := List.pairwise_cons.mp h
      rw [insert]
      split_ifs with hlt heq
      · refine List.pairwise_cons.mpr ⟨fun other hother => ?_, h⟩
        rcases List.mem_cons.mp hother with rfl | hmem
        · exact hlt
        · exact hlt.trans (hhead other hmem)
      · exact h
      · refine List.pairwise_cons.mpr ⟨fun other hother => ?_, ih hrest⟩
        rcases mem_insert.mp hother with rfl | hmem
        · exact lt_of_le_of_ne (not_lt.mp hlt) (Ne.symm heq)
        · exact hhead other hmem

/-- **Sorted texts are strictly increasing**, so that none is there twice. -/
lemma pairwise_sorted (texts : List String) : (sorted texts).Pairwise (· < ·) := by
  induction texts with
  | nil => exact List.Pairwise.nil
  | cons t rest ih => exact pairwise_insert ih

lemma nodup_sorted (texts : List String) : (sorted texts).Nodup :=
  (pairwise_sorted texts).imp fun h => h.ne

/-- Texts of which none is there twice are only moved. -/
lemma sorted_perm {texts : List String} (h : texts.Nodup) : (sorted texts).Perm texts :=
  (List.perm_ext_iff_of_nodup (nodup_sorted texts) h).mpr fun _ => mem_sorted

end UnusedKeys

/-! ## Pointers in normal form -/

namespace Pointer

/-- Nothing is taken away where there is no slash at the end. -/
lemma dropSlashes_of_head_ne {cs : List Char} (h : ∀ c ∈ cs.head?, c ≠ '/') :
    dropSlashes cs = cs := by
  refine dropSlashes.eq_2 cs fun c rest hcs => ?_
  rw [hcs] at h
  exact h '/' rfl rfl

/-- **A pointer that starts with a slash and ends in neither a slash nor a blank** is in normal
form. -/
lemma normalize_eq_self {pointer : String} (hfirst : pointer.toList.head? = some '/')
    (hlast : ∀ c ∈ pointer.toList.getLast?, c ≠ '/' ∧ isBlank c = false) :
    normalize pointer = pointer := by
  have htrimmed : Utf8.IsTrimmed pointer.toList pointer.toList := by
    refine ⟨[], [], by simp, by simp, ?_, fun c hc => (hlast c hc).2⟩
    rw [hfirst]
    simp [isBlank]
  obtain ⟨rest, hrest⟩ := List.head?_eq_some_iff.mp hfirst
  have hrooted : rooted pointer.toList = pointer.toList := by rw [hrest, rooted]
  rw [normalize, ← Utf8.isTrimmed_iff.mp htrimmed, hrooted, dropSlashes_of_head_ne,
    List.reverse_reverse, String.ofList_toList]
  rw [List.head?_reverse]
  exact fun c hc => (hlast c hc).1

/-- A pointer covers itself. -/
lemma covers_self (pointer : String) : covers pointer pointer = true := by
  rw [covers, beq_self_eq_true, Bool.or_true, Bool.true_or]

end Pointer

/-! ## The consumed pointers -/

namespace UnusedKeys

/-- The consumed pointers are in normal form. -/
lemma normalize_of_mem {pointer : String} (h : pointer ∈ consumedPointers) :
    Pointer.normalize pointer = pointer := by
  have hends : ∀ pointer ∈ consumedPointers, pointer.toList.head? = some '/' ∧
      ∀ c ∈ pointer.toList.getLast?, c ≠ '/' ∧ isBlank c = false := by
    simp [consumedPointers, isBlank]
  exact Pointer.normalize_eq_self (hends pointer h).1 (hends pointer h).2

/-- **Leaves are compared with the consumed pointers**, in another order. -/
theorem prefixes_perm : prefixes.Perm consumedPointers := by
  rw [prefixes, List.map_congr_left fun _ => normalize_of_mem, List.map_id']
  exact sorted_perm (by decide)

end UnusedKeys
end LedgerCheck
