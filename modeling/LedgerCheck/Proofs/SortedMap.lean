import Mathlib
import LedgerCheck.SortedMap

/-!
# Laws of sorted maps

`List.lookup` is the view of a sorted map.  What setting and removing a key do to it holds of any
list of entries; that a map has one entry for each key needs its order.

* `SortedMap.lookup_insert` — the view after a key is set.
* `SortedMap.lookup_ofList` — the view of the map of a list: of several entries the last counts.
* `SortedMap.erase_insert` — a new key that is set and removed again leaves no trace.
* `SortedMap.sorted_insert`, `SortedMap.sorted_ofList` — the order is kept.
* `SortedMap.Sorted.ext` — maps with one view are the same.
* `SortedMap.ofList_congr` — only the order of entries of one key counts.
* `SortedMap.forall₂_ofList` — lists with the same keys and related values give such maps.
-/

namespace LedgerCheck
namespace SortedMap

variable {κ α : Type} [DecidableEq κ]

/-! ## The view -/

section Lookup

variable [BEq κ] [LawfulBEq κ] [LT κ] [DecidableLT κ]

/-- A key that was set has its new value, and no other key has changed. -/
lemma lookup_insert (key other : κ) (value : α) (entries : List (κ × α)) :
    (insert key value entries).lookup other
      = if other = key then some value else entries.lookup other := by
  induction entries with
  | nil =>
      by_cases hother : other = key
      · simp [insert, hother]
      · simp [insert, hother, List.lookup_cons, beq_false_of_ne hother]
  | cons entry rest ih =>
      obtain ⟨k, v⟩ := entry
      rw [insert]
      by_cases hother : other = key
      · subst hother
        rw [if_pos rfl] at ih ⊢
        split_ifs with hlt hkey
        · rw [List.lookup_cons_self]
        · rw [List.lookup_cons_self]
        · rw [List.lookup_cons, beq_false_of_ne hkey, ih]
      · rw [if_neg hother] at ih ⊢
        split_ifs with hlt hkey
        · rw [List.lookup_cons, beq_false_of_ne hother]
        · rw [List.lookup_cons, List.lookup_cons, ← hkey, beq_false_of_ne hother]
        · rw [List.lookup_cons, List.lookup_cons, ih]

lemma lookup_foldl_insert (key : κ) (entries acc : List (κ × α)) :
    (entries.foldl (fun acc entry => insert entry.1 entry.2 acc) acc).lookup key
      = (entries.reverse.lookup key).or (acc.lookup key) := by
  induction entries generalizing acc with
  | nil => rfl
  | cons entry rest ih =>
      obtain ⟨k, v⟩ := entry
      rw [List.foldl_cons, ih, lookup_insert, List.reverse_cons, List.lookup_append,
        Option.or_assoc]
      by_cases hkey : key = k
      · simp [hkey]
      · simp [hkey, List.lookup_cons, beq_false_of_ne hkey]

/-- **The map of a list of entries** holds under each key what its last entry says. -/
lemma lookup_ofList (key : κ) (entries : List (κ × α)) :
    (ofList entries).lookup key = entries.reverse.lookup key := by
  rw [ofList, lookup_foldl_insert, List.lookup_nil, Option.or_none]

omit [LT κ] [DecidableLT κ] [DecidableEq κ] in
/-- Where each key has one entry, the first entry of a key is the last one. -/
lemma lookup_reverse {entries : List (κ × α)} (h : (entries.map Prod.fst).Nodup) (key : κ) :
    entries.reverse.lookup key = entries.lookup key := by
  induction entries with
  | nil => rfl
  | cons entry rest ih =>
      obtain ⟨k, v⟩ := entry
      rw [List.map_cons, List.nodup_cons] at h
      rw [List.reverse_cons, List.lookup_append, ih h.2, List.lookup_cons]
      by_cases hkey : key = k
      · have hnone : rest.lookup key = none := by
          rw [List.lookup_eq_none_iff]
          intro entry hentry
          simp only [bne_iff_ne, ne_eq]
          rintro rfl
          exact h.1 (List.mem_map.mpr ⟨entry, hentry, hkey⟩)
        simp [hkey ▸ hnone, hkey]
      · simp [List.lookup_cons, beq_false_of_ne hkey]

/-- **Setting a new key and removing it again leaves no trace.** -/
lemma erase_insert {key : κ} (value : α) {entries : List (κ × α)}
    (h : entries.lookup key = none) : erase key (insert key value entries) = entries := by
  induction entries with
  | nil => simp [insert, erase]
  | cons entry rest ih =>
      obtain ⟨k, v⟩ := entry
      have hk : key ≠ k := by
        rintro rfl
        simp at h
      have hrest : rest.lookup key = none := by
        rwa [List.lookup_cons, beq_false_of_ne hk] at h
      have hclean : erase key rest = rest := by
        rw [erase, List.filter_eq_self]
        intro entry hentry
        have hne : key ≠ entry.1 := by simpa using List.lookup_eq_none_iff.mp hrest entry hentry
        simpa using hne.symm
      rw [insert]
      split_ifs with hlt
      · rw [erase, List.filter_cons_of_neg (by simp),
          List.filter_cons_of_pos (by simpa using hk.symm)]
        exact congrArg _ hclean
      · rw [erase, List.filter_cons_of_pos (by simpa using hk.symm)]
        exact congrArg _ (ih hrest)

omit [LT κ] [DecidableLT κ] in
lemma lookup_cons_ite (key other : κ) (value : α) (rest : List (κ × α)) :
    ((key, value) :: rest).lookup other
      = if other = key then some value else rest.lookup other := by
  rw [List.lookup_cons]
  split_ifs with h
  · rw [beq_iff_eq.mpr h]
  · rw [beq_false_of_ne h]

omit [LT κ] [DecidableLT κ] [DecidableEq κ] [LawfulBEq κ] in
/-- A function of the values leaves the keys where they are. -/
lemma lookup_map_snd {β : Type} (f : α → β) (key : κ) (entries : List (κ × α)) :
    (entries.map fun entry => (entry.1, f entry.2)).lookup key = (entries.lookup key).map f := by
  induction entries with
  | nil => rfl
  | cons entry rest ih =>
      obtain ⟨k, v⟩ := entry
      rw [List.map_cons, List.lookup_cons, List.lookup_cons, ih]
      cases key == k <;> rfl

omit [LT κ] [DecidableLT κ] [DecidableEq κ] in
/-- What is found is an entry. -/
lemma mem_of_lookup {entries : List (κ × α)} {key : κ} {value : α}
    (h : entries.lookup key = some value) : (key, value) ∈ entries := by
  obtain ⟨before, after, rfl, -⟩ := List.lookup_eq_some_iff.mp h
  exact List.mem_append_right _ List.mem_cons_self

omit [LT κ] [DecidableLT κ] [DecidableEq κ] in
/-- Where each key has one entry, every entry is found. -/
lemma lookup_of_mem {entries : List (κ × α)} (h : (entries.map Prod.fst).Nodup) {key : κ}
    {value : α} (hmem : (key, value) ∈ entries) : entries.lookup key = some value := by
  induction entries with
  | nil => exact absurd hmem List.not_mem_nil
  | cons entry rest ih =>
      obtain ⟨k, v⟩ := entry
      obtain ⟨hnew, hrest⟩ := List.nodup_cons.mp h
      rcases List.mem_cons.mp hmem with hhead | htail
      · cases hhead
        rw [List.lookup_cons_self]
      · have hkey : key ≠ k := by
          rintro rfl
          exact hnew (List.mem_map.mpr ⟨_, htail, rfl⟩)
        rw [List.lookup_cons, beq_false_of_ne hkey]
        exact ih hrest htail

omit [LT κ] [DecidableLT κ] [DecidableEq κ] [LawfulBEq κ] in
/-- A key is looked up among the entries of that key alone. -/
lemma lookup_filter (key : κ) (entries : List (κ × α)) :
    (entries.filter fun entry => key == entry.1).lookup key = entries.lookup key := by
  induction entries with
  | nil => rfl
  | cons entry rest ih =>
      obtain ⟨k, v⟩ := entry
      cases hkey : key == k with
      | true => simp only [List.filter_cons, hkey, if_true, List.lookup_cons]
      | false => simp only [List.filter_cons, hkey, Bool.false_eq_true, if_false, List.lookup_cons, ih]

end Lookup

/-! ## The order -/

section Order

variable [LT κ] [DecidableLT κ]

/-- An entry of a map with a new key is the new one or an old one. -/
lemma mem_insert {key : κ} {value : α} {entries : List (κ × α)} {entry : κ × α}
    (h : entry ∈ insert key value entries) : entry = (key, value) ∨ entry ∈ entries := by
  induction entries with
  | nil => simpa [insert] using h
  | cons head rest ih =>
      obtain ⟨k, v⟩ := head
      rw [insert] at h
      split_ifs at h with hlt hkey
      · exact List.mem_cons.mp h
      · rcases List.mem_cons.mp h with h | h
        · exact Or.inl h
        · exact Or.inr (List.mem_cons_of_mem _ h)
      · rcases List.mem_cons.mp h with h | h
        · exact Or.inr (h ▸ List.mem_cons_self)
        · exact (ih h).imp_right (List.mem_cons_of_mem _)

lemma mem_foldl_insert {entries acc : List (κ × α)} {entry : κ × α}
    (h : entry ∈ entries.foldl (fun acc entry => insert entry.1 entry.2 acc) acc) :
    entry ∈ acc ∨ entry ∈ entries := by
  induction entries generalizing acc with
  | nil => exact Or.inl h
  | cons head rest ih =>
      rcases ih h with h | h
      · rcases mem_insert h with rfl | h
        · exact Or.inr List.mem_cons_self
        · exact Or.inl h
      · exact Or.inr (List.mem_cons_of_mem _ h)

/-- An entry of the map of a list is an entry of the list. -/
lemma mem_of_mem_ofList {entries : List (κ × α)} {entry : κ × α} (h : entry ∈ ofList entries) :
    entry ∈ entries := by
  simpa using mem_foldl_insert h

variable [IsStrictTotalOrder κ (· < ·)]

/-- Setting a key keeps the order. -/
lemma sorted_insert (key : κ) (value : α) {entries : List (κ × α)} (h : Sorted entries) :
    Sorted (insert key value entries) := by
  induction entries with
  | nil => simp [insert, Sorted]
  | cons head rest ih =>
      obtain ⟨k, v⟩ := head
      obtain ⟨hhead, hrest⟩ := List.pairwise_cons.mp h
      rw [insert]
      split_ifs with hlt hkey
      · refine List.pairwise_cons.mpr ⟨?_, h⟩
        intro entry hentry
        rcases List.mem_cons.mp hentry with rfl | hentry
        · exact hlt
        · exact trans_of (· < ·) hlt (hhead entry hentry)
      · subst hkey
        exact List.pairwise_cons.mpr ⟨hhead, hrest⟩
      · have hgt : k < key := ((trichotomous_of (· < ·) k key).resolve_right
          (not_or.mpr ⟨Ne.symm hkey, hlt⟩))
        refine List.pairwise_cons.mpr ⟨?_, ih hrest⟩
        intro entry hentry
        rcases mem_insert hentry with rfl | hentry
        · exact hgt
        · exact hhead entry hentry

lemma sorted_foldl_insert (entries : List (κ × α)) {acc : List (κ × α)} (h : Sorted acc) :
    Sorted (entries.foldl (fun acc entry => insert entry.1 entry.2 acc) acc) := by
  induction entries generalizing acc with
  | nil => exact h
  | cons entry rest ih => exact ih (sorted_insert _ _ h)

/-- The map of a list of entries is in order, whatever the order of the entries. -/
lemma sorted_ofList (entries : List (κ × α)) : Sorted (ofList entries) :=
  sorted_foldl_insert entries List.Pairwise.nil

end Order

omit [DecidableEq κ] in
/-- No key stands twice in a map. -/
lemma Sorted.nodup_keys [LT κ] [IsStrictTotalOrder κ (· < ·)] {entries : List (κ × α)}
    (h : Sorted entries) : (entries.map Prod.fst).Nodup := by
  rw [List.nodup_iff_pairwise_ne, List.pairwise_map]
  refine h.imp ?_
  rintro a b hlt heq
  exact irrefl_of (· < ·) b.1 (heq ▸ hlt)

omit [DecidableEq κ] in
/-- The first key of a map stands nowhere else in it. -/
lemma Sorted.lookup_tail [BEq κ] [LawfulBEq κ] [LT κ] [IsStrictTotalOrder κ (· < ·)] {key : κ}
    {value : α} {rest : List (κ × α)} (h : Sorted ((key, value) :: rest)) :
    rest.lookup key = none := by
  rw [List.lookup_eq_none_iff]
  intro entry hentry
  have hlt : key < entry.1 := (List.pairwise_cons.mp h).1 entry hentry
  simp only [bne_iff_ne, ne_eq]
  rintro rfl
  exact irrefl_of (· < ·) _ hlt

omit [DecidableEq κ] in
/-- **Maps with one view are the same**, entry for entry. -/
lemma Sorted.ext [BEq κ] [LawfulBEq κ] [LT κ] [IsStrictTotalOrder κ (· < ·)]
    {xs ys : List (κ × α)} (hxs : Sorted xs) (hys : Sorted ys)
    (h : ∀ key, xs.lookup key = ys.lookup key) : xs = ys := by
  have hmem : ∀ entry, entry ∈ xs ↔ entry ∈ ys := by
    rintro ⟨key, value⟩
    constructor
    · intro hentry
      exact mem_of_lookup ((h key).symm.trans (lookup_of_mem hxs.nodup_keys hentry))
    · intro hentry
      exact mem_of_lookup ((h key).trans (lookup_of_mem hys.nodup_keys hentry))
  refine List.Perm.eq_of_pairwise ?_ hxs hys ((List.perm_ext_iff_of_nodup
    (List.Nodup.of_map Prod.fst hxs.nodup_keys) (List.Nodup.of_map Prod.fst hys.nodup_keys)).mpr hmem)
  intro a b _ _ hab hba
  exact absurd (trans_of (· < ·) hab hba) (irrefl_of (· < ·) a.1)

/-- **The map of a list of entries does not depend on their order**, as long as the entries of one
key keep theirs. -/
lemma ofList_congr [BEq κ] [LawfulBEq κ] [LT κ] [DecidableLT κ] [IsStrictTotalOrder κ (· < ·)]
    {xs ys : List (κ × α)}
    (h : ∀ key, (xs.filter fun entry => key == entry.1) = ys.filter fun entry => key == entry.1) :
    ofList xs = ofList ys := by
  refine (sorted_ofList xs).ext (sorted_ofList ys) fun key => ?_
  rw [lookup_ofList, lookup_ofList, ← lookup_filter key xs.reverse, ← lookup_filter key ys.reverse,
    List.filter_reverse, List.filter_reverse, h key]

/-! ## Related maps -/

section Related

variable [LT κ] [DecidableLT κ] {R : κ → α → α → Prop}

/-- Entries of one key with related values. -/
def RelatedEntry (R : κ → α → α → Prop) (a b : κ × α) : Prop := a.1 = b.1 ∧ R a.1 a.2 b.2

lemma forall₂_insert {key : κ} {v w : α} (hvalue : R key v w) {xs ys : List (κ × α)}
    (h : List.Forall₂ (RelatedEntry R) xs ys) :
    List.Forall₂ (RelatedEntry R) (insert key v xs) (insert key w ys) := by
  have hentry : RelatedEntry R (key, v) (key, w) := ⟨rfl, hvalue⟩
  induction h with
  | nil => exact List.Forall₂.cons hentry List.Forall₂.nil
  | @cons x y xs ys hxy hrest ih =>
      obtain ⟨k, a⟩ := x
      obtain ⟨k', b⟩ := y
      obtain ⟨rfl, hab⟩ := hxy
      rw [insert, insert]
      split_ifs with hlt hkey
      · exact List.Forall₂.cons hentry (List.Forall₂.cons ⟨rfl, hab⟩ hrest)
      · exact List.Forall₂.cons hentry hrest
      · exact List.Forall₂.cons ⟨rfl, hab⟩ ih

/-- Lists with the same keys and related values give maps with the same keys and related values. -/
lemma forall₂_ofList {xs ys : List (κ × α)} (h : List.Forall₂ (RelatedEntry R) xs ys) :
    List.Forall₂ (RelatedEntry R) (ofList xs) (ofList ys) := by
  suffices hfold : ∀ acc acc', List.Forall₂ (RelatedEntry R) acc acc' →
      List.Forall₂ (RelatedEntry R) (xs.foldl (fun acc entry => insert entry.1 entry.2 acc) acc)
        (ys.foldl (fun acc entry => insert entry.1 entry.2 acc) acc') from
    hfold [] [] List.Forall₂.nil
  induction h with
  | nil => exact fun acc acc' hacc => hacc
  | @cons x y xs ys hxy _ ih =>
      intro acc acc' hacc
      obtain ⟨k, a⟩ := x
      obtain ⟨k', b⟩ := y
      obtain ⟨rfl, hab⟩ := hxy
      exact ih _ _ (forall₂_insert hab hacc)

end Related

end SortedMap
end LedgerCheck
