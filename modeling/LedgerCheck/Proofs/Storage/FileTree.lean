import Mathlib
import LedgerCheck.Proofs.SortedMap
import LedgerCheck.Storage.FileTree

/-!
# Laws of file trees

`FileTree.entry?` is the view of a tree.  A tree is well formed if whatever stands in it stands in a
directory; making a directory or putting a file into one keeps that.

* `FileTree.WellFormed` — whatever stands at a place stands in a directory.
* `FileTree.entry?_set`, `FileTree.remove_set` — the view after an entry is put somewhere, and the
  tree after it is taken away again.
* `FileTree.entry?_freshName` — the fresh name is the name of no entry.
* `FileTree.SameDirectories` — two trees with the same directories, in which paths lead to the same
  places.
-/

namespace LedgerCheck
namespace FileTree

/-! ## Entries -/

lemma entry?_of_ne_nil (t : FileTree) {place : Place} (h : place ≠ []) :
    t.entry? place = t.entries.lookup place := by
  cases place with
  | nil => exact absurd rfl h
  | cons name rest => rfl

/-- An entry stands where it was put, and nothing else has changed. -/
lemma entry?_set (t : FileTree) {place : Place} (h : place ≠ []) (other : Place) (entry : Entry) :
    entry? (t.set place entry) other = if other = place then some entry else t.entry? other := by
  cases other with
  | nil => rw [if_neg (Ne.symm h)]; rfl
  | cons name rest => exact SortedMap.lookup_insert place (name :: rest) entry t.entries

lemma entry?_set_self (t : FileTree) {place : Place} (h : place ≠ []) (entry : Entry) :
    entry? (t.set place entry) place = some entry := by
  rw [entry?_set t h, if_pos rfl]

lemma entry?_set_of_ne (t : FileTree) {place other : Place} (h : place ≠ []) (hne : other ≠ place)
    (entry : Entry) : entry? (t.set place entry) other = t.entry? other := by
  rw [entry?_set t h, if_neg hne]

/-- **An entry that is put where nothing stood and taken away again leaves no trace.** -/
lemma remove_set (t : FileTree) {place : Place} (h : place ≠ []) (hnew : t.entry? place = none)
    (entry : Entry) : (t.set place entry).remove place = t := by
  rw [entry?_of_ne_nil t h] at hnew
  simp only [set, remove, SortedMap.erase_insert entry hnew]

/-! ## Fresh names -/

/-- The names of the entries are together longer than the name of any one of them. -/
lemma length_le_nameLength {t : FileTree} {entry : Place × Entry} (h : entry ∈ t.entries) :
    (entry.1.getLast?.getD "").length ≤ t.nameLength :=
  List.le_sum_of_mem (List.mem_map_of_mem h)

/-- No entry has the fresh name, in whatever directory. -/
lemma entry?_freshName (t : FileTree) (directory : Place) :
    t.entry? (directory ++ [t.freshName]) = none := by
  rw [entry?_of_ne_nil t (by simp), List.lookup_eq_none_iff]
  intro entry hentry
  have hlength := length_le_nameLength hentry
  simp only [bne_iff_ne, ne_eq]
  intro hplace
  rw [← hplace, List.getLast?_concat, Option.getD_some, freshName, String.length_append] at hlength
  have hzeros : (String.ofList (List.replicate t.nameLength '0')).length = t.nameLength := by simp
  have hmark : (".tmp" : String).length = 4 := rfl
  omega

/-! ## Well-formed trees -/

/-- Whatever stands at a place stands in a directory, and the working directory is there. -/
structure WellFormed (t : FileTree) : Prop where
  parent_directory : ∀ {directory : Place} {name : String},
    t.entry? (directory ++ [name]) ≠ none → t.entry? directory = some .directory
  workingDirectory : t.entry? t.workingDirectory = some .directory

/-- The tree without entries is well formed. -/
lemma wellFormed_empty : empty.WellFormed where
  parent_directory {directory name} h := by
      rw [entry?_of_ne_nil empty (by simp)] at h
      exact absurd rfl h
  workingDirectory := rfl

namespace WellFormed

variable {t : FileTree}

/-- Everything above an entry is a directory. -/
lemma directory_of_append (ht : t.WellFormed) {place : Place} {rest : List String}
    (hrest : rest ≠ []) (h : t.entry? (place ++ rest) ≠ none) :
    t.entry? place = some .directory := by
  induction rest using List.reverseRecOn with
  | nil => exact absurd rfl hrest
  | append_singleton rest name ih =>
      rw [← List.append_assoc] at h
      have hparent : t.entry? (place ++ rest) = some .directory := ht.parent_directory h
      by_cases hempty : rest = []
      · rwa [hempty, List.append_nil] at hparent
      · exact ih hempty (by rw [hparent]; simp)

/-- Everything above a directory is a directory. -/
lemma directory_above (ht : t.WellFormed) {above place : Place} (habove : above <+: place)
    (h : t.entry? place = some .directory) : t.entry? above = some .directory := by
  obtain ⟨rest, rfl⟩ := habove
  by_cases hrest : rest = []
  · rwa [hrest, List.append_nil] at h
  · exact ht.directory_of_append hrest (by rw [h]; simp)

/-- Where a path starts there is a directory. -/
lemma start (ht : t.WellFormed) (p : Path) : t.entry? (t.start p) = some .directory := by
  rw [FileTree.start]
  split_ifs
  · rfl
  · exact ht.workingDirectory

/-- A tree stays well formed when something is put into a directory, unless a file replaces a
directory. -/
lemma set (ht : t.WellFormed) {directory : Place} {name : String} {entry : Entry}
    (hdirectory : t.entry? directory = some .directory)
    (hentry : t.entry? (directory ++ [name]) = some .directory → entry = .directory) :
    (t.set (directory ++ [name]) entry).WellFormed := by
  have hne : directory ++ [name] ≠ [] := by simp
  have hkept : ∀ {place}, t.entry? place = some .directory →
      entry? (t.set (directory ++ [name]) entry) place = some .directory := by
    intro place hplace
    rw [entry?_set t hne]
    split_ifs with heq
    · rw [hentry (heq ▸ hplace)]
    · exact hplace
  refine ⟨?_, hkept ht.workingDirectory⟩
  intro parent child hchild
  rw [entry?_set t hne] at hchild
  split_ifs at hchild with heq
  · obtain ⟨rfl, -⟩ := List.append_inj' heq rfl
    exact hkept hdirectory
  · exact hkept (ht.parent_directory hchild)

/-- A file can be put into the root, unless a directory is there. -/
lemma set_in_root (ht : t.WellFormed) {name : String} (h : t.entry? [name] ≠ some .directory)
    (content : ByteArray) : (t.set [name] (.file content)).WellFormed :=
  @set t ht [] name (.file content) rfl fun hdirectory => absurd hdirectory h

end WellFormed

/-! ## Trees with the same directories -/

/-- Whether a step leads anywhere depends on which entries are directories. -/
lemma step?_eq (t : FileTree) (place : Place) (segment : String) :
    t.step? place segment
      = if segment = "" ∨ segment = "." then some place
        else if segment = ".." then some place.dropLast
        else if t.entry? (place ++ [segment]) = some .directory then some (place ++ [segment])
        else none := by
  rw [step?]
  split_ifs with hblank hup hplace
  · rfl
  · rfl
  · rw [hplace]
  · split
    · exact absurd ‹_› hplace
    · rfl

/-- Two trees have the same directories and start paths from the same places. -/
structure SameDirectories (t t' : FileTree) : Prop where
  workingDirectory : t'.workingDirectory = t.workingDirectory
  directory_iff : ∀ place, t'.entry? place = some .directory ↔ t.entry? place = some .directory

/-- A file that is put where no directory stood leaves the directories as they were. -/
lemma sameDirectories_set (t : FileTree) {place : Place} (h : place ≠ [])
    (hplace : t.entry? place ≠ some .directory) (content : ByteArray) :
    t.SameDirectories (t.set place (.file content)) where
  workingDirectory := rfl
  directory_iff other := by
      rw [entry?_set t h]
      split_ifs with heq
      · subst heq
        simpa using hplace
      · rfl

namespace SameDirectories

variable {t t' : FileTree}

lemma start (h : t.SameDirectories t') (p : Path) : t'.start p = t.start p := by
  rw [FileTree.start, FileTree.start, h.workingDirectory]

lemma step? (h : t.SameDirectories t') (place : Place) (segment : String) :
    t'.step? place segment = t.step? place segment := by
  simp only [step?_eq, h.directory_iff]

lemma walk? (h : t.SameDirectories t') (place : Place) (segments : List String) :
    t'.walk? place segments = t.walk? place segments := by
  induction segments generalizing place with
  | nil => rfl
  | cons segment rest ih =>
      rw [FileTree.walk?, FileTree.walk?, h.step?]
      exact Option.bind_congr fun next _ => ih next

/-- A path leads to the same place in both trees. -/
lemma filePlace? (h : t.SameDirectories t') (path : String) :
    t'.filePlace? path = t.filePlace? path := by
  simp only [FileTree.filePlace?, h.start, h.walk?]

end SameDirectories

end FileTree
end LedgerCheck
