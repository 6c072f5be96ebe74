import LedgerCheck.Proofs.Storage.FileTree
import LedgerCheck.Proofs.Storage.Path

/-!
# Ways through a file tree

The segments of a path lead over a trail of places, whatever stands there.  Walking along them and
making directories along them are described at those places: a walk arrives if all of them are
directories, and making directories changes nothing but the ones where nothing stood.

* `Place.trail`, `Place.destination` — the places that segments lead over, and the last of them.
* `FileTree.GrownBy` — a tree with some directories added, each at one of the given places.
* **`FileTree.grownBy_makeDirectories`** — that is all that making directories does, even if it
  fails on the way.
* `FileTree.directory_of_makeDirectories` — if it succeeds, the whole trail is there.
* `FileTree.exists_makeDirectories`, `FileTree.makeDirectories_of_file` — without a file on the
  trail it succeeds, and a file on the trail of segments that never lead up makes it fail without a
  change.
-/

namespace LedgerCheck

/-! ## Trails -/

namespace Place

/-- The place that a segment leads to. -/
def follow (place : Place) (segment : String) : Place :=
  if segment = "" ∨ segment = "." then place
  else if segment = ".." then place.dropLast
  else place ++ [segment]

/-- The places that segments lead over, with the one where they end. -/
def trail (place : Place) : List String → List Place
  | [] => []
  | segment :: rest => follow place segment :: trail (follow place segment) rest

/-- The place that segments lead to. -/
def destination (place : Place) (segments : List String) : Place := segments.foldl follow place

lemma destination_eq_or_mem_trail (place : Place) (segments : List String) :
    destination place segments = place ∨ destination place segments ∈ trail place segments := by
  induction segments generalizing place with
  | nil => exact Or.inl rfl
  | cons segment rest ih =>
      right
      rw [trail, List.mem_cons]
      exact ih (follow place segment)

/-- Only the segments that lead somewhere matter. -/
lemma destination_steps (place : Place) (segments : List String) :
    destination place (Path.steps segments) = destination place segments := by
  induction segments generalizing place with
  | nil => rfl
  | cons segment rest ih =>
      by_cases hblank : segment = "" ∨ segment = "."
      · have hfollow : follow place segment = place := by rw [follow, if_pos hblank]
        rw [Path.steps_cons_of_blank hblank, ih, destination, destination, List.foldl_cons, hfollow]
      · rw [Path.steps_cons_of_not_blank hblank]
        exact ih (follow place segment)

/-- A name leads to what it names. -/
lemma destination_append_name {segment : String} (h : Path.isName segment = true) (place : Place)
    (segments : List String) :
    destination place (segments ++ [segment]) = destination place segments ++ [segment] := by
  have hup : segment ≠ ".." := by
    rintro rfl
    exact absurd h (by decide)
  rw [destination, List.foldl_concat, follow, if_neg (Path.not_blank_of_isName h), if_neg hup]
  rfl

/-- Segments of which none leads up stay below a place. -/
lemma prefix_follow {segment : String} (h : segment ≠ "..") (place : Place) :
    place <+: follow place segment := by
  rw [follow, if_neg h]
  split_ifs
  · exact List.prefix_rfl
  · exact List.prefix_append place [segment]

lemma prefix_destination {segments : List String} (h : ∀ segment ∈ segments, segment ≠ "..")
    (place : Place) : place <+: destination place segments := by
  induction segments generalizing place with
  | nil => exact List.prefix_rfl
  | cons segment rest ih =>
      rw [List.forall_mem_cons] at h
      exact (prefix_follow h.1 place).trans (ih h.2 (follow place segment))

/-- A trail that never leads up goes down from where it starts. -/
lemma prefix_of_mem_trail {segments : List String} (h : ∀ segment ∈ segments, segment ≠ "..")
    {place visited : Place} (hvisited : visited ∈ trail place segments) : place <+: visited := by
  induction segments generalizing place with
  | nil => simp [trail] at hvisited
  | cons segment rest ih =>
      rw [List.forall_mem_cons] at h
      rcases List.mem_cons.mp hvisited with rfl | hvisited
      · exact prefix_follow h.1 place
      · exact (prefix_follow h.1 place).trans (ih h.2 hvisited)

/-- A trail that never leads up goes down to where it ends. -/
lemma prefix_destination_of_mem_trail {segments : List String} (h : ∀ segment ∈ segments, segment ≠ "..")
    {place visited : Place} (hvisited : visited ∈ trail place segments) :
    visited <+: destination place segments := by
  induction segments generalizing place with
  | nil => simp [trail] at hvisited
  | cons segment rest ih =>
      rw [List.forall_mem_cons] at h
      rcases List.mem_cons.mp hvisited with rfl | hvisited
      · exact prefix_destination h.2 _
      · exact ih h.2 hvisited

/-- Above where a trail that never leads up ends, there is only what it went over and what is above
its start. -/
lemma prefix_or_mem_trail {segments : List String} (h : ∀ segment ∈ segments, segment ≠ "..")
    {place above : Place} (habove : above <+: destination place segments) :
    above <+: place ∨ above ∈ trail place segments := by
  induction segments generalizing place with
  | nil => exact Or.inl habove
  | cons segment rest ih =>
      rw [List.forall_mem_cons] at h
      rcases ih h.2 habove with hstart | htrail
      · by_cases hself : above = follow place segment
        · exact Or.inr (hself ▸ List.mem_cons_self)
        · left
          rw [follow, if_neg h.1] at hstart hself
          split_ifs at hstart hself
          · exact hstart
          · exact (List.prefix_concat_iff.mp hstart).resolve_left hself
      · exact Or.inr (List.mem_cons_of_mem _ htrail)

end Place

namespace FileTree

open Place

/-! ## Trees that have grown -/

/-- A place is as it was, or it is one of the given places, where nothing stood, and a directory
stands there now. -/
def KeptOrMade (t t' : FileTree) (made : List Place) (place : Place) : Prop :=
  t'.entry? place = t.entry? place ∨
    place ∈ made ∧ t.entry? place = none ∧ t'.entry? place = some .directory

lemma KeptOrMade.mono {t t' : FileTree} {made more : List Place} {place : Place}
    (h : t.KeptOrMade t' made place) (hsub : ∀ p ∈ made, p ∈ more) :
    t.KeptOrMade t' more place :=
  h.imp_right fun ⟨hmem, hrest⟩ => ⟨hsub place hmem, hrest⟩

/-- What stood at a place still stands there. -/
lemma KeptOrMade.eq_of_ne_none {t t' : FileTree} {made : List Place} {place : Place}
    (h : t.KeptOrMade t' made place) (hplace : t.entry? place ≠ none) :
    t'.entry? place = t.entry? place :=
  h.resolve_right fun ⟨_, hnone, _⟩ => hplace hnone

lemma KeptOrMade.trans {t₁ t₂ t₃ : FileTree} {made more : List Place} {place : Place}
    (h : t₁.KeptOrMade t₂ made place) (h' : t₂.KeptOrMade t₃ more place) :
    t₁.KeptOrMade t₃ (made ++ more) place := by
  rcases h with hkept | ⟨hmem, hnone, hmade⟩
  · rcases h' with hkept' | ⟨hmem', hnone', hmade'⟩
    · exact Or.inl (hkept'.trans hkept)
    · exact Or.inr ⟨List.mem_append_right made hmem', hkept ▸ hnone', hmade'⟩
  · have hstill : t₃.entry? place = t₂.entry? place := h'.eq_of_ne_none (by rw [hmade]; simp)
    exact Or.inr ⟨List.mem_append_left more hmem, hnone, hstill.trans hmade⟩

/-- **A tree with some directories added**, each at one of the given places. -/
structure GrownBy (t t' : FileTree) (made : List Place) : Prop where
  wellFormed : t'.WellFormed
  workingDirectory : t'.workingDirectory = t.workingDirectory
  keptOrMade : ∀ place, t.KeptOrMade t' made place

namespace GrownBy

variable {t t₁ t₂ t' : FileTree} {made : List Place}

lemma refl (ht : t.WellFormed) (made : List Place) : t.GrownBy t made :=
  ⟨ht, rfl, fun _ => Or.inl rfl⟩

/-- One more directory. -/
lemma cons {next : Place} (h : (t.set next .directory).GrownBy t' made) (hne : next ≠ [])
    (hnext : t.entry? next = none) : t.GrownBy t' (next :: made) where
  wellFormed := h.wellFormed
  workingDirectory := h.workingDirectory
  keptOrMade place := by
      have hfirst : t.KeptOrMade (t.set next .directory) [next] place := by
        by_cases hplace : place = next
        · subst hplace
          exact Or.inr ⟨List.mem_singleton_self place, hnext, entry?_set_self t hne _⟩
        · exact Or.inl (entry?_set_of_ne t hne hplace _)
      exact hfirst.trans (h.keptOrMade place)

lemma mono {more : List Place} (h : t.GrownBy t' made) (hsub : ∀ p ∈ made, p ∈ more) :
    t.GrownBy t' more :=
  ⟨h.wellFormed, h.workingDirectory, fun place => (h.keptOrMade place).mono hsub⟩

/-- Directories are still there. -/
lemma directory (h : t.GrownBy t' made) {place : Place}
    (hplace : t.entry? place = some .directory) : t'.entry? place = some .directory :=
  ((h.keptOrMade place).eq_of_ne_none (by rw [hplace]; simp)).trans hplace

end GrownBy

/-! ## Steps -/

section Step

variable {t : FileTree} {place : Place} {segment : String}

/-- From a directory, one comes to where a segment leads if there is a directory. -/
lemma step?_of_directory (ht : t.WellFormed) (hplace : t.entry? place = some .directory) :
    t.step? place segment
      = if t.entry? (follow place segment) = some .directory then some (follow place segment)
        else none := by
  have hparent : t.entry? place.dropLast = some .directory :=
    ht.directory_above (List.dropLast_prefix place) hplace
  rw [step?_eq, follow]
  by_cases hblank : segment = "" ∨ segment = "."
  · rw [if_pos hblank, if_pos hblank, if_pos hplace]
  · rw [if_neg hblank, if_neg hblank]
    by_cases hup : segment = ".."
    · rw [if_pos hup, if_pos hup, if_pos hparent]
    · rw [if_neg hup, if_neg hup]

/-- Only a name can lead from a directory to a place that is none. -/
lemma follow_eq_append (ht : t.WellFormed) (hplace : t.entry? place = some .directory)
    (h : t.entry? (follow place segment) ≠ some .directory) :
    follow place segment = place ++ [segment] := by
  rw [follow] at h ⊢
  split_ifs at h ⊢ with hblank hup
  · exact absurd hplace h
  · exact absurd (ht.directory_above (List.dropLast_prefix place) hplace) h
  · rfl

lemma makeStep_of_directory (ht : t.WellFormed) (hplace : t.entry? place = some .directory)
    (h : t.entry? (follow place segment) = some .directory) :
    t.makeStep place segment = (t, some (follow place segment)) := by
  rw [makeStep, step?_of_directory ht hplace, if_pos h]

lemma makeStep_of_not_directory (ht : t.WellFormed) (hplace : t.entry? place = some .directory)
    (h : t.entry? (follow place segment) ≠ some .directory) :
    t.makeStep place segment
      = if t.entry? (follow place segment) = none ∧ segment.utf8ByteSize ≤ Path.nameLimit then
          (t.set (follow place segment) .directory, some (follow place segment))
        else (t, none) := by
  rw [makeStep, step?_of_directory ht hplace, if_neg h, follow_eq_append ht hplace h]
  simp only [Bool.and_eq_true, Option.isNone_iff_eq_none, decide_eq_true_eq]

/-- **What making one directory can come to**: it is there, it is made, or it cannot be made. -/
lemma makeStep_cases (ht : t.WellFormed) (hplace : t.entry? place = some .directory)
    (segment : String) :
    (t.entry? (follow place segment) = some .directory ∧
      t.makeStep place segment = (t, some (follow place segment))) ∨
    (t.entry? (follow place segment) = none ∧ follow place segment ≠ [] ∧
      (t.set (follow place segment) .directory).WellFormed ∧
      t.makeStep place segment
        = (t.set (follow place segment) .directory, some (follow place segment))) ∨
    (t.entry? (follow place segment) ≠ some .directory ∧
      (segment.utf8ByteSize ≤ Path.nameLimit → t.entry? (follow place segment) ≠ none) ∧
      t.makeStep place segment = (t, none)) := by
  by_cases hnext : t.entry? (follow place segment) = some .directory
  · exact Or.inl ⟨hnext, makeStep_of_directory ht hplace hnext⟩
  · right
    rw [makeStep_of_not_directory ht hplace hnext]
    split_ifs with hmade
    · left
      refine ⟨hmade.1, ?_, ?_, rfl⟩
      · intro hroot
        rw [hroot] at hnext
        exact hnext rfl
      · rw [follow_eq_append ht hplace hnext]
        exact ht.set hplace fun _ => rfl
    · right
      exact ⟨hnext, fun hsize hnone => hmade ⟨hnone, hsize⟩, rfl⟩

end Step

/-! ## Walking along a trail -/

section Walk

variable {t : FileTree} {place : Place} {segments : List String}

/-- A walk arrives nowhere but where the segments lead. -/
lemma eq_destination_of_walk? (ht : t.WellFormed) (hplace : t.entry? place = some .directory)
    {arrival : Place} (h : t.walk? place segments = some arrival) :
    arrival = destination place segments := by
  induction segments generalizing place with
  | nil => exact (Option.some.inj h).symm
  | cons segment rest ih =>
      rw [walk?, step?_of_directory ht hplace] at h
      split_ifs at h with hnext
      · exact ih hnext h
      · simp at h

/-- A walk over directories arrives. -/
lemma walk?_of_directories (ht : t.WellFormed) (hplace : t.entry? place = some .directory)
    (h : ∀ visited ∈ trail place segments, t.entry? visited = some .directory) :
    t.walk? place segments = some (destination place segments) := by
  induction segments generalizing place with
  | nil => rfl
  | cons segment rest ih =>
      rw [trail, List.forall_mem_cons] at h
      rw [walk?, step?_of_directory ht hplace, if_pos h.1]
      exact ih h.1 h.2

end Walk

/-- Only the segments that lead somewhere matter for a walk. -/
lemma walk?_steps (t : FileTree) (place : Place) (segments : List String) :
    t.walk? place (Path.steps segments) = t.walk? place segments := by
  induction segments generalizing place with
  | nil => rfl
  | cons segment rest ih =>
      by_cases hblank : segment = "" ∨ segment = "."
      · rw [Path.steps_cons_of_blank hblank, ih, walk?, step?, if_pos hblank]
        rfl
      · rw [Path.steps_cons_of_not_blank hblank, walk?, walk?]
        exact Option.bind_congr fun next _ => ih next

/-! ## Making directories along a trail -/

section Make

variable {t : FileTree} {place : Place} {segments : List String}

/-- **Making directories adds directories on the trail and changes nothing else**, even if it fails
on the way. -/
theorem grownBy_makeDirectories (ht : t.WellFormed) (hplace : t.entry? place = some .directory)
    (segments : List String) :
    t.GrownBy (t.makeDirectories place segments).1 (trail place segments) := by
  induction segments generalizing t place with
  | nil => exact GrownBy.refl ht _
  | cons segment rest ih =>
      rw [makeDirectories, trail]
      rcases makeStep_cases ht hplace segment with
        ⟨hnext, hstep⟩ | ⟨hnone, hne, hwf, hstep⟩ | ⟨-, -, hstep⟩
      · rw [hstep]
        exact (ih ht hnext).mono fun _ => List.mem_cons_of_mem _
      · rw [hstep]
        exact (ih hwf (entry?_set_self t hne _)).cons hne hnone
      · rw [hstep]
        exact GrownBy.refl ht _

/-- If making directories succeeds, it arrives where the segments lead, and the whole trail is
there. -/
theorem directory_of_makeDirectories (ht : t.WellFormed)
    (hplace : t.entry? place = some .directory) {t' : FileTree} {arrival : Place}
    (h : t.makeDirectories place segments = (t', some arrival)) :
    arrival = destination place segments ∧
      ∀ visited ∈ trail place segments, t'.entry? visited = some .directory := by
  induction segments generalizing t place with
  | nil =>
      obtain ⟨-, harrival⟩ := Prod.mk.inj h
      exact ⟨(Option.some.inj harrival).symm, by simp [trail]⟩
  | cons segment rest ih =>
      rw [makeDirectories] at h
      rw [trail, List.forall_mem_cons]
      -- after the first step the directory it led to is there, and making the rest keeps it
      have hfirst : ∃ t₁ : FileTree, t₁.WellFormed ∧
          t₁.entry? (follow place segment) = some .directory ∧
          t₁.makeDirectories (follow place segment) rest = (t', some arrival) := by
        rcases makeStep_cases ht hplace segment with
          ⟨hnext, hstep⟩ | ⟨-, hne, hwf, hstep⟩ | ⟨-, -, hstep⟩
        · exact ⟨t, ht, hnext, by rwa [hstep] at h⟩
        · exact ⟨_, hwf, entry?_set_self t hne _, by rwa [hstep] at h⟩
        · rw [hstep] at h
          simp at h
      obtain ⟨t₁, ht₁, hnext, hrest⟩ := hfirst
      have hgrown := grownBy_makeDirectories ht₁ hnext rest
      rw [hrest] at hgrown
      obtain ⟨harrival, hvisited⟩ := ih ht₁ hnext hrest
      exact ⟨harrival, hgrown.directory hnext, hvisited⟩

/-- Directories that are there need not be made. -/
lemma makeDirectories_of_directories (ht : t.WellFormed)
    (hplace : t.entry? place = some .directory)
    (h : ∀ visited ∈ trail place segments, t.entry? visited = some .directory) :
    t.makeDirectories place segments = (t, some (destination place segments)) := by
  induction segments generalizing place with
  | nil => rfl
  | cons segment rest ih =>
      rw [trail, List.forall_mem_cons] at h
      rw [makeDirectories, makeStep_of_directory ht hplace h.1]
      exact ih h.1 h.2

/-- A file stands at a place. -/
def IsFile (t : FileTree) (place : Place) : Prop := ∃ content, t.entry? place = some (.file content)

lemma isFile_iff {t : FileTree} {place : Place} :
    t.IsFile place ↔ t.entry? place ≠ none ∧ t.entry? place ≠ some .directory := by
  rw [IsFile]
  rcases t.entry? place with _ | (content | _) <;> simp

/-- **Without a file on the trail, making directories succeeds**, if the names are short enough. -/
theorem exists_makeDirectories (ht : t.WellFormed) (hplace : t.entry? place = some .directory)
    (hsize : ∀ segment ∈ segments, segment.utf8ByteSize ≤ Path.nameLimit)
    (h : ∀ visited ∈ trail place segments, ¬ t.IsFile visited) :
    ∃ t', t.makeDirectories place segments = (t', some (destination place segments)) := by
  induction segments generalizing t place with
  | nil => exact ⟨t, rfl⟩
  | cons segment rest ih =>
      rw [List.forall_mem_cons] at hsize
      rw [trail, List.forall_mem_cons] at h
      rw [makeDirectories]
      rcases makeStep_cases ht hplace segment with
        ⟨hnext, hstep⟩ | ⟨-, hne, hwf, hstep⟩ | ⟨hnext, hnone, -⟩
      · rw [hstep]
        exact ih ht hnext hsize.2 h.2
      · rw [hstep]
        refine ih hwf (entry?_set_self t hne _) hsize.2 ?_
        intro visited hvisited
        have hnofile := h.2 visited hvisited
        rw [IsFile, entry?_set t hne]
        split_ifs
        · simp
        · exact hnofile
      · exact absurd (isFile_iff.mpr ⟨hnone hsize.1, hnext⟩) h.1

/-- **A file on a trail that never leads up makes it fail**, and nothing is made. -/
theorem makeDirectories_of_file (ht : t.WellFormed) (hplace : t.entry? place = some .directory)
    (hdown : ∀ segment ∈ segments, segment ≠ "..") {visited : Place}
    (hvisited : visited ∈ trail place segments) (hfile : t.IsFile visited) :
    t.makeDirectories place segments = (t, none) := by
  induction segments generalizing place with
  | nil => simp [trail] at hvisited
  | cons segment rest ih =>
      rw [List.forall_mem_cons] at hdown
      obtain ⟨hsome, hnot⟩ := isFile_iff.mp hfile
      rw [makeDirectories]
      by_cases heq : visited = follow place segment
      · subst heq
        rw [makeStep_of_not_directory ht hplace hnot, if_neg fun h => hsome h.1]
      · -- the file stands further down, so the step leads to a directory above it
        have hvisited : visited ∈ trail (follow place segment) rest :=
          (List.mem_cons.mp hvisited).resolve_left heq
        obtain ⟨below, rfl⟩ := prefix_of_mem_trail hdown.2 hvisited
        have hbelow : below ≠ [] := fun hnil => heq (by rw [hnil, List.append_nil])
        have hnext := ht.directory_of_append hbelow hsome
        rw [makeStep_of_directory ht hplace hnext]
        exact ih hnext hdown.2 hvisited

end Make

end FileTree
end LedgerCheck
