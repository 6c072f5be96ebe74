import LedgerCheck.Proofs.Storage.Walk
import LedgerCheck.Storage.AtomicWrite

/-!
# Writing files as a whole

Writing a file makes the directories of its path, puts a file of another name beside the target and
moves it over the target.  The file of another name never outlives the write, so a write comes to
one of two things: directories on the way are made and the target holds the new content, or
directories on the way are made and nothing else happens.

* `FileTree.target`, `FileTree.parents` — the place that a path names, and the places that the path
  of its directory leads over, whatever stands there.
* `FileTree.replace_eq` — the file of another name leaves no trace.
* **`FileTree.write_cases`** — what a write comes to.
* `FileTree.write_of_file_above`, `FileTree.write_of_directory`, `FileTree.write_of_free` — an
  ordinary path within the limits of the file system: what stands in the way of a write.
* **`FileTree.writesWhole`** — a file is written as a whole or not at all.
-/

namespace LedgerCheck
namespace FileTree

open Place

/-! ## Where a file goes -/

/-- The place that a path names, whatever stands there. -/
def target (t : FileTree) (path : String) : Place :=
  destination (t.start (Path.ofText path)) (Path.ofText path).segments

/-- The place of the directory that a file is put into. -/
def home (t : FileTree) (path : String) : Place :=
  destination (t.start (Path.ofText path).directory) (Path.ofText path).directory.segments

/-- The places that the path of the directory leads over. -/
def parents (t : FileTree) (path : String) : List Place :=
  trail (t.start (Path.ofText path).directory) (Path.ofText path).directory.segments

section Target

variable {t : FileTree} {path : String}

lemma start_directory (t : FileTree) (h : Path.isName (Path.ofText path).last = true) :
    t.start (Path.ofText path).directory = t.start (Path.ofText path) := by
  rw [start, start, Path.absolute_directory h]

/-- The name at the end of a path stands in the directory that the file is put into. -/
lemma target_eq_append (t : FileTree) (h : Path.isName (Path.ofText path).last = true) :
    t.target path = t.home path ++ [(Path.ofText path).last] := by
  rw [target, home, start_directory t h, ← destination_steps _ (Path.ofText path).directory.segments,
    Path.steps_directory h, destination_steps, ← destination_append_name h,
    ← Path.segments_eq_append h]

/-- If the places on the way are directories, then so is the one that the file is put into. -/
lemma directory_home (ht : t.WellFormed)
    (h : ∀ place ∈ t.parents path, t.entry? place = some .directory) :
    t.entry? (t.home path) = some .directory := by
  rcases destination_eq_or_mem_trail (t.start (Path.ofText path).directory)
    (Path.ofText path).directory.segments with hstart | htrail
  · rw [home, hstart]
    exact ht.start _
  · exact h _ htrail

/-- A path that names the place of a file ends in a name that is short enough, and it can be handed
to the file system. -/
lemma name_of_filePlace? {place : Place} (h : t.filePlace? path = some place) :
    Path.isAdmissible path = true ∧ Path.isName (Path.ofText path).last = true ∧
      (Path.ofText path).last.utf8ByteSize ≤ Path.nameLimit := by
  simp only [filePlace?] at h
  split_ifs at h with hname
  simpa only [Bool.and_eq_true, decide_eq_true_eq, and_assoc] using hname

/-- A path names no file anywhere but at its target. -/
lemma eq_target_of_filePlace? (ht : t.WellFormed) {place : Place}
    (h : t.filePlace? path = some place) : place = t.target path := by
  obtain ⟨hadmissible, hname, hsize⟩ := name_of_filePlace? h
  simp only [filePlace?, hadmissible, hname, hsize, decide_true, Bool.and_self, if_true] at h
  obtain ⟨arrival, harrival, rfl⟩ := Option.map_eq_some_iff.mp h
  rw [eq_destination_of_walk? ht (ht.start _) harrival, ← destination_append_name hname,
    ← Path.segments_eq_append hname, target]

/-- With the directories on the way there, a path names its target. -/
lemma filePlace?_of_parents (ht : t.WellFormed) (hadmissible : Path.isAdmissible path = true)
    (hname : Path.isName (Path.ofText path).last = true)
    (hsize : (Path.ofText path).last.utf8ByteSize ≤ Path.nameLimit)
    (h : ∀ place ∈ t.parents path, t.entry? place = some .directory) :
    t.filePlace? path = some (t.target path) := by
  have hwalk : t.walk? (t.start (Path.ofText path)) (Path.ofText path).leading
      = some (t.home path) := by
    rw [← walk?_steps, ← Path.steps_directory hname, walk?_steps, ← start_directory t hname]
    exact walk?_of_directories ht (ht.start _) h
  simp only [filePlace?, hadmissible, hname, hsize, decide_true, Bool.and_self, if_true, hwalk,
    Option.map_some, target_eq_append t hname]

end Target

/-! ## The file beside the target -/

/-- **The file beside the target leaves no trace.**  Either it replaces the file at the place that
the path names, or the tree is as it was. -/
lemma replace_eq (t : FileTree) (directory : Place) (path : String) (content : ByteArray) :
    t.replace directory path content =
      match t.filePlace? path with
      | none => (t, .error (.notReplaced path))
      | some place =>
        if t.entry? place = some .directory then (t, .error (.notReplaced path))
        else (t.set place (.file content), .ok ()) := by
  have hne : directory ++ [t.freshName] ≠ [] := by simp
  have hfresh : t.entry? (directory ++ [t.freshName]) = none := t.entry?_freshName directory
  have hsame := sameDirectories_set t hne (by rw [hfresh]; simp) content
  have hremove := remove_set t hne hfresh (.file content)
  simp only [replace, rename?, entry?_set_self t hne, hsame.filePlace?, hsame.directory_iff,
    hremove, Option.bind_eq_bind, Option.bind_some]
  cases t.filePlace? path with
  | none => rfl
  | some place =>
      simp only [Option.bind_some]
      split_ifs <;> rfl

/-! ## What a write comes to -/

section Write

variable {t : FileTree}

lemma grownBy_makePath (ht : t.WellFormed) (p : Path) :
    t.GrownBy (t.makePath p).1 (trail (t.start p) p.segments) := by
  rw [makePath]
  split_ifs
  · exact grownBy_makeDirectories ht (ht.start p) p.segments
  · exact GrownBy.refl ht _

lemma GrownBy.start {t' : FileTree} {made : List Place} (h : t.GrownBy t' made) (p : Path) :
    t'.start p = t.start p := by
  rw [FileTree.start, FileTree.start, h.workingDirectory]

lemma GrownBy.parents {t' : FileTree} {made : List Place} (h : t.GrownBy t' made)
    (path : String) : t'.parents path = t.parents path := by
  rw [FileTree.parents, FileTree.parents, h.start]

lemma GrownBy.target {t' : FileTree} {made : List Place} (h : t.GrownBy t' made)
    (path : String) : t'.target path = t.target path := by
  rw [FileTree.target, FileTree.target, h.start]

/-- **What a write comes to.**  The directories of the path are made, all of them or some; then the
target holds the new content, or nothing else happens. -/
theorem write_cases (ht : t.WellFormed) (path : String) (content : ByteArray) :
    (∃ t', t.GrownBy t' (t.parents path) ∧
      (∀ place ∈ t.parents path, t'.entry? place = some .directory) ∧
      t'.filePlace? path = some (t.target path) ∧
      t'.entry? (t.target path) ≠ some .directory ∧
      t.write path content = (t'.set (t.target path) (.file content), .ok ())) ∨
    ∃ t' e, t.GrownBy t' (t.parents path) ∧ t.write path content = (t', .error e) := by
  have hgrown := grownBy_makePath ht (Path.ofText path).directory
  rw [write]
  cases hmake : t.makePath (Path.ofText path).directory with
  | mk t' arrival? =>
      rw [hmake] at hgrown
      cases arrival? with
      | none => exact Or.inr ⟨t', _, hgrown, rfl⟩
      | some arrival =>
          simp only
          split_ifs
          · rw [replace_eq]
            cases hplace : t'.filePlace? path with
            | none => exact Or.inr ⟨t', _, hgrown, rfl⟩
            | some place =>
                have htarget : place = t.target path :=
                  (eq_target_of_filePlace? hgrown.wellFormed hplace).trans (hgrown.target path)
                subst htarget
                simp only
                split_ifs with hdirectory
                · exact Or.inr ⟨t', _, hgrown, rfl⟩
                · refine Or.inl ⟨t', hgrown, ?_, hplace, hdirectory, rfl⟩
                  rw [makePath] at hmake
                  split_ifs at hmake
                  · exact (directory_of_makeDirectories ht (ht.start _) hmake).2
                  · simp at hmake
          · exact Or.inr ⟨t', _, hgrown, rfl⟩

/-- A write leaves a well-formed tree well formed. -/
lemma wellFormed_write (ht : t.WellFormed) (path : String) (content : ByteArray) :
    (t.write path content).1.WellFormed := by
  rcases write_cases ht path content with
    ⟨t', hgrown, hparents, hplace, htarget, hwrite⟩ | ⟨t', e, hgrown, hwrite⟩
  · have hname := (name_of_filePlace? hplace).2.1
    have hhome : t'.entry? (t'.home path) = some .directory := by
      apply directory_home hgrown.wellFormed
      rwa [hgrown.parents]
    rw [hwrite]
    rw [← hgrown.target, target_eq_append t' hname] at htarget ⊢
    exact hgrown.wellFormed.set hhome fun hdirectory => absurd hdirectory htarget
  · rw [hwrite]
    exact hgrown.wellFormed

/-- A file whose name is too long is not written. -/
lemma write_ne_ok_of_long_name (ht : t.WellFormed) {path : String}
    (h : Path.nameLimit < (Path.ofText path).last.utf8ByteSize) (content : ByteArray) :
    (t.write path content).2 ≠ .ok () := by
  rcases write_cases ht path content with ⟨t', -, -, hplace, -⟩ | ⟨t', e, -, hwrite⟩
  · have hsize := (name_of_filePlace? hplace).2.2
    omega
  · rw [hwrite]
    simp

end Write

/-! ## Ordinary paths -/

/-- A path is within the limits of the file system: it can be handed over, its names are short
enough, and there is room for the file beside the target. -/
structure Admits (t : FileTree) (path : String) : Prop where
  isAdmissible : Path.isAdmissible path = true
  names : ∀ segment ∈ (Path.ofText path).segments, segment.utf8ByteSize ≤ Path.nameLimit
  hasRoom : t.hasRoom (Path.ofText path).directory = true

section Ordinary

variable {t : FileTree} {path : String}

lemma ne_up_of_mem_directory (h : (Path.ofText path).IsOrdinary) :
    ∀ segment ∈ (Path.ofText path).directory.segments, segment ≠ ".." := by
  intro segment hsegment
  rcases Path.mem_segments_of_mem_directory h.1 hsegment with rfl | hmem
  · decide
  · exact h.2 segment hmem

lemma Admits.directory_names (hadmits : t.Admits path) (h : (Path.ofText path).IsOrdinary) :
    ∀ segment ∈ (Path.ofText path).directory.segments,
      segment.utf8ByteSize ≤ Path.nameLimit := by
  intro segment hsegment
  rcases Path.mem_segments_of_mem_directory h.1 hsegment with rfl | hmem
  · decide
  · exact hadmits.names segment hmem

lemma Admits.name (hadmits : t.Admits path) (h : (Path.ofText path).IsOrdinary) :
    (Path.ofText path).last.utf8ByteSize ≤ Path.nameLimit := by
  apply hadmits.names
  rw [Path.segments_eq_append h.1]
  simp

lemma Admits.makePath (hadmits : t.Admits path) (h : (Path.ofText path).IsOrdinary) :
    t.makePath (Path.ofText path).directory
      = t.makeDirectories (t.start (Path.ofText path).directory)
          (Path.ofText path).directory.segments := by
  have htext := hadmits.isAdmissible
  rw [← Path.ofText_text path] at htext
  rw [FileTree.makePath, if_pos (Path.isAdmissible_directory h.1 htext)]

/-- Above the target of an ordinary path stand the places that the path of its directory leads over,
and what is above its start. -/
lemma above_target_iff (h : (Path.ofText path).IsOrdinary) {above : Place} :
    above <+: t.target path ∧ above ≠ t.target path ↔
      above <+: t.start (Path.ofText path).directory ∨ above ∈ t.parents path := by
  have hdown := ne_up_of_mem_directory h
  have hproper : ∀ {place : Place}, place <+: t.home path →
      place <+: t.target path ∧ place ≠ t.target path := by
    intro place hplace
    rw [target_eq_append t h.1]
    refine ⟨hplace.trans (List.prefix_append _ _), ?_⟩
    rintro rfl
    simpa using hplace.length_le
  constructor
  · rintro ⟨hbelow, hne⟩
    rw [target_eq_append t h.1] at hbelow hne
    exact prefix_or_mem_trail hdown ((List.prefix_concat_iff.mp hbelow).resolve_left hne)
  · rintro (hstart | htrail)
    · exact hproper (hstart.trans (prefix_destination hdown _))
    · exact hproper (prefix_destination_of_mem_trail hdown htrail)

/-- A file that is in the way of an ordinary path stands where the directories would be made. -/
lemma exists_file_above_iff (ht : t.WellFormed) (h : (Path.ofText path).IsOrdinary) :
    (∃ above, above <+: t.target path ∧ above ≠ t.target path ∧ t.IsFile above) ↔
      ∃ place ∈ t.parents path, t.IsFile place := by
  constructor
  · rintro ⟨above, hbelow, hne, hfile⟩
    rcases (above_target_iff h).mp ⟨hbelow, hne⟩ with hstart | htrail
    · exact absurd (ht.directory_above hstart (ht.start _)) (isFile_iff.mp hfile).2
    · exact ⟨above, htrail, hfile⟩
  · rintro ⟨place, htrail, hfile⟩
    obtain ⟨hbelow, hne⟩ := (above_target_iff h).mpr (Or.inr htrail)
    exact ⟨place, hbelow, hne, hfile⟩

/-- A file above the target makes the write fail before anything is made. -/
lemma write_of_file_above (ht : t.WellFormed) (h : (Path.ofText path).IsOrdinary)
    (hadmits : t.Admits path) (hfile : ∃ place ∈ t.parents path, t.IsFile place)
    (content : ByteArray) :
    t.write path content
      = (t, .error (.noDirectory (Path.ofText path).directory.text)) := by
  obtain ⟨place, htrail, hfile⟩ := hfile
  rw [write, hadmits.makePath h,
    makeDirectories_of_file ht (ht.start _) (ne_up_of_mem_directory h) htrail hfile]

/-- A directory at the target is not replaced, and nothing is made. -/
lemma write_of_directory (ht : t.WellFormed) (h : (Path.ofText path).IsOrdinary)
    (hadmits : t.Admits path) (htarget : t.entry? (t.target path) = some .directory)
    (content : ByteArray) : t.write path content = (t, .error (.notReplaced path)) := by
  have hparents : ∀ place ∈ t.parents path, t.entry? place = some .directory := by
    intro place hplace
    exact ht.directory_above ((above_target_iff h).mpr (Or.inr hplace)).1 htarget
  rw [write, hadmits.makePath h, makeDirectories_of_directories ht (ht.start _) hparents]
  simp only [hadmits.hasRoom, if_true]
  rw [replace_eq, filePlace?_of_parents ht hadmits.isAdmissible h.1 (hadmits.name h) hparents]
  exact if_pos htarget

/-- With no file above the target and no directory there, the write succeeds. -/
lemma write_of_free (ht : t.WellFormed) (h : (Path.ofText path).IsOrdinary)
    (hadmits : t.Admits path) (hfile : ¬ ∃ place ∈ t.parents path, t.IsFile place)
    (htarget : t.entry? (t.target path) ≠ some .directory) (content : ByteArray) :
    (t.write path content).2 = .ok () := by
  obtain ⟨t', hmake⟩ := exists_makeDirectories ht (ht.start _) (hadmits.directory_names h)
    fun place hplace hisFile => hfile ⟨place, hplace, hisFile⟩
  have hgrown : t.GrownBy t' (t.parents path) := by
    have hmade := grownBy_makePath ht (Path.ofText path).directory
    rwa [hadmits.makePath h, hmake] at hmade
  have hparents := (directory_of_makeDirectories ht (ht.start _) hmake).2
  have hplace : t'.filePlace? path = some (t.target path) := by
    rw [← hgrown.target]
    refine filePlace?_of_parents hgrown.wellFormed hadmits.isAdmissible h.1 (hadmits.name h) ?_
    rwa [hgrown.parents]
  have hroom : t'.hasRoom (Path.ofText path).directory = true := by
    rw [hasRoom, sizeFromRoot, hgrown.start]
    exact hadmits.hasRoom
  have hfree : t'.entry? (t.target path) ≠ some .directory := by
    rcases hgrown.keptOrMade (t.target path) with hkept | ⟨hmade, -, -⟩
    · rwa [hkept]
    · exact absurd rfl ((above_target_iff h).mpr (Or.inr hmade)).2
  rw [write, hadmits.makePath h, hmake]
  simp only [hroom, if_true]
  rw [replace_eq, hplace]
  simp only [if_neg hfree]

end Ordinary

/-! ## As a whole or not at all -/

/-- **A file is written as a whole or not at all.**  Where the write succeeds, the target holds the
content and the directories on the way are there; where it fails, no file has changed.  In both
cases nothing else has changed but that some directories on the way were made.  On an ordinary path
within the limits of the file system only a file above the target or a directory at the target makes
it fail, and then not even a directory is made. -/
structure WritesWhole (t : FileTree) (path : String) (content : ByteArray)
    (after : FileTree) (outcome : Except WriteError Unit) : Prop where
  written : outcome = .ok () →
    after.read? path = some content ∧
    after.entry? (t.target path) = some (.file content) ∧
    (∀ place ∈ t.parents path, after.entry? place = some .directory) ∧
    ∀ place, place ≠ t.target path → t.KeptOrMade after (t.parents path) place
  failed : outcome ≠ .ok () → ∀ place, t.KeptOrMade after (t.parents path) place
  failed_iff : (Path.ofText path).IsOrdinary → t.Admits path →
    (outcome ≠ .ok () ↔
      (∃ above, above <+: t.target path ∧ above ≠ t.target path ∧ t.IsFile above) ∨
        t.entry? (t.target path) = some .directory)
  unchanged : (Path.ofText path).IsOrdinary → t.Admits path → outcome ≠ .ok () → after = t

/-- Every write keeps that promise. -/
theorem writesWhole {t : FileTree} (ht : t.WellFormed) (path : String) (content : ByteArray) :
    t.WritesWhole path content (t.write path content).1 (t.write path content).2 where
  written hok := by
      rcases write_cases ht path content with
        ⟨t', hgrown, hparents, hplace, htarget, hwrite⟩ | ⟨t', e, -, hwrite⟩
      · have hne : t.target path ≠ [] := by
          intro hroot
          rw [hroot] at htarget
          exact htarget rfl
        have hsame := sameDirectories_set t' hne htarget content
        have hcontent := entry?_set_self t' hne (.file content)
        rw [hwrite]
        refine ⟨?_, hcontent, ?_, ?_⟩
        · simp only [read?, hsame.filePlace?, hplace, Option.bind_some, hcontent]
        · intro place hparent
          exact (hsame.directory_iff place).mpr (hparents place hparent)
        · intro place hother
          rw [KeptOrMade, entry?_set_of_ne t' hne hother]
          exact hgrown.keptOrMade place
      · rw [hwrite] at hok
        simp at hok
  failed hfailed := by
      rcases write_cases ht path content with ⟨t', -, -, -, -, hwrite⟩ | ⟨t', e, hgrown, hwrite⟩
      · rw [hwrite] at hfailed
        exact absurd rfl hfailed
      · rw [hwrite]
        exact hgrown.keptOrMade
  failed_iff hordinary hadmits := by
      rw [exists_file_above_iff ht hordinary]
      constructor
      · intro hfailed
        by_contra hfree
        rw [not_or] at hfree
        exact hfailed (write_of_free ht hordinary hadmits hfree.1 hfree.2 content)
      · rintro (hfile | htarget)
        · rw [write_of_file_above ht hordinary hadmits hfile]
          simp
        · rw [write_of_directory ht hordinary hadmits htarget]
          simp
  unchanged hordinary hadmits hfailed := by
      by_cases hfile : ∃ place ∈ t.parents path, t.IsFile place
      · rw [write_of_file_above ht hordinary hadmits hfile]
      · by_cases htarget : t.entry? (t.target path) = some .directory
        · rw [write_of_directory ht hordinary hadmits htarget]
        · exact absurd (write_of_free ht hordinary hadmits hfile htarget content) hfailed

end FileTree
end LedgerCheck
