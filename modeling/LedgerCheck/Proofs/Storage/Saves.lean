import LedgerCheck.Proofs.Storage.Write
import LedgerCheck.RunResult.Closing

/-!
# Any number of saves

Values and reports are saved one after another, each under a path of its own.  Every one of them is
written as a whole or not at all, whatever the ones before it came to.  In the end each place holds
what the last successful save put there, or else what it held before.

* `Save` — a value or a report to be saved; `Save.run` saves it.
* `Save.writes` — what the saves write, and where.
* `Save.entry?_runAll` — what stands at a place after any number of saves.
* **`Save.runAll_whole`** — what saves do to a file tree.
-/

namespace LedgerCheck

/-- A report that has a path is written like any other value. -/
lemma RunResult.writesWhole_persist (r : RunResult) {t : FileTree} (ht : t.WellFormed)
    {path : String} (hpath : path ≠ "") :
    t.WritesWhole path r.fileText.toUTF8 (r.persist path t) (t.writeJson path r.toJson).2 := by
  rw [RunResult.persist, if_neg hpath]
  exact FileTree.writesWhole ht path r.fileText.toUTF8

/-- A value or a report to be saved. -/
inductive Save where
  | value (path : String) (v : Json)
  | report (path : String) (r : RunResult)

namespace Save

open FileTree

/-! ## One save -/

/-- Saves something. -/
def run (t : FileTree) : Save → FileTree
  | value path v => (t.writeJson path v).1
  | report path r => r.persist path t

/-- The path and the value that are to be written.  A report without a path is not written. -/
def request? : Save → Option (String × Json)
  | value path v => some (path, v)
  | report path r => if path = "" then none else some (path, r.toJson)

/-- The place that is written to and its content, if the save succeeds. -/
def written? (t : FileTree) (s : Save) : Option (Place × ByteArray) :=
  s.request?.bind fun (path, v) =>
    match (t.writeJson path v).2 with
    | .ok _ => some (t.target path, v.fileText.toUTF8)
    | .error _ => none

/-- The places that the path of the directory leads over. -/
def parents (t : FileTree) (s : Save) : List Place :=
  (s.request?.map fun (path, _) => t.parents path).getD []

/-- A save writes what is to be written, if anything. -/
lemma run_eq (t : FileTree) (s : Save) :
    s.run t = (s.request?.map fun (path, v) => (t.writeJson path v).1).getD t := by
  cases s with
  | value path v => rfl
  | report path r =>
      rw [run, request?, RunResult.persist]
      split_ifs <;> rfl

section Run

variable {t : FileTree}

lemma wellFormed_run (ht : t.WellFormed) (s : Save) : (s.run t).WellFormed := by
  rw [run_eq]
  cases s.request? with
  | none => exact ht
  | some request => exact wellFormed_write ht request.1 request.2.fileText.toUTF8

lemma workingDirectory_run (ht : t.WellFormed) (s : Save) :
    (s.run t).workingDirectory = t.workingDirectory := by
  rw [run_eq]
  cases s.request? with
  | none => rfl
  | some request =>
      simp only [Option.map_some, Option.getD_some, writeJson]
      rcases write_cases ht request.1 request.2.fileText.toUTF8 with
        ⟨t', hgrown, -, -, -, hwrite⟩ | ⟨t', e, hgrown, hwrite⟩
      · rw [hwrite]
        exact hgrown.workingDirectory
      · rw [hwrite]
        exact hgrown.workingDirectory

/-- **What one save does to a place**: it puts the content there, or it keeps the place or makes a
directory of the way. -/
lemma entry?_run (ht : t.WellFormed) (s : Save) (place : Place) :
    (∀ content, (s.written? t).toList.lookup place = some content →
      FileTree.entry? (s.run t) place = some (.file content)) ∧
    ((s.written? t).toList.lookup place = none →
      t.KeptOrMade (s.run t) (s.parents t) place) := by
  rw [written?, parents, run_eq]
  cases s.request? with
  | none => exact ⟨by simp, fun _ => Or.inl rfl⟩
  | some request =>
      obtain ⟨path, v⟩ := request
      have hwhole := writesWhole ht path v.fileText.toUTF8
      simp only [Option.map_some, Option.getD_some, Option.bind_some, writeJson]
      cases houtcome : (t.write path v.fileText.toUTF8).2 with
      | error e => exact ⟨by simp, fun _ => hwhole.failed (by rw [houtcome]; simp) place⟩
      | ok _ =>
          obtain ⟨-, htarget, -, hother⟩ := hwhole.written houtcome
          by_cases hplace : place = t.target path
          · subst hplace
            simpa using htarget
          · have hlookup : List.lookup place [(t.target path, v.fileText.toUTF8)] = none := by
              rw [List.lookup_cons, beq_false_of_ne hplace]
              rfl
            simp only [Option.toList_some, hlookup]
            exact ⟨by simp, fun _ => hother place hplace⟩

end Run

/-! ## One save after another -/

/-- Saves one thing after another. -/
def runAll (t : FileTree) (saves : List Save) : FileTree := saves.foldl run t

/-- What the saves write and where, the last one first. -/
def writes (t : FileTree) : List Save → List (Place × ByteArray)
  | [] => []
  | s :: rest => writes (s.run t) rest ++ (s.written? t).toList

/-- The places that the paths of the directories lead over. -/
def allParents (t : FileTree) (saves : List Save) : List Place := saves.flatMap (parents t)

lemma allParents_congr {t t' : FileTree} (h : t'.workingDirectory = t.workingDirectory)
    (saves : List Save) : allParents t' saves = allParents t saves := by
  have hparents : parents t' = parents t := by
    funext s
    simp only [parents, FileTree.parents, start, h]
  rw [allParents, allParents, hparents]

lemma wellFormed_runAll {t : FileTree} (ht : t.WellFormed) (saves : List Save) :
    (runAll t saves).WellFormed := by
  induction saves generalizing t with
  | nil => exact ht
  | cons s rest ih => exact ih (wellFormed_run ht s)

/-- **What stands at a place after any number of saves**: what the last one put there that wrote to
it, or else what stood there before, or a directory of the way. -/
theorem entry?_runAll {t : FileTree} (ht : t.WellFormed) (saves : List Save) (place : Place) :
    (∀ content, (writes t saves).lookup place = some content →
      FileTree.entry? (runAll t saves) place = some (.file content)) ∧
    ((writes t saves).lookup place = none →
      t.KeptOrMade (runAll t saves) (allParents t saves) place) := by
  induction saves generalizing t with
  | nil => exact ⟨by simp [writes], fun _ => Or.inl rfl⟩
  | cons s rest ih =>
      obtain ⟨hput, hkept⟩ := entry?_run ht s place
      obtain ⟨hputLater, hkeptLater⟩ := ih (wellFormed_run ht s)
      have hrun : runAll t (s :: rest) = runAll (s.run t) rest := rfl
      rw [allParents_congr (workingDirectory_run ht s)] at hkeptLater
      rw [writes, List.lookup_append, hrun]
      cases hlater : (writes (s.run t) rest).lookup place with
      | some content => simpa using hputLater content hlater
      | none =>
          have hrest := hkeptLater hlater
          rw [Option.none_or]
          refine ⟨?_, fun hnone => (hkept hnone).trans hrest⟩
          intro content hcontent
          have hfirst := hput content hcontent
          exact (hrest.eq_of_ne_none (by rw [hfirst]; simp)).trans hfirst

/-- **What saves do to a file tree.**  After any number of them, saving a value is done as a whole
or not at all, a report is saved like any other value, and a report without a path is not saved.  In
the end each place holds the indented text of what was saved there last, or else what it held
before, unless nothing stood there and a directory was made on the way to another place. -/
theorem runAll_whole {t : FileTree} (ht : t.WellFormed) (saves : List Save) :
    (∀ (path : String) (v : Json),
      (runAll t saves).WritesWhole path (v.pretty ++ "\n").toUTF8
        ((runAll t saves).writeJson path v).1 ((runAll t saves).writeJson path v).2) ∧
    (∀ (path : String) (r : RunResult),
      r.persist path (runAll t saves)
        = if path = "" then runAll t saves else ((runAll t saves).writeJson path r.toJson).1) ∧
    ∀ place,
      (∀ content, (writes t saves).lookup place = some content →
        FileTree.entry? (runAll t saves) place = some (.file content)) ∧
      ((writes t saves).lookup place = none →
        t.KeptOrMade (runAll t saves) (allParents t saves) place) := by
  refine ⟨?_, fun _ _ => rfl, entry?_runAll ht saves⟩
  intro path v
  exact writesWhole (wellFormed_runAll ht saves) path (v.pretty ++ "\n").toUTF8

/-- Three saves in a directory with a file: nothing goes below the file, a file goes into a new
directory, and nothing replaces that directory. -/
theorem runAll_beside_file :
    let t := FileTree.empty.set ["f"] (.file "x".toUTF8)
    let saves := [value "f/a.json" .null, value "out/a.json" (.bool true), value "out" .null]
    t.WellFormed ∧
      FileTree.entry? (runAll t saves) ["f"] = some (.file "x".toUTF8) ∧
      FileTree.entry? (runAll t saves) ["out", "a.json"] = some (.file "true\n".toUTF8) := by
  intro t saves
  have ht : t.WellFormed := wellFormed_empty.set_in_root (by decide) _
  obtain ⟨-, -, hplaces⟩ := runAll_whole ht saves
  have hold : (writes t saves).lookup ["f"] = none := by decide
  have hnew : (writes t saves).lookup ["out", "a.json"] = some "true\n".toUTF8 := by decide
  have hkept := (hplaces ["f"]).2 hold
  have hwritten := (hplaces ["out", "a.json"]).1 _ hnew
  refine ⟨ht, (hkept.eq_of_ne_none ?_).trans ?_, hwritten⟩
  · rw [entry?_set_self _ (by simp)]
    simp
  · exact entry?_set_self _ (by simp) _

/-- **The limits are needed.**  In the empty tree no file is above the target and no directory at it,
but a name of 256 bytes is not written. -/
theorem writeJson_long_name :
    let name := String.ofList (List.replicate 256 'a')
    FileTree.empty.WellFormed ∧ (Path.ofText name).IsOrdinary ∧
      (∀ place, ¬ FileTree.empty.IsFile place) ∧
      FileTree.empty.entry? (FileTree.empty.target name) ≠ some .directory ∧
      (FileTree.empty.writeJson name .null).2 ≠ .ok () := by
  intro name
  have hpath : Path.ofText name = ⟨false, [name]⟩ := by
    apply Path.ofText_of_not_mem
    rw [String.toList_ofList]
    intro hslash
    exact absurd (List.eq_of_mem_replicate hslash) (by decide)
  have hsize : name.utf8ByteSize = 256 := by decide +kernel
  have hne : ∀ {short : String}, short.utf8ByteSize ≠ 256 → name ≠ short := by
    rintro short hshort rfl
    exact hshort hsize
  have hordinary : (Path.ofText name).IsOrdinary := by
    rw [hpath]
    refine ⟨?_, List.forall_mem_singleton.mpr (hne (by decide))⟩
    simp [Path.last, Path.isName, hne (show ("" : String).utf8ByteSize ≠ 256 by decide),
      hne (show ".".utf8ByteSize ≠ 256 by decide), hne (show "..".utf8ByteSize ≠ 256 by decide)]
  have hentry : ∀ {place}, place ≠ [] → FileTree.empty.entry? place = none := by
    intro place hplace
    rw [entry?_of_ne_nil _ hplace]
    rfl
  refine ⟨wellFormed_empty, hordinary, ?_, ?_, ?_⟩
  · rintro place ⟨content, hcontent⟩
    have hroot : FileTree.empty.entry? [] = some .directory := rfl
    cases place with
    | nil => simp [hroot] at hcontent
    | cons first rest => simp [hentry] at hcontent
  · rw [target_eq_append _ hordinary.1, hentry (by simp)]
    simp
  · apply write_ne_ok_of_long_name wellFormed_empty
    rw [hpath]
    simp [Path.last, Path.nameLimit, hsize]

end Save
end LedgerCheck
