import Mathlib
import LedgerCheck.Storage.Path

/-!
# Laws of paths

The directory of a file is shown without the segments at its end that name nothing.  It leads to the
same place as the segments before the name of the file, and its text is a beginning of the path's.

* `Path.ofText_text` — a path gives the text back that it was read from.
* `Path.steps` — the segments that lead somewhere.
* `Path.absolute_directory`, `Path.steps_directory` — the directory of a path that ends in a name.
* `Path.isAdmissible_directory` — it can be handed to a file system if the path can.
-/

namespace LedgerCheck
namespace Path

/-! ## Text -/

lemma intercalate_splitSlashes (cs : List Char) : ['/'].intercalate (splitSlashes cs) = cs := by
  induction cs with
  | nil => rfl
  | cons c rest ih =>
      have hne : splitSlashes rest ≠ [] := by
        rw [splitSlashes.eq_def]
        split
        · simp
        · split_ifs
          · simp
          · split <;> simp
      rw [splitSlashes]
      split_ifs with hslash
      · rw [List.intercalate_cons_of_ne_nil hne, ih, hslash]
        rfl
      · obtain ⟨part, more, hparts⟩ := List.exists_cons_of_ne_nil hne
        rw [hparts] at ih ⊢
        cases more with
        | nil => simpa using ih
        | cons next more => simpa [List.intercalate_cons_cons] using ih

lemma splitSlashes_of_not_mem {cs : List Char} (h : '/' ∉ cs) : splitSlashes cs = [cs] := by
  induction cs with
  | nil => rfl
  | cons c rest ih =>
      rw [List.mem_cons, not_or] at h
      rw [splitSlashes, if_neg (Ne.symm h.1), ih h.2]

/-- A text without a slash is the only segment of its path. -/
lemma ofText_of_not_mem {text : String} (h : '/' ∉ text.toList) :
    ofText text = ⟨false, [text]⟩ := by
  rw [ofText]
  split
  · rename_i rest hrest
    rw [hrest] at h
    exact absurd List.mem_cons_self h
  · rw [splitSlashes_of_not_mem h, List.map_singleton, String.ofList_toList]

/-- A path gives the text back that it was read from. -/
lemma ofText_text (text : String) : (ofText text).text = text := by
  have htext : ∀ cs : List Char,
      (String.intercalate "/" ((splitSlashes cs).map String.ofList)).toList = cs := by
    intro cs
    rw [String.toList_intercalate, List.map_map]
    simpa [Function.comp_def] using intercalate_splitSlashes cs
  apply String.toList_injective
  rw [ofText]
  split
  · rename_i rest hrest
    rw [hrest, Path.text, if_pos rfl, String.toList_append, htext]
    rfl
  · rw [Path.text, if_neg (by simp), String.toList_append, htext]
    rfl

/-- The beginning of a text that can be handed to a file system can be handed to it. -/
lemma isAdmissible_of_append {text rest : String} (h : isAdmissible (text ++ rest) = true) :
    isAdmissible text = true := by
  simp only [isAdmissible, Bool.and_eq_true, decide_eq_true_eq, Bool.not_eq_true',
    List.contains_eq_mem, decide_eq_false_iff_not, String.utf8ByteSize_append,
    String.toList_append, List.mem_append, not_or] at h ⊢
  exact ⟨by omega, h.2.1⟩

/-- Fewer segments make a beginning of the text. -/
lemma exists_text_eq_append {p q : Path} (habsolute : p.absolute = q.absolute)
    (hsegments : p.segments <+: q.segments) : ∃ rest, q.text = p.text ++ rest := by
  obtain ⟨more, hmore⟩ := hsegments
  rw [text, text, habsolute, ← hmore]
  by_cases hp : p.segments = []
  · exact ⟨String.intercalate "/" more, by rw [hp]; simp⟩
  · by_cases hnil : more = []
    · exact ⟨"", by rw [hnil]; simp⟩
    · rw [String.intercalate_append_of_ne_nil hp hnil]
      exact ⟨"/" ++ String.intercalate "/" more, by simp only [String.append_assoc]⟩

/-! ## Segments that lead somewhere -/

/-- The segments that lead somewhere. -/
def steps (segments : List String) : List String :=
  segments.filter fun segment => !decide (segment = "" ∨ segment = ".")

lemma steps_cons_of_blank {segment : String} (h : segment = "" ∨ segment = ".")
    (rest : List String) : steps (segment :: rest) = steps rest := by
  rw [steps, List.filter_cons_of_neg (by rw [decide_eq_true h]; simp), steps]

lemma steps_cons_of_not_blank {segment : String} (h : ¬ (segment = "" ∨ segment = "."))
    (rest : List String) : steps (segment :: rest) = segment :: steps rest := by
  rw [steps, List.filter_cons_of_pos (by simpa using h), steps]

lemma not_blank_of_isName {segment : String} (h : isName segment = true) :
    ¬ (segment = "" ∨ segment = ".") := by
  simp only [isName, Bool.not_eq_true', List.contains_eq_mem, List.mem_cons,
    decide_eq_false_iff_not] at h
  tauto

lemma prefix_trimEnd (segments : List String) : trimEnd segments <+: segments := by
  induction segments with
  | nil => exact List.prefix_rfl
  | cons segment rest ih =>
      rw [trimEnd]
      split
      · split_ifs
        · exact List.nil_prefix
        · exact (List.prefix_cons_inj segment).mpr List.nil_prefix
      · exact (List.prefix_cons_inj segment).mpr ih

/-- The segments that are trimmed lead nowhere. -/
lemma steps_trimEnd (segments : List String) : steps (trimEnd segments) = steps segments := by
  induction segments with
  | nil => rfl
  | cons segment rest ih =>
      have htail : steps (segment :: rest) = steps (segment :: trimEnd rest) := by
        by_cases hblank : segment = "" ∨ segment = "."
        · rw [steps_cons_of_blank hblank, steps_cons_of_blank hblank, ih]
        · rw [steps_cons_of_not_blank hblank, steps_cons_of_not_blank hblank, ih]
      rw [htail, trimEnd]
      split
      · rename_i hnil
        rw [hnil]
        split_ifs with hblank
        · rw [steps_cons_of_blank hblank]
        · rfl
      · rfl

/-- A segment that names something is not trimmed, and nothing before it is. -/
lemma trimEnd_append {segment : String} (h : ¬ (segment = "" ∨ segment = "."))
    (leading : List String) : trimEnd (leading ++ [segment]) = leading ++ [segment] := by
  induction leading with
  | nil => rw [List.nil_append, trimEnd, trimEnd, if_neg h]
  | cons first rest ih =>
      rw [List.cons_append, trimEnd, ih]
      split
      · simp_all
      · rfl

/-! ## The directory of a file -/

lemma absolute_trimmed (p : Path) : p.trimmed.absolute = p.absolute := by
  rw [trimmed]
  split <;> rfl

lemma prefix_trimmed (p : Path) : p.trimmed.segments <+: p.segments := by
  rw [trimmed]
  split
  · rename_i rest _ hsegments
    rw [hsegments]
    exact (List.prefix_cons_inj ".").mpr (prefix_trimEnd rest)
  · exact prefix_trimEnd p.segments

lemma steps_trimmed (p : Path) : steps p.trimmed.segments = steps p.segments := by
  rw [trimmed]
  split
  · rename_i rest _ hsegments
    rw [hsegments, steps_cons_of_blank (Or.inr rfl), steps_cons_of_blank (Or.inr rfl),
      steps_trimEnd]
  · exact steps_trimEnd p.segments

/-- A path that ends in a name has its last segment after the leading ones. -/
lemma segments_eq_append {p : Path} (h : isName p.last = true) :
    p.segments = p.leading ++ [p.last] := by
  have hne : p.segments ≠ [] := by
    intro hnil
    rw [last, hnil] at h
    simp [isName] at h
  rw [leading, last, List.getLast?_eq_some_getLast hne, Option.getD_some,
    List.dropLast_append_getLast hne]

/-- A path that ends in a name has nothing to trim. -/
lemma segments_trimmed {p : Path} (h : isName p.last = true) :
    p.trimmed.segments = p.segments := by
  have hsegments := segments_eq_append h
  have hlast := not_blank_of_isName h
  rw [trimmed]
  split
  · rename_i rest _ hdot
    rw [hdot] at hsegments ⊢
    cases hleading : p.leading with
    | nil =>
        rw [hleading] at hsegments
        exact absurd (Or.inr (List.cons.inj hsegments).1.symm) hlast
    | cons first leading =>
        rw [hleading] at hsegments
        obtain ⟨-, hrest⟩ : "." = first ∧ rest = leading ++ [p.last] := List.cons.inj hsegments
        simp only [hrest, trimEnd_append hlast]
  · rw [hsegments]
    exact trimEnd_append hlast p.leading

/-- The path without the name at its end. -/
def above (p : Path) : Path := { p with segments := p.leading }

/-- The directory of a file is a dot for the working directory, or the path without the name. -/
lemma directory_cases {p : Path} (h : isName p.last = true) :
    (p.directory = ⟨false, ["."]⟩ ∧ p.absolute = false ∧ steps p.leading = []) ∨
      p.directory = p.above.trimmed := by
  have hne : p.segments ≠ [] := by
    rw [segments_eq_append h]
    simp
  have hdirectory : p.directory
      = if p.above.trimmed.absolute = false ∧ p.above.trimmed.segments = [] then ⟨false, ["."]⟩
        else p.above.trimmed := by
    rw [directory, segments_trimmed h, if_neg hne]
    rfl
  rw [hdirectory]
  split_ifs with hdot
  · left
    refine ⟨rfl, (absolute_trimmed p.above).symm.trans hdot.1, ?_⟩
    have hsteps := steps_trimmed p.above
    rw [hdot.2] at hsteps
    exact hsteps.symm
  · exact Or.inr rfl

/-- The directory of a file starts from where the path of the file starts. -/
lemma absolute_directory {p : Path} (h : isName p.last = true) :
    p.directory.absolute = p.absolute := by
  rcases directory_cases h with ⟨hdot, habsolute, -⟩ | habove
  · rw [hdot, habsolute]
  · rw [habove, absolute_trimmed, above]

/-- **The directory of a file** leads to where the segments before its name lead. -/
lemma steps_directory {p : Path} (h : isName p.last = true) :
    steps p.directory.segments = steps p.leading := by
  rcases directory_cases h with ⟨hdot, -, hsteps⟩ | habove
  · rw [hdot, hsteps]
    rfl
  · rw [habove, steps_trimmed, above]

lemma mem_segments_of_mem_directory {p : Path} (h : isName p.last = true) {segment : String}
    (hsegment : segment ∈ p.directory.segments) : segment = "." ∨ segment ∈ p.segments := by
  rcases directory_cases h with ⟨hdot, -, -⟩ | habove
  · rw [hdot] at hsegment
    exact Or.inl (List.mem_singleton.mp hsegment)
  · rw [habove] at hsegment
    exact Or.inr ((List.dropLast_prefix _).subset ((prefix_trimmed p.above).subset hsegment))

/-- The directory of a file can be handed to a file system if the path of the file can. -/
lemma isAdmissible_directory {p : Path} (h : isName p.last = true)
    (hp : isAdmissible p.text = true) : isAdmissible p.directory.text = true := by
  rcases directory_cases h with ⟨hdot, -, -⟩ | habove
  · rw [hdot]
    decide
  · have hsegments : p.above.trimmed.segments <+: p.segments :=
      (prefix_trimmed p.above).trans (List.dropLast_prefix p.segments)
    have habsolute : p.above.trimmed.absolute = p.absolute := absolute_trimmed p.above
    obtain ⟨rest, hrest⟩ := exists_text_eq_append habsolute hsegments
    rw [habove]
    rw [hrest] at hp
    exact isAdmissible_of_append hp

end Path
end LedgerCheck
