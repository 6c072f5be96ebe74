import Mathlib
import LedgerCheck.Config.Pointer

/-!
# Keys in pointers

A key is written as a step of a pointer in two turns, first the tildes and then the slashes, and it is
read back in two turns, first the slashes and then the tildes.  The order matters: with the tildes taken
back first, the key `~1` would be read as a slash.

* `Pointer.replaceChar`, `Pointer.replacePair` — one turn of writing, and one of reading.
* `Pointer.toList_escape` — a key is written in two turns.
* `Pointer.unescape` — the key that a step writes.
* **`Pointer.unescape_escape`** — a key is read back from what it is written as.
* `Pointer.escape_injective` — no two keys are written alike.
-/

namespace LedgerCheck
namespace Pointer

/-! ## Replacing -/

/-- Writes a text in the place of a character, wherever it stands. -/
def replaceChar (char : Char) (text cs : List Char) : List Char :=
  cs.flatMap fun c => if c = char then text else [c]

/-- Writes a character in the place of a pair, wherever it stands, from left to right. -/
def replacePair (first second char : Char) : List Char → List Char
  | c :: d :: rest =>
    if c = first ∧ d = second then char :: replacePair first second char rest
    else c :: replacePair first second char (d :: rest)
  | cs => cs

lemma replaceChar_cons (char : Char) (text : List Char) (c : Char) (cs : List Char) :
    replaceChar char text (c :: cs)
      = (if c = char then text else [c]) ++ replaceChar char text cs := rfl

section Pairs

variable {first second char : Char}

lemma replacePair_pair (rest : List Char) :
    replacePair first second char (first :: second :: rest)
      = char :: replacePair first second char rest := by
  rw [replacePair, if_pos ⟨rfl, rfl⟩]

/-- A character that does not start a pair stays. -/
lemma replacePair_cons_of_ne {c : Char} (h : c ≠ first) (rest : List Char) :
    replacePair first second char (c :: rest) = c :: replacePair first second char rest := by
  cases rest with
  | nil => rfl
  | cons d rest => rw [replacePair, if_neg fun hpair => h hpair.1]

/-- The start of another pair stays. -/
lemma replacePair_cons_cons_of_ne {d : Char} (h : d ≠ second) (c : Char) (rest : List Char) :
    replacePair first second char (c :: d :: rest)
      = c :: replacePair first second char (d :: rest) := by
  rw [replacePair, if_neg fun hpair => h hpair.2]

lemma replacePair_of_not_mem {cs : List Char} (h : first ∉ cs) :
    replacePair first second char cs = cs := by
  induction cs with
  | nil => rfl
  | cons c rest ih =>
      rw [List.mem_cons, not_or] at h
      rw [replacePair_cons_of_ne (Ne.symm h.1), ih h.2]

end Pairs

/-! ## Keys -/

/-- The key that a step of a pointer writes. -/
def unescape (step : String) : String :=
  String.ofList (replacePair '~' '0' '~' (replacePair '~' '1' '/' step.toList))

/-- **A key is written in two turns**: a zero is put behind each tilde, then each slash is replaced. -/
lemma toList_escape (key : String) : (escape key).toList
    = replaceChar '/' ['~', '1'] (replaceChar '~' ['~', '0'] key.toList) := by
  rw [escape, String.toList_ofList, replaceChar, replaceChar, List.flatMap_assoc]
  refine List.flatMap_congr fun c _ => ?_
  rw [escapeChar]
  split_ifs with htilde hslash
  · rfl
  · rw [List.flatMap_singleton, if_pos hslash]
  · rw [List.flatMap_singleton, if_neg hslash]

/-- Where every tilde has a zero behind it, the pairs for slashes are those that were written. -/
lemma replacePair_slash (cs : List Char) :
    replacePair '~' '1' '/' (replaceChar '/' ['~', '1'] (replaceChar '~' ['~', '0'] cs))
      = replaceChar '~' ['~', '0'] cs := by
  induction cs with
  | nil => rfl
  | cons c rest ih =>
      by_cases htilde : c = '~'
      · subst htilde
        have hkept (xs : List Char) :
            replacePair '~' '1' '/' ('~' :: '0' :: xs) = '~' :: '0' :: replacePair '~' '1' '/' xs := by
          rw [replacePair_cons_cons_of_ne (by decide), replacePair_cons_of_ne (by decide)]
        exact (hkept _).trans (congrArg (fun xs => '~' :: '0' :: xs) ih)
      by_cases hslash : c = '/'
      · subst hslash
        exact (replacePair_pair _).trans (congrArg ('/' :: ·) ih)
      · simp only [replaceChar_cons, if_neg htilde, if_neg hslash, List.singleton_append]
        rw [replacePair_cons_of_ne htilde, ih]

lemma replacePair_tilde (cs : List Char) :
    replacePair '~' '0' '~' (replaceChar '~' ['~', '0'] cs) = cs := by
  induction cs with
  | nil => rfl
  | cons c rest ih =>
      by_cases htilde : c = '~'
      · subst htilde
        exact (replacePair_pair _).trans (congrArg ('~' :: ·) ih)
      · rw [replaceChar_cons, if_neg htilde, List.singleton_append, replacePair_cons_of_ne htilde, ih]

/-- **A key is read back from the step that it is written as.** -/
theorem unescape_escape (key : String) : unescape (escape key) = key := by
  rw [unescape, toList_escape, replacePair_slash, replacePair_tilde, String.ofList_toList]

-- With the tildes taken back first, the key `~1` is read as a slash.
example : replacePair '~' '1' '/' (replacePair '~' '0' '~' (escape "~1").toList) = ['/'] := by
  decide

/-- **No two keys are written alike.** -/
theorem escape_injective : Function.Injective escape :=
  Function.LeftInverse.injective unescape_escape

end Pointer
end LedgerCheck
