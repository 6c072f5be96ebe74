/-!
# Paths

A path is written as segments between slashes.  Empty segments and dots name nothing, two dots name
the parent, and any other segment is a name.  A leading slash makes the path start at the root, and
without one it starts at the working directory.

* `Path` — the segments as written, so that `Path.text` gives the text back.
* `Path.directory` — the path of the directory that a file is put into, as it is shown.
* `Path.IsOrdinary` — the path ends in a name and never leads up.
-/

namespace LedgerCheck

/-- A path as written. -/
structure Path where
  absolute : Bool
  segments : List String
deriving DecidableEq, Repr

namespace Path

/-! ## Text -/

/-- The parts of a text between slashes. -/
def splitSlashes : List Char → List (List Char)
  | [] => [[]]
  | c :: rest =>
    if c = '/' then [] :: splitSlashes rest
    else
      match splitSlashes rest with
      | [] => [[c]]
      | part :: more => (c :: part) :: more

/-- The path that a text writes. -/
def ofText (text : String) : Path :=
  match text.toList with
  | '/' :: rest => ⟨true, (splitSlashes rest).map String.ofList⟩
  | cs => ⟨false, (splitSlashes cs).map String.ofList⟩

/-- The text of a path. -/
def text (p : Path) : String :=
  (if p.absolute then "/" else "") ++ String.intercalate "/" p.segments

/-- The size in bytes that a path has to stay below. -/
def sizeLimit : Nat := 4096

/-- The longest name of an entry, in bytes. -/
def nameLimit : Nat := 255

/-- A text can be handed to a file system: it is short enough and has no null character. -/
def isAdmissible (text : String) : Bool :=
  text.utf8ByteSize < sizeLimit && !text.toList.contains '\x00'

/-! ## Segments -/

/-- The segment names an entry of a directory. -/
def isName (segment : String) : Bool := !(["", ".", ".."].contains segment)

/-- The segments without those at their end that name nothing. -/
def trimEnd : List String → List String
  | [] => []
  | segment :: rest =>
    match trimEnd rest with
    | [] => if segment = "" ∨ segment = "." then [] else [segment]
    | rest => segment :: rest

/-- The path without the segments at its end that name nothing; the dot that stands for the working
directory is kept. -/
def trimmed (p : Path) : Path :=
  match p.absolute, p.segments with
  | false, "." :: rest => { p with segments := "." :: trimEnd rest }
  | _, segments => { p with segments := trimEnd segments }

/-- The path of the directory that a file is put into; the working directory is a dot. -/
def directory (p : Path) : Path :=
  let segments := p.trimmed.segments
  if segments = [] then ⟨false, ["."]⟩
  else
    let parent : Path := Path.trimmed { p with segments := segments.dropLast }
    if parent.absolute = false ∧ parent.segments = [] then ⟨false, ["."]⟩ else parent

/-- The segments before the last one. -/
def leading (p : Path) : List String := p.segments.dropLast

/-- The last segment; it is empty after a trailing slash. -/
def last (p : Path) : String := p.segments.getLast?.getD ""

/-- The path ends in a name and never leads up, as a path that spells the place of a file. -/
def IsOrdinary (p : Path) : Prop := isName p.last = true ∧ ∀ s ∈ p.segments, s ≠ ".."

end Path
end LedgerCheck
