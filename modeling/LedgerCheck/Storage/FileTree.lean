import LedgerCheck.SortedMap
import LedgerCheck.Storage.Path
/-!
# File trees

What a file system holds: files and directories, each at its place.  Places are lists of names from
the root, and the entries are kept in the order in which a listing shows them: a directory before
what it holds, and names in byte order.

* `FileTree` — the entries and the working directory; `FileTree.entry?` is its view.
* `FileTree.read?` — the content of the file under a path.
* `FileTree.makeDirectories` — directories on the way to a place, made where they are missing.
* `FileTree.rename?` — moves a file to a path, replacing the file there.
* `FileTree.listing` — everything below a place.
-/

namespace LedgerCheck

/-- The names on the way from the root to an entry. -/
abbrev Place := List String

/-- What stands at a place. -/
inductive Entry where
  | file (content : ByteArray)
  | directory

/-- Files are told apart by their bytes. -/
instance : DecidableEq Entry
  | .file x, .file y =>
    @decidable_of_iff _ (x = y) (by rw [Entry.file.injEq]) (ByteArray.instDecidableEq x y)
  | .file _, .directory => .isFalse (by simp)
  | .directory, .file _ => .isFalse (by simp)
  | .directory, .directory => .isTrue rfl

/-- The entries of a file system below its root, and the place that relative paths start from. -/
structure FileTree where
  entries : List (Place × Entry)
  workingDirectory : Place

namespace FileTree

/-! ## Places -/

/-- The tree without entries. -/
def empty : FileTree := ⟨[], []⟩

/-- The tree with another working directory. -/
def inDirectory (t : FileTree) (place : Place) : FileTree := { t with workingDirectory := place }

/-- What stands at a place.  The root is always a directory. -/
def entry? (t : FileTree) : Place → Option Entry
  | [] => some .directory
  | name :: rest => t.entries.lookup (name :: rest)

/-- Puts an entry at a place. -/
def set (t : FileTree) (place : Place) (entry : Entry) : FileTree :=
  { t with entries := SortedMap.insert place entry t.entries }

/-- Takes the entry at a place away. -/
def remove (t : FileTree) (place : Place) : FileTree :=
  { t with entries := SortedMap.erase place t.entries }

/-- The place that a path starts from. -/
def start (t : FileTree) (p : Path) : Place := if p.absolute then [] else t.workingDirectory

/-- The size of a path that starts at the root, in bytes, if it leads over the working directory to
where the given one leads. -/
def sizeFromRoot (t : FileTree) (p : Path) : Nat :=
  ((t.start p).map fun name => name.utf8ByteSize + 1).foldr (· + ·) 0 +
    (if p.absolute then 0 else 1) + p.text.utf8ByteSize

/-! ## Walking along a path -/

/-- The directory that a segment leads to from a directory. -/
def step? (t : FileTree) (place : Place) (segment : String) : Option Place :=
  if segment = "" ∨ segment = "." then some place
  else if segment = ".." then some place.dropLast
  else
    match t.entry? (place ++ [segment]) with
    | some .directory => some (place ++ [segment])
    | _ => none

/-- The directory that segments lead to from a directory. -/
def walk? (t : FileTree) (place : Place) : List String → Option Place
  | [] => some place
  | segment :: rest => (t.step? place segment).bind fun place => t.walk? place rest

/-- The place of the file that a path names, whether or not there is one.  The directories on the
way have to be there. -/
def filePlace? (t : FileTree) (path : String) : Option Place :=
  let p := Path.ofText path
  if Path.isAdmissible path && Path.isName p.last && decide (p.last.utf8ByteSize ≤ Path.nameLimit) then
    (t.walk? (t.start p) p.leading).map fun place => place ++ [p.last]
  else none

/-- The content of the file under a path. -/
def read? (t : FileTree) (path : String) : Option ByteArray :=
  match (t.filePlace? path).bind t.entry? with
  | some (.file content) => some content
  | _ => none

/-! ## Making directories -/

/-- Makes the directory that a segment names, unless it is there. -/
def makeStep (t : FileTree) (place : Place) (segment : String) : FileTree × Option Place :=
  match t.step? place segment with
  | some place => (t, some place)
  | none =>
    let place := place ++ [segment]
    if (t.entry? place).isNone && decide (segment.utf8ByteSize ≤ Path.nameLimit) then
      (t.set place .directory, some place)
    else (t, none)

/-- Makes the directories that segments name, up to the first one that cannot be made. -/
def makeDirectories (t : FileTree) (place : Place) : List String → FileTree × Option Place
  | [] => (t, some place)
  | segment :: rest =>
    match t.makeStep place segment with
    | (t, some place) => t.makeDirectories place rest
    | (t, none) => (t, none)

/-- Makes the directories of a path. -/
def makePath (t : FileTree) (p : Path) : FileTree × Option Place :=
  if Path.isAdmissible p.text then t.makeDirectories (t.start p) p.segments else (t, none)

/-! ## Moving files -/

/-- Moves the file at a place to a path and replaces a file that is there.  A directory is not
replaced. -/
def rename? (t : FileTree) (source : Place) (path : String) : Option FileTree := do
  let entry ← t.entry? source
  let target ← t.filePlace? path
  if t.entry? target = some .directory then none else some ((t.remove source).set target entry)

/-- The total length of the names of all entries. -/
def nameLength (t : FileTree) : Nat :=
  (t.entries.map fun entry => (entry.1.getLast?.getD "").length).foldr (· + ·) 0

/-- A name that no entry of the tree has: it is longer than all of their names. -/
def freshName (t : FileTree) : String :=
  ".tmp" ++ String.ofList (List.replicate t.nameLength '0')

/-! ## Listings -/

/-- Everything below a place: paths from there with the content of files; the path of a directory
ends in a slash. -/
def listing (t : FileTree) (place : Place) : List (String × Option ByteArray) :=
  t.entries.filterMap fun (p, entry) =>
    if place.isPrefixOf p && place.length < p.length then
      let path := String.intercalate "/" (p.drop place.length)
      match entry with
      | .file content => some (path, some content)
      | .directory => some (path ++ "/", none)
    else none

end FileTree
end LedgerCheck
