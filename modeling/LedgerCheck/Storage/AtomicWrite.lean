import LedgerCheck.Json.Printer
import LedgerCheck.Storage.FileTree
/-!
# Writing files as a whole

A file is first written beside its target under a name of its own and then moved over the target,
so that nobody ever finds half a file.  The name of its own has to fit behind the path of the
directory.  When a step fails the new file is taken away again, and only directories made on the way
stay.

* `WriteError` — why nothing was written.
* `FileTree.write` — writes a file as a whole.
* `FileTree.writeJson` — writes a value in its indented form.
-/

namespace LedgerCheck

/-- Why a file was not written. -/
inductive WriteError where
  | noDirectory (directory : String)
  | noTemporary (directory : String)
  | notReplaced (path : String)
deriving DecidableEq, Repr

namespace WriteError

/-- The wording of the error. -/
def message : WriteError → String
  | noDirectory directory => "create output dir failed: " ++ directory
  | noTemporary directory => "create temp file failed: " ++ directory
  | notReplaced path => "persist failed: " ++ path

end WriteError

namespace FileTree

/-- How many bytes the name of the file beside the target counts for. -/
def temporarySize : Nat := 10

/-- A directory has room for the file beside the target: the path of that file, which starts at the
root, is short enough. -/
def hasRoom (t : FileTree) (directory : Path) : Bool :=
  t.sizeFromRoot directory + 1 + temporarySize < Path.sizeLimit

/-- Writes a file beside its target and moves it there. -/
def replace (t : FileTree) (directory : Place) (path : String) (content : ByteArray) :
    FileTree × Except WriteError Unit :=
  let temporary := directory ++ [t.freshName]
  let written := t.set temporary (.file content)
  match written.rename? temporary path with
  | some t => (t, .ok ())
  | none => (written.remove temporary, .error (.notReplaced path))

/-- Writes a file as a whole, in a directory that is made if it is missing. -/
def write (t : FileTree) (path : String) (content : ByteArray) :
    FileTree × Except WriteError Unit :=
  let directory := (Path.ofText path).directory
  match t.makePath directory with
  | (t, none) => (t, .error (.noDirectory directory.text))
  | (t, some place) =>
    if t.hasRoom directory then t.replace place path content
    else (t, .error (.noTemporary directory.text))

/-- Writes a value in its indented form. -/
def writeJson (t : FileTree) (path : String) (v : Json) : FileTree × Except WriteError Unit :=
  t.write path v.fileText.toUTF8

end FileTree
end LedgerCheck
