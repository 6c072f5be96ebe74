import LedgerCheck.Config.Pointer
import LedgerCheck.Text.Blank
import LedgerCheck.Text.Quotation
/-!
# Unused keys

A misspelled key would silently leave a setting at its default.  So every leaf of a configuration
document that no setting reads is reported; what is strict about its configuration refuses it.

* `consumedPointers` — the places that settings are read from; `UnusedKeys.prefixes` are the same as
  they are compared.
* `Pointer.normalize` — the form in which pointers are compared.
* `Pointer.covers` — a place is at or below another one.
* `UnusedKeys.of` — the report on a document; `UnusedKeys.refusal` is its wording.
-/

namespace LedgerCheck

/-- The places that settings are read from. -/
def consumedPointers : List String :=
  ["/online_url", "/network/blockchain", "/network/network", "/http_timeout_secs",
    "/data/balance_tracking_disabled", "/data/reconciliation_disabled",
    "/data/ignore_reconciliation_error", "/data/results_output_file"]

namespace Pointer

/-- Characters without the slashes at their end, of which one stays if there is nothing else.  The
last character comes first. -/
def dropSlashes : List Char → List Char
  | '/' :: c :: rest => dropSlashes (c :: rest)
  | cs => cs

/-- Characters with a slash in front. -/
def rooted : List Char → List Char
  | '/' :: cs => '/' :: cs
  | cs => '/' :: cs

/-- The form in which a pointer is compared: without blanks around it, with a slash in front, and
with none at the end unless it is the root. -/
def normalize (pointer : String) : String :=
  String.ofList (dropSlashes (rooted (trimBlanks pointer.toList)).reverse).reverse

/-- The second place is the first one or lies below it; every place lies below the root. -/
def covers (pointer leaf : String) : Bool :=
  pointer == "/" || leaf == pointer || (pointer.toList ++ ['/']).isPrefixOf leaf.toList

end Pointer

/-- What to do about unused keys. -/
inductive UnusedKeyPolicy where
  | warn
  | fail
deriving DecidableEq, Repr

/-- The leaves of a document that no setting reads. -/
structure UnusedKeys where
  consumedPrefixes : List String
  pointers : List String
deriving DecidableEq, Repr

namespace UnusedKeys

/-- Adds a text to texts in byte order, unless it is there. -/
def insert (text : String) : List String → List String
  | [] => [text]
  | t :: rest =>
    if text < t then text :: t :: rest
    else if text = t then t :: rest
    else t :: insert text rest

/-- Texts in byte order, each once. -/
def sorted (texts : List String) : List String := texts.foldr insert []

/-- The consumed pointers as they are compared, in byte order. -/
def prefixes : List String := sorted (consumedPointers.map Pointer.normalize)

/-- No setting is read from the place. -/
def isUnused (leaf : String) : Bool := !prefixes.any fun pointer => Pointer.covers pointer leaf

/-- The report on a document. -/
def of (document : Json) : UnusedKeys where
  consumedPrefixes := prefixes
  pointers := sorted (document.leafPointers.filter isUnused)

/-- Every leaf is read by some setting. -/
def isClean (r : UnusedKeys) : Bool := r.pointers.isEmpty

/-- How many unused keys an error shows. -/
def shownCount : Nat := 12

/-- The wording of a refusal. -/
def refusal (r : UnusedKeys) : String :=
  "CONFIG_UNUSED_KEYS: " ++ toString r.pointers.length ++
    " unused config leaf key(s) detected. First few: " ++ quotedList (r.pointers.take shownCount)

end UnusedKeys
end LedgerCheck
