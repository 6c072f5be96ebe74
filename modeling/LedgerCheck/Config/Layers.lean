import LedgerCheck.Json.Printer
import LedgerCheck.Sha256
/-!
# Layered documents

A configuration is built from layers.  A later layer overrides the ones before it: objects are
merged key by key, and any other value replaces what was there.  The merged document has one
canonical text, whose digest names the configuration.

* `Json.merge` — a document under an overlay.
* `mergeLayers` — the merged document of a list of layers.
* `LoadedConfig` — a merged document with its canonical text and digest.
-/

namespace LedgerCheck
namespace Json

/-! ## Merging -/

mutual

/-- A document under an overlay.  A key that the document lacks counts as holding null, which any
overlay replaces. -/
def merge (base : Json) : Json → Json
  | .object fields =>
    match base with
    | .object baseFields => .object (mergeFields baseFields fields)
    | _ => .object fields
  | .null => .null
  | .bool b => .bool b
  | .number n => .number n
  | .string s => .string s
  | .array items => .array items

/-- The fields of an object under the fields of an overlay. -/
def mergeFields (base : List (String × Json)) : List (String × Json) → List (String × Json)
  | [] => base
  | (name, value) :: rest =>
    mergeFields (SortedMap.insert name (merge ((base.lookup name).getD .null) value) base) rest

end

end Json

/-- The merged document of a list of layers, which starts from an empty object. -/
def mergeLayers (layers : List Json) : Json := layers.foldl Json.merge (.object [])

/-! ## Canonical text -/

/-- A merged configuration document. -/
structure LoadedConfig where
  document : Json

namespace LoadedConfig

/-- The configuration of a list of layers. -/
def ofLayers (layers : List Json) : LoadedConfig := ⟨mergeLayers layers⟩

/-- The text that all spellings of the configuration share. -/
def canonicalJson (c : LoadedConfig) : String := c.document.compact

/-- The digest that names the configuration. -/
def configHash (c : LoadedConfig) : String := Sha256.hex c.canonicalJson

end LoadedConfig
end LedgerCheck
