import LedgerCheck.Config.Basic
import LedgerCheck.Config.Layers
import LedgerCheck.Config.Unused
import LedgerCheck.Yaml.Value
/-!
# From layers to settings

A configuration is handed over as YAML texts, one layer each.  A text that says nothing is no
layer.  The merged document is searched for unused keys before the settings are taken out of it.

* `ConfigError` — why there are no settings.
* `LoadedConfig.ofTexts` — the merged document of layers given as texts.
* `UnusedKeys.check` — the report on a document, or its refusal.
* `LoadedConfig.settings` — the settings, under a policy for unused keys.
-/

namespace LedgerCheck

/-- Why a configuration has no settings. -/
inductive ConfigError where
  | unreadable (path : String)
  | notYaml
  | notJson
  | unusedKeys (report : UnusedKeys)
  | wrongShape
deriving DecidableEq, Repr

namespace ConfigError

/-- The wording of the error. -/
def message : ConfigError → String
  | unreadable path => "failed to read yaml path: " ++ path
  | notYaml => "invalid yaml"
  | notJson => "yaml->json conversion failed"
  | unusedKeys report => report.refusal
  | wrongShape => "config does not match the check:data configuration shape"

/-- The error about a layer that cannot be taken. -/
def ofYaml : Yaml.Error → ConfigError
  | .notYaml => notYaml
  | .notJson => notJson

end ConfigError

namespace LoadedConfig

/-- The layers that texts give, in order, up to the first text that gives none. -/
def layers : List String → Except ConfigError (List Json)
  | [] => .ok []
  | text :: rest =>
    match Yaml.read text with
    | .error e => .error (.ofYaml e)
    | .ok layer =>
      match layers rest with
      | .error e => .error e
      | .ok rest => .ok (layer.toList ++ rest)

/-- The merged document of layers given as texts. -/
def ofTexts (texts : List String) : Except ConfigError LoadedConfig :=
  (layers texts).map ofLayers

end LoadedConfig

namespace UnusedKeys

/-- The report on a document, which under the policy `fail` has to be clean. -/
def check (policy : UnusedKeyPolicy) (document : Json) : Except ConfigError UnusedKeys :=
  let report := of document
  if policy = .fail ∧ ¬ report.isClean then .error (.unusedKeys report) else .ok report

end UnusedKeys

namespace LoadedConfig

/-- The settings that the merged document holds, whatever else it holds. -/
def checkConfig (c : LoadedConfig) : Except ConfigError CheckConfig :=
  match CheckConfig.ofJson? c.document with
  | some settings => .ok settings
  | none => .error .wrongShape

/-- The settings of a configuration.  Unused keys are looked for first. -/
def settings (policy : UnusedKeyPolicy) (c : LoadedConfig) : Except ConfigError CheckConfig :=
  match UnusedKeys.check policy c.document with
  | .error e => .error e
  | .ok _ => c.checkConfig

end LoadedConfig
end LedgerCheck
