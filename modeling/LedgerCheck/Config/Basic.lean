import LedgerCheck.Json.Record
/-!
# Check configuration

The settings of a check run: where the node is, which network it serves, how long a request may
take, and which parts of the data check are switched off.

* `CheckConfig` — the settings, with a default for each.
* `CheckConfig.ofJson?` — the settings that a merged configuration document holds.
* `CheckConfig.toJson` — the document that spells all settings out.
-/

namespace LedgerCheck

/-- The network a node is asked about. -/
structure NetworkIdentifier where
  blockchain : String := ""
  network : String := ""
deriving DecidableEq, Repr

/-- Settings of the data check.  An empty `resultsOutputFile` means that no results are written. -/
structure DataConfig where
  balanceTrackingDisabled : Bool := false
  reconciliationDisabled : Bool := false
  ignoreReconciliationError : Bool := false
  resultsOutputFile : String := ""
deriving DecidableEq, Repr

/-- The settings of a check run. -/
structure CheckConfig where
  onlineUrl : String := "http://localhost:8080"
  network : NetworkIdentifier := {}
  httpTimeoutSecs : UInt64 := 10
  data : DataConfig := {}
deriving DecidableEq, Repr

/-! ## Values of settings -/

namespace Json

/-- A boolean. -/
def bool? : Json → Option Bool
  | .bool b => some b
  | _ => none

/-- A string. -/
def string? : Json → Option String
  | .string s => some s
  | _ => none

/-- An integer that fits 64 bits without a sign. -/
def uint64? : Json → Option UInt64
  | .number (.int i) => if 0 ≤ i ∧ i < Int.pow 2 64 then some (UInt64.ofNat i.toNat) else none
  | _ => none

/-- The value of a setting, or its default where the document does not have it. -/
def orDefault {α : Type} (default : α) (read : Json → Option α) : Option Json → Option α
  | none => some default
  | some v => read v

end Json

/-! ## From and to documents -/

namespace NetworkIdentifier

/-- The fields of a network identifier; both have to be given. -/
def record : Record := ⟨["blockchain", "network"], 2, false⟩

/-- The network identifier that a value holds. -/
def ofJson? (v : Json) : Option NetworkIdentifier := do
  match ← record.ofJson? v with
  | [some blockchain, some network] => some ⟨← blockchain.string?, ← network.string?⟩
  | _ => none

/-- The document of a network identifier. -/
def toJson (n : NetworkIdentifier) : Json :=
  .object [("blockchain", .string n.blockchain), ("network", .string n.network)]

end NetworkIdentifier

namespace DataConfig

/-- The settings of the data check; each has a default. -/
def record : Record :=
  ⟨["balance_tracking_disabled", "reconciliation_disabled", "ignore_reconciliation_error",
    "results_output_file"], 0, false⟩

/-- The settings of the data check that a value holds. -/
def ofJson? (v : Json) : Option DataConfig := do
  match ← record.ofJson? v with
  | [balance, reconciliation, ignore, output] =>
    let default : DataConfig := {}
    some
      { balanceTrackingDisabled :=
          ← Json.orDefault default.balanceTrackingDisabled Json.bool? balance
        reconciliationDisabled :=
          ← Json.orDefault default.reconciliationDisabled Json.bool? reconciliation
        ignoreReconciliationError :=
          ← Json.orDefault default.ignoreReconciliationError Json.bool? ignore
        resultsOutputFile := ← Json.orDefault default.resultsOutputFile Json.string? output }
  | _ => none

/-- The document of the settings of the data check. -/
def toJson (d : DataConfig) : Json :=
  .object
    [("balance_tracking_disabled", .bool d.balanceTrackingDisabled),
     ("reconciliation_disabled", .bool d.reconciliationDisabled),
     ("ignore_reconciliation_error", .bool d.ignoreReconciliationError),
     ("results_output_file", .string d.resultsOutputFile)]

end DataConfig

namespace CheckConfig

/-- The settings of a check run; each has a default. -/
def record : Record := ⟨["online_url", "network", "http_timeout_secs", "data"], 0, false⟩

/-- The settings that a merged configuration document holds. -/
def ofJson? (v : Json) : Option CheckConfig := do
  match ← record.ofJson? v with
  | [url, network, timeout, data] =>
    let default : CheckConfig := {}
    some
      { onlineUrl := ← Json.orDefault default.onlineUrl Json.string? url
        network := ← Json.orDefault default.network NetworkIdentifier.ofJson? network
        httpTimeoutSecs := ← Json.orDefault default.httpTimeoutSecs Json.uint64? timeout
        data := ← Json.orDefault default.data DataConfig.ofJson? data }
  | _ => none

/-- The document that spells all settings out. -/
def toJson (c : CheckConfig) : Json :=
  .object
    [("online_url", .string c.onlineUrl),
     ("network", c.network.toJson),
     ("http_timeout_secs", .ofInt c.httpTimeoutSecs.toNat),
     ("data", c.data.toJson)]

end CheckConfig
end LedgerCheck
