import LedgerCheck.Config.Basic
import LedgerCheck.Json.Printer
import LedgerCheck.Remote.Exchange
/-!
# The tip of a node

A node is asked for the index of the last block of its network.

* `CheckConfig.statusRequest` — the request.
* `Server.currentTip` — the index in the node's reply.
-/

namespace LedgerCheck
namespace CheckConfig

/-- The address of the node without slashes at its end. -/
def baseUrl (c : CheckConfig) : String :=
  String.ofList (c.onlineUrl.toList.reverse.dropWhile (· == '/')).reverse

/-- The request for the status of the network. -/
def statusRequest (c : CheckConfig) : Request where
  method := .post
  url := c.baseUrl ++ "/network/status"
  body := (Json.object [("network_identifier", c.network.toJson)]).compact

end CheckConfig

/-- The status of a network, of which only the index of the last block is read. -/
structure NetworkStatus where
  index : Int64
deriving DecidableEq

namespace NetworkStatus

/-- The fields of a network status. -/
def record : Record := ⟨["current_block_identifier"], 1, false⟩

/-- The fields of the identifier of a block. -/
def blockRecord : Record := ⟨["index"], 1, false⟩

/-- The index in the identifier of a block. -/
def blockIndex? (d : Document) : Option Int64 := do
  match ← blockRecord.ofDocument? d with
  | [index] => Document.required Document.int64? index
  | _ => none

/-- The network status that a document describes. -/
def ofDocument? (d : Document) : Option NetworkStatus := do
  match ← record.ofDocument? d with
  | [block] => (Document.required blockIndex? block).map NetworkStatus.mk
  | _ => none

end NetworkStatus

namespace Server

/-- The index of the last block that the node of a configuration knows. -/
def currentTip (server : Server) (config : CheckConfig) : Except FetchError Int64 :=
  match server config.statusRequest with
  | .error reason => .error (.transport reason)
  | .ok reply => (reply.classify NetworkStatus.ofDocument?).map NetworkStatus.index

end Server
end LedgerCheck
