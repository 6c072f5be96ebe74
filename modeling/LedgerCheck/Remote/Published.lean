import LedgerCheck.LiveStatus
import LedgerCheck.Remote.Exchange
/-!
# Published statuses

A running check publishes its status as a document that others fetch.

* `Server.publishedStatus` — the status fetched from a server.
-/

namespace LedgerCheck
namespace Server

/-- What is added to the errors of fetching a status. -/
def statusNote : String := "unable to fetch check:data status"

/-- The request for a published status. -/
def statusRequest (url : String) : Request := { method := .get, url }

/-- The status that a running check publishes at a server. -/
def publishedStatus (server : Server) (url : String) : Except FetchError LiveStatus :=
  match server (statusRequest url) with
  | .error reason => .error ((FetchError.transport reason).withNote statusNote)
  | .ok reply => (reply.classify LiveStatus.ofDocument?).mapError (·.withNote statusNote)

end Server
end LedgerCheck
