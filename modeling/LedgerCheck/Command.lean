import LedgerCheck.Intake
import LedgerCheck.Remote.Published
import LedgerCheck.Remote.Tip
import LedgerCheck.RunResult.Closing
/-!
# Commands

What can be asked for on the command line.  A command looks at files and at a server, and its
result says what to print, what to save and whether it failed; carrying that out is left to others.

* `Command` — the commands.
* `CommandResult` — what a command comes to.
* `Command.run` — the result of a command.
-/

namespace LedgerCheck

/-- A command. -/
inductive Command where
  | configHash (layers : List String)
  | results (layers : List String) (counters : Option String) (outcome : Option String)
      (strict : Bool)
  | progress (layers : List String) (counters : String)
  | status (url : String)
deriving DecidableEq, Repr

/-- Why a command failed. -/
inductive CommandError where
  | intake (error : IntakeError)
  | check (error : CheckError)
  | fetch (error : FetchError)

namespace CommandError

/-- The wording of the error. -/
def message : CommandError → String
  | intake error => error.message
  | check error => "check:data failed: " ++ error.text
  | fetch error => error.message

end CommandError

/-- What a command comes to: the text to print, the report to save, the requests that went out, what
was noted, and the error if it failed. -/
structure CommandResult where
  stdout : String := ""
  closing : Option Closing := none
  requests : List Request := []
  journal : Journal := {}
  failure : Option CommandError := none

namespace CommandResult

/-- The result of a command that fails before it does anything. -/
def ofError (e : CommandError) : CommandResult := { failure := some e }

/-- The files after a command. -/
def persist (r : CommandResult) (t : FileTree) : FileTree :=
  match r.closing with
  | some closing => closing.persist t
  | none => t

end CommandResult

namespace Command

/-- The files that a command looks at. -/
def paths : Command → List String
  | configHash layers => layers
  | results layers counters outcome _ => layers ++ counters.toList ++ outcome.toList
  | progress layers counters => layers ++ [counters]
  | status _ => []

/-- Prints the digest of a configuration and its canonical text. -/
def runConfigHash (files : FileReader) (layers : List String) : CommandResult :=
  match files.layers layers with
  | .error e => .ofError (.intake (.config e))
  | .ok c =>
    { stdout := "config_hash=" ++ c.configHash ++ "\n" ++ c.canonicalJson ++ "\n" }

/-- The files of a finished run: its settings, its counters if they are given, and its outcome. -/
def takeRun (files : FileReader) (layers : List String) (counters outcome : Option String)
    (strict : Bool) : Except IntakeError (CheckConfig × Option Snapshot × RunOutcome) := do
  let config ← files.config (if strict then .fail else .warn) layers
  let counters ← counters.mapM files.counters
  let outcome ←
    match outcome with
    | some path => files.outcome path
    | none => pure {}
  return (config, counters, outcome)

/-- Closes a finished run.  The command fails if the run ended with an error. -/
def runResults (files : FileReader) (coloured : Bool) (layers : List String)
    (counters outcome : Option String) (strict : Bool) : CommandResult :=
  match takeRun files layers counters outcome strict with
  | .error e => .ofError (.intake e)
  | .ok (config, snapshot, outcome) =>
    let closing := Closing.compute config.data outcome.error (snapshot.map Snapshot.source)
      (snapshot.bind Snapshot.coverageSource) outcome.endCondition
    { stdout := closing.result.result.render coloured
      closing := some closing.result
      journal := closing.journal
      failure := outcome.error.map .check }

/-- The files of a running check: its settings and its counters. -/
def takeCheck (files : FileReader) (layers : List String) (counters : String) :
    Except IntakeError (CheckConfig × Snapshot) := do
  let config ← files.config .warn layers
  let counters ← files.counters counters
  return (config, counters)

/-- Prints the status of a running check, whose node is asked for the tip. -/
def runProgress (files : FileReader) (server : Server) (layers : List String)
    (counters : String) : CommandResult :=
  match takeCheck files layers counters with
  | .error e => .ofError (.intake e)
  | .ok (config, snapshot) =>
    let tip := (Server.currentTip server config).mapError FetchError.message
    let live := LiveStatus.compute (some snapshot.source) snapshot.coverageSource tip
    { stdout := live.result.shownText
      requests := [config.statusRequest]
      journal := live.journal }

/-- Prints the status that a running check publishes. -/
def runStatus (server : Server) (url : String) : CommandResult :=
  let requests := [Server.statusRequest url]
  match Server.publishedStatus server url with
  | .ok live => { stdout := live.shownText, requests }
  | .error e => { requests, failure := some (.fetch e) }

/-- The result of a command. -/
def run (files : FileReader) (server : Server) (coloured : Bool) : Command → CommandResult
  | configHash layers => runConfigHash files layers
  | results layers counters outcome strict =>
    runResults files coloured layers counters outcome strict
  | progress layers counters => runProgress files server layers counters
  | status url => runStatus server url

end Command
end LedgerCheck
