import LedgerCheck.RunResult.Console
import LedgerCheck.Storage.AtomicWrite
/-!
# Closing a run

The last step of a run: the report is computed once, shown, and saved where the configuration says
so.  Losing the file does not change how the run ended.

* `Closing` — the report, with the error that ended the run and the path to save to.
* `Closing.compute` — the closing of a run.
* `RunResult.persist` — saves a report in a file tree; an empty path saves nothing.
-/

namespace LedgerCheck

namespace RunResult

/-- Saves a report.  When it cannot be saved, the tree keeps what it had. -/
def persist (r : RunResult) (path : String) (t : FileTree) : FileTree :=
  if path = "" then t else (t.writeJson path r.toJson).1

end RunResult

/-- What a run leaves behind at its end. -/
structure Closing where
  result : RunResult
  error : Option CheckError
  savePath : String

namespace Closing

/-- The closing of a run. -/
def compute (config : DataConfig) (error : Option CheckError) (source : Option CounterSource)
    (coverage : Option CoverageSource) (endCondition : Option EndCondition) :
    Observing Closing := do
  let result ← RunResult.compute config error source coverage endCondition
  return { result, error, savePath := config.resultsOutputFile }

/-- How the run ended: with its error, or else with its report. -/
def answer (c : Closing) : Except CheckError RunResult :=
  match c.error with
  | some e => .error e
  | none => .ok c.result

/-- Saves the report. -/
def persist (c : Closing) (t : FileTree) : FileTree := c.result.persist c.savePath t

end Closing
end LedgerCheck
