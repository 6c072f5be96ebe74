import LedgerCheck.TestSuite
import LedgerCheck.Stats
import LedgerCheck.EndCondition
/-!
# The result of a run

The final report: the error or the condition that ended the run, the five tests and the
statistics.  An error that no test covers is not shown next to tests that all look fine: the tests
are then left out.

* `RunResult` — the report.
* `RunResult.compute` — the report on a run; it never fails.
* `RunResult.toJson`, `RunResult.ofDocument?` — its document, in which absent parts have no field.
-/

namespace LedgerCheck

/-- The final report on a run. -/
structure RunResult where
  error : Option String := none
  endCondition : Option EndCondition := none
  tests : Option TestSuite := none
  stats : Option Stats := none
deriving DecidableEq, Repr

namespace RunResult

open Observing

/-- The tests as the report shows them.  They are left out, and this is noted, when there is an
error and yet no test failed. -/
def shownTests (error : Option CheckError) (tests : TestSuite) : Observing (Option TestSuite) :=
  match error with
  | none => return some tests
  | some e =>
    if tests.hasFailure then return some tests
    else do
      note (.testsOmitted e.cause)
      return none

/-- The report on a run.  A run that ended with an error reached no end condition. -/
def compute (config : DataConfig) (error : Option CheckError) (source : Option CounterSource)
    (coverage : Option CoverageSource) (endCondition : Option EndCondition) :
    Observing RunResult := do
  let tests ← TestSuite.compute config error source
  let stats ← Stats.compute source coverage
  let tests ← shownTests error tests
  return {
    error := error.map CheckError.text
    endCondition := if error.isSome then none else endCondition
    tests
    stats }

/-! ## Documents -/

/-- A field that is left out when there is no value. -/
def optionalField {α : Type} (name : String) (toJson : α → Json) (value : Option α) :
    List (String × Json) :=
  match value with
  | some v => [(name, toJson v)]
  | none => []

/-- The document of a report. -/
def toJson (r : RunResult) : Json :=
  .object <| optionalField "error" .string r.error ++
    optionalField "end_condition" EndCondition.toJson r.endCondition ++
    optionalField "tests" TestSuite.toJson r.tests ++
    optionalField "stats" Stats.toJson r.stats

/-- The fields of a report, each of which may be absent. -/
def record : Record := ⟨["error", "end_condition", "tests", "stats"], 0, false⟩

/-- The report that a document describes. -/
def ofDocument? (d : Document) : Option RunResult := do
  match ← record.ofDocument? d with
  | [error, endCondition, tests, stats] =>
    some
      { error := ← Document.optional Document.string? error
        endCondition := ← Document.optional EndCondition.ofDocument? endCondition
        tests := ← Document.optional TestSuite.ofDocument? tests
        stats := ← Document.optional Stats.ofDocument? stats }
  | _ => none

/-- The report that a text describes. -/
def read? (text : String) : Option RunResult := (Document.read? text).bind ofDocument?

/-- The text of a file that holds the report. -/
def fileText (r : RunResult) : String := r.toJson.fileText

end RunResult
end LedgerCheck
