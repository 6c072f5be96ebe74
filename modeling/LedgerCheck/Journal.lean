import LedgerCheck.Counter
import LedgerCheck.CheckError
/-!
# What a computation did

Reports are computed from counters that may change or fail at any read, and what went wrong is
noted instead of stopping the computation.  A `Journal` records both in order: what was asked of the
sources, and which events were noted.

* `Event` — what can be noted; `Event.line` is its line in a log.
* `Query` — what can be asked: a counter, or the coverage.
* `Journal` — the queries and events so far; `Journal.reads` are the counters that were read.
* `Observing` — computations that ask the sources and note events.
-/

namespace LedgerCheck

/-- Why progress could not be estimated from counters that passed every check. -/
inductive EstimateFault where
  | zeroDenominator
  | zeroRate
  | blocksOutOfRange (adjusted : Int)
deriving DecidableEq, Repr

/-- Something worth noting during a computation. -/
inductive Event where
  | counterNotObserved (counter : Counter) (error : SourceError)
  | counterUnavailable (counter : Counter) (error : SourceError)
  | counterTooLarge (counter : Counter) (value : Int)
  | coverageUnavailable (error : SourceError)
  | coverageOutOfRange (coverage : Binary64)
  | tipUnavailable (reason : String)
  | noCanonicalBlocks (adjusted : Int)
  | estimateFault (fault : EstimateFault)
  | testsOmitted (cause : ErrorClass)
deriving DecidableEq, Repr

/-- How grave an event is. -/
inductive Severity where
  | debug
  | info
  | warn
deriving DecidableEq, Repr

namespace Severity

/-- The word for a severity. -/
def label : Severity → String
  | debug => "DEBUG"
  | info => "INFO"
  | warn => "WARN"

end Severity

namespace Event

/-- A value that an event names. -/
inductive Value where
  | text (text : String)
  | number (number : Binary64)
deriving DecidableEq, Repr

/-- How grave the event is. -/
def severity : Event → Severity
  | counterNotObserved .. | noCanonicalBlocks .. => .debug
  | testsOmitted .. => .info
  | counterUnavailable .. | counterTooLarge .. | coverageUnavailable .. | coverageOutOfRange ..
  | tipUnavailable .. | estimateFault .. => .warn

/-- What the event says. -/
def message : Event → String
  | counterNotObserved .. => "counter unreadable; treating as not observed"
  | counterUnavailable .. => "cannot get counter"
  | counterTooLarge .. => "counter does not fit in u64"
  | coverageUnavailable .. => "cannot get reconciliation coverage"
  | coverageOutOfRange .. => "reconciliation coverage outside [0, 1]; dropping stats"
  | tipUnavailable .. => "cannot get network status"
  | noCanonicalBlocks .. => "no canonical blocks yet"
  | estimateFault .zeroDenominator => "progress is a share of nothing"
  | estimateFault .zeroRate => "no blocks are synced per second"
  | estimateFault (.blocksOutOfRange _) => "adjusted block count does not fit in i64"
  | testsOmitted .. => "error not covered by any test; omitting tests"

/-- The digits of an integer. -/
def Value.integer (n : Int) : Value := .text (String.ofList (integerChars n))

/-- The named values of the event. -/
def fields : Event → List (String × Value)
  | counterNotObserved counter error =>
    [("counter", .text counter.name), ("error", .text error.message)]
  | counterUnavailable counter error =>
    [("counter", .text counter.name), ("error", .text error.message)]
  | counterTooLarge counter value => [("counter", .text counter.name), ("value", .integer value)]
  | coverageUnavailable error => [("error", .text error.message)]
  | coverageOutOfRange coverage => [("coverage", .number coverage)]
  | tipUnavailable reason => [("error", .text reason)]
  | noCanonicalBlocks adjusted => [("adjusted", .integer adjusted)]
  | estimateFault (.blocksOutOfRange adjusted) => [("adjusted", .integer adjusted)]
  | estimateFault _ => []
  | testsOmitted cause => [("class", .text cause.name)]

/-- The event as a line of a log, in which numbers are written as given. -/
def lineWith (number : Binary64 → String) (e : Event) : String :=
  let shown : Value → String
    | .text text => text
    | .number x => number x
  e.severity.label ++ " " ++ e.message ++
    String.join (e.fields.map fun (name, value) => " " ++ name ++ "=" ++ shown value)

/-- The event as a line that tells numbers apart: they are written as their bits. -/
def line (e : Event) : String := e.lineWith Binary64.hex

end Event

/-- What is asked of the sources: a counter, or the coverage. -/
inductive Query where
  | counter (counter : Counter)
  | coverage
deriving DecidableEq, Repr

/-- The counter that is asked for, if it is one. -/
def Query.counter? : Query → Option Counter
  | .counter c => some c
  | .coverage => none

/-- What was asked of the sources and the events noted, both in order. -/
structure Journal where
  queries : List Query := []
  events : List Event := []
deriving DecidableEq, Repr

/-- The counters that were read, in order. -/
def Journal.reads (j : Journal) : List Counter := j.queries.filterMap Query.counter?

/-- Computations that ask the sources and note events. -/
abbrev Observing := StateM Journal

namespace Observing

/-- Notes an event. -/
def note (e : Event) : Observing Unit := fun j => ((), { j with events := j.events ++ [e] })

/-- Reads a counter: the reply is the one for this read among the reads of the counter so far. -/
def read (source : CounterSource) (counter : Counter) : Observing (Except SourceError Int) :=
  fun j => (source counter (j.reads.count counter),
    { j with queries := j.queries ++ [.counter counter] })

/-- Asks for the coverage. -/
def consult (source : CoverageSource) : Observing (Except SourceError Binary64) :=
  fun j => (source, { j with queries := j.queries ++ [.coverage] })

/-- Reads a counter; a failure is noted as a warning. -/
def readOrWarn (source : CounterSource) (counter : Counter) : Observing (Option Int) := do
  match ← read source counter with
  | .ok value => return some value
  | .error e =>
    note (.counterUnavailable counter e)
    return none

/-- The result of a computation that starts with an empty journal. -/
def result {α : Type} (o : Observing α) : α := (o.run {}).1

/-- The journal of a computation that starts with an empty one. -/
def journal {α : Type} (o : Observing α) : Journal := (o.run {}).2

end Observing
end LedgerCheck
