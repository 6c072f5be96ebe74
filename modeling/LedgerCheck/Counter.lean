import LedgerCheck.Json.Document
/-!
# Counters

The counters that a check run keeps, and the sources they are read from.  A source belongs to
somebody else and may change between two reads, so it is given by its reply to each read: the
`n`-th reply for a counter answers the `n`-th read of that counter.

* `Counter` — the counters and the names they are stored under.
* `SourceError` — why a read failed.
* `CounterSource`, `CoverageSource` — where values come from.
-/

namespace LedgerCheck

/-- A counter kept during a check run; `timeElapsed` counts seconds spent syncing. -/
inductive Counter where
  | blocks
  | orphans
  | transactions
  | operations
  | activeReconciliations
  | inactiveReconciliations
  | timeElapsed
deriving DecidableEq, Repr

namespace Counter

/-- Every counter. -/
def all : List Counter :=
  [blocks, orphans, transactions, operations, activeReconciliations, inactiveReconciliations,
    timeElapsed]

/-- The name a counter is stored under. -/
def name : Counter → String
  | blocks => "blocks"
  | orphans => "orphans"
  | transactions => "transactions"
  | operations => "operations"
  | activeReconciliations => "active_reconciliations"
  | inactiveReconciliations => "inactive_reconciliations"
  | timeElapsed => "time_elapsed"

/-- The counter stored under a name. -/
def ofName? (s : String) : Option Counter := all.find? (·.name == s)

end Counter

/-- Why a counter or the coverage could not be read. -/
inductive SourceError where
  | uninitialized (counter : Counter)
  | unreadable (counter : Counter) (message : String)
  | coverage (message : String)
deriving DecidableEq, Repr

namespace SourceError

/-- The wording of a failed read. -/
def message : SourceError → String
  | uninitialized counter => "counter " ++ counter.name ++ " is not initialized"
  | unreadable counter message => "counter " ++ counter.name ++ " is unreadable: " ++ message
  | coverage message => "reconciliation coverage unavailable: " ++ message

end SourceError

/-- Where counters are read from: the reply to each read of each counter. -/
abbrev CounterSource := Counter → Nat → Except SourceError Int

/-- Where the share of reconciled accounts is read from: the reply to the one read that a
computation makes of it. -/
abbrev CoverageSource := Except SourceError Binary64

end LedgerCheck
