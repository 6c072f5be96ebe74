import LedgerCheck.Journal
/-!
# Statistics of a run

The counters of a run and the share of accounts that were reconciled.  They are all or nothing: if
one counter cannot be read, or the coverage is no share, there are no statistics.

* `Stats.compute` — the statistics that the sources give.
* `Stats.rows` — the statistics as a table shows them.
-/

namespace LedgerCheck

/-- The counters of a run and the share of reconciled accounts. -/
structure Stats where
  blocks : UInt64
  orphans : UInt64
  transactions : UInt64
  operations : UInt64
  activeReconciliations : UInt64
  inactiveReconciliations : UInt64
  reconciliationCoverage : Binary64
deriving DecidableEq, Repr

namespace Stats

open Observing

/-! ## From counters -/

/-- Reads a counter that has to fit 64 bits without a sign. -/
def readUInt64 (source : CounterSource) (counter : Counter) : Observing (Option UInt64) := do
  match ← readOrWarn source counter with
  | none => return none
  | some value =>
    if 0 ≤ value ∧ value < Int.pow 2 64 then return some (UInt64.ofNat value.toNat)
    else
      note (.counterTooLarge counter value)
      return none

/-- The coverage: a number between zero and one, or zero where there is no source. -/
def readCoverage : Option CoverageSource → Observing (Option Binary64)
  | none => return some .zero
  | some source => do
    match ← consult source with
    | .ok coverage =>
      if coverage.inUnitInterval then return some coverage
      else
        note (.coverageOutOfRange coverage)
        return none
    | .error e =>
      note (.coverageUnavailable e)
      return none

/-- Reads what comes next only if there is a value to go on with. -/
def andThen {α β : Type} (first : Observing (Option α)) (next : α → Observing (Option β)) :
    Observing (Option β) := do
  match ← first with
  | none => return none
  | some value => next value

/-- The statistics of a source: the counters in order, each from its own read, then the coverage. -/
def ofSource (source : CounterSource) (coverage : Option CoverageSource) :
    Observing (Option Stats) :=
  andThen (readUInt64 source .blocks) fun blocks =>
  andThen (readUInt64 source .orphans) fun orphans =>
  andThen (readUInt64 source .transactions) fun transactions =>
  andThen (readUInt64 source .operations) fun operations =>
  andThen (readUInt64 source .activeReconciliations) fun activeReconciliations =>
  andThen (readUInt64 source .inactiveReconciliations) fun inactiveReconciliations =>
  andThen (readCoverage coverage) fun reconciliationCoverage =>
    return some
      { blocks, orphans, transactions, operations, activeReconciliations,
        inactiveReconciliations, reconciliationCoverage }

/-- The statistics of a run; there are none without a source. -/
def compute (source : Option CounterSource) (coverage : Option CoverageSource) :
    Observing (Option Stats) :=
  match source with
  | none => return none
  | some source => ofSource source coverage

/-! ## Shown and written -/

/-- A coverage as a percentage with six places. -/
def percentage (coverage : Binary64) : String :=
  (coverage.mul (Binary64.ofInt 100)).fixed 6 ++ "%"

/-- Name, description and value of each statistic, in the order in which they are shown. -/
def rows (s : Stats) : List (String × String × String) :=
  [("Blocks", "# of blocks synced", toString s.blocks),
   ("Orphans", "# of blocks orphaned", toString s.orphans),
   ("Transactions", "# of transaction processed", toString s.transactions),
   ("Operations", "# of operations processed", toString s.operations),
   ("Active Reconciliations", "# of reconciliations performed after seeing an account in a block",
     toString s.activeReconciliations),
   ("Inactive Reconciliations", "# of reconciliation performed on randomly selected accounts",
     toString s.inactiveReconciliations),
   ("Reconciliation Coverage", "% of accounts that have been reconciled",
     percentage s.reconciliationCoverage)]

/-- The document of the statistics. -/
def toJson (s : Stats) : Json :=
  .object
    [("blocks", .ofInt s.blocks.toNat),
     ("orphans", .ofInt s.orphans.toNat),
     ("transactions", .ofInt s.transactions.toNat),
     ("operations", .ofInt s.operations.toNat),
     ("active_reconciliations", .ofInt s.activeReconciliations.toNat),
     ("inactive_reconciliations", .ofInt s.inactiveReconciliations.toNat),
     ("reconciliation_coverage", .ofBinary64 s.reconciliationCoverage)]

/-- The fields of the statistics; all of them have to be given. -/
def record : Record :=
  ⟨["blocks", "orphans", "transactions", "operations", "active_reconciliations",
    "inactive_reconciliations", "reconciliation_coverage"], 7, false⟩

/-- The statistics that a document describes. -/
def ofDocument? (d : Document) : Option Stats := do
  match ← record.ofDocument? d with
  | [some blocks, some orphans, some transactions, some operations, some active, some inactive,
      some coverage] =>
    some
      { blocks := ← blocks.uint64?
        orphans := ← orphans.uint64?
        transactions := ← transactions.uint64?
        operations := ← operations.uint64?
        activeReconciliations := ← active.uint64?
        inactiveReconciliations := ← inactive.uint64?
        reconciliationCoverage := ← coverage.binary64? }
  | _ => none

end Stats
end LedgerCheck
