import LedgerCheck.Verdict
import LedgerCheck.Journal
import LedgerCheck.Config.Basic
/-!
# The five tests of a data check

Each test is judged on its own, from the error that ended the run and from whether the part of the
run it covers was exercised at all.  A matching error always means failure; without one a test
passes if it was exercised and is not tested otherwise.

* `Activity` — which parts of the run were exercised, as far as the counters tell.
* `requestResponse`, … `reconciliation` (in `TestSuite`) — the rule of each test.
* `TestSuite.compute` — all five tests.
-/

namespace LedgerCheck

/-! ## Activity -/

/-- Which parts of the run were exercised. -/
structure Activity where
  blocksSynced : Bool := false
  operationsSeen : Bool := false
  reconciliationsPerformed : Bool := false
deriving DecidableEq, Repr

namespace Activity

open Observing

/-- A counter was read and is positive.  A counter that cannot be read counts as not observed. -/
def isPositive (source : CounterSource) (counter : Counter) : Observing Bool := do
  match ← read source counter with
  | .ok value => return decide (0 < value)
  | .error e =>
    note (.counterNotObserved counter e)
    return false

/-- Some reconciliation was performed; inactive ones are looked at only if no active one was. -/
def reconciled (source : CounterSource) : Observing Bool := do
  if ← isPositive source .activeReconciliations then return true
  else isPositive source .inactiveReconciliations

/-- The activity that the counters show; without counters nothing was observed. -/
def observe : Option CounterSource → Observing Activity
  | none => return {}
  | some source => do
    let blocksSynced ← isPositive source .blocks
    let operationsSeen ← isPositive source .operations
    let reconciliationsPerformed ← reconciled source
    return { blocksSynced, operationsSeen, reconciliationsPerformed }

end Activity

/-! ## Tests -/

/-- The outcome of the five tests.  The first two are always run. -/
structure TestSuite where
  requestResponse : Bool
  responseAssertion : Bool
  blockSyncing : Verdict
  balanceTracking : Verdict
  reconciliation : Verdict
deriving DecidableEq, Repr

namespace TestSuite

/-- Every request was serviced. -/
def requestResponseTest (error : Option CheckError) : Bool :=
  !error.any (·.cause.isRequestFailure)

/-- Every response was correctly formatted. -/
def responseAssertionTest (error : Option CheckError) : Bool :=
  !error.any (·.cause.isAssertionFailure)

/-- The error keeps blocks from being synced: the syncer failed, or storage did.  A negative balance
speaks against balance tracking only. -/
def blocksSyncing (cause : ErrorClass) : Bool :=
  cause.isSyncerFailure || cause.storageKind?.any (· != .negativeBalance)

/-- Blocks could be synced into one canonical chain. -/
def blockSyncingTest (error : Option CheckError) (blocksSynced : Bool) : Verdict :=
  .evaluate (error.any (blocksSyncing ·.cause)) blocksSynced

/-- No balance went negative or could not be computed. -/
def balanceTrackingTest (config : DataConfig) (error : Option CheckError)
    (operationsSeen : Bool) : Verdict :=
  .evaluate (error.any (·.cause.isBalanceStorageFailure))
    (!config.balanceTrackingDisabled && operationsSeen)

/-- No computed balance differed from the live one. -/
def reconciliationTest (config : DataConfig) (error : Option CheckError)
    (reconciliationsPerformed : Bool) : Verdict :=
  .evaluate (error.any (·.cause.isReconciliationFailure))
    (!config.balanceTrackingDisabled && !config.reconciliationDisabled &&
      !config.ignoreReconciliationError && reconciliationsPerformed)

/-- The five tests, given the activity of the run. -/
def ofActivity (config : DataConfig) (error : Option CheckError) (activity : Activity) :
    TestSuite where
  requestResponse := requestResponseTest error
  responseAssertion := responseAssertionTest error
  blockSyncing := blockSyncingTest error activity.blocksSynced
  balanceTracking := balanceTrackingTest config error activity.operationsSeen
  reconciliation := reconciliationTest config error activity.reconciliationsPerformed

/-- The five tests. -/
def compute (config : DataConfig) (error : Option CheckError) (source : Option CounterSource) :
    Observing TestSuite := do
  return ofActivity config error (← Activity.observe source)

/-- Some test failed. -/
def hasFailure (t : TestSuite) : Bool :=
  !t.requestResponse || !t.responseAssertion || t.blockSyncing == .failed ||
    t.balanceTracking == .failed || t.reconciliation == .failed

/-- Name, description and verdict of each test, in the order in which they are shown. -/
def rows (t : TestSuite) : List (String × String × Verdict) :=
  [("Request/Response", "Implementation serviced all requests", .ofBool t.requestResponse),
   ("Response Assertion", "All responses are correctly formatted", .ofBool t.responseAssertion),
   ("Block Syncing", "Blocks are connected into a single canonical chain", t.blockSyncing),
   ("Balance Tracking", "Account balances did not go negative", t.balanceTracking),
   ("Reconciliation", "No balance discrepancies were found between computed and live balances",
     t.reconciliation)]

/-! ## Documents -/

/-- The document of the tests. -/
def toJson (t : TestSuite) : Json :=
  .object <| ("request_response", .bool t.requestResponse) ::
    ("response_assertion", .bool t.responseAssertion) ::
    t.blockSyncing.toField "block_syncing" ++ t.balanceTracking.toField "balance_tracking" ++
    t.reconciliation.toField "reconciliation"

/-- The fields of the tests; only the first two have to be given. -/
def record : Record :=
  ⟨["request_response", "response_assertion", "block_syncing", "balance_tracking",
    "reconciliation"], 2, false⟩

/-- The tests that a document describes. -/
def ofDocument? (d : Document) : Option TestSuite := do
  match ← record.ofDocument? d with
  | [request, assertion, syncing, tracking, reconciliation] =>
    some
      { requestResponse := ← Document.required Document.bool? request
        responseAssertion := ← Document.required Document.bool? assertion
        blockSyncing := ← Verdict.ofField? syncing
        balanceTracking := ← Verdict.ofField? tracking
        reconciliation := ← Verdict.ofField? reconciliation }
  | _ => none

/-- The tests that a text describes. -/
def read? (text : String) : Option TestSuite := (Document.read? text).bind ofDocument?

end TestSuite
end LedgerCheck
