import LedgerCheck.Proofs.Counter.Answers
import LedgerCheck.Proofs.TestSuite

/-!
# The verdict of each test

A verdict follows from two questions: does the error count against the test, and was the part of the
run that it covers exercised?  The first one is answered by the class of the error, the second one by
the configuration and by the first reply to each counter.

* `Verdict.Follows` — a verdict that follows from a failure and from having been exercised.
* `TestSuite.failedNames_ofActivity` — the tests that failed are those that the class of the error
  counts against.
* **`TestSuite.compute_table`** — the verdict of each test, in terms of the error and of the replies.
-/

namespace LedgerCheck

open Observing

/-! ## Verdicts -/

/-- **The verdict follows from** whether the test failed and whether it was exercised, where a failure
takes precedence. -/
structure Verdict.Follows (v : Verdict) (failing exercised : Prop) : Prop where
  failed : v = .failed ↔ failing
  passed : v = .passed ↔ ¬ failing ∧ exercised
  notTested : v = .notTested ↔ ¬ failing ∧ ¬ exercised

lemma Verdict.follows_evaluate {failing exercised : Bool} {P Q : Prop} (hP : failing = true ↔ P)
    (hQ : exercised = true ↔ Q) : (evaluate failing exercised).Follows P Q := by
  rw [← hP, ← hQ]
  constructor <;> simp

/-! ## Classes of errors -/

namespace ErrorClass

variable {cause : ErrorClass}

lemma isRequestFailure_iff : cause.isRequestFailure = true ↔
    cause ∈ [fetch, networkNotSupported, networkStatus, fetchBlock] := by
  cases cause <;> simp [isRequestFailure]

lemma isAssertionFailure_iff : cause.isAssertionFailure = true ↔ cause = assertion := by
  cases cause <;> simp [isAssertionFailure]

lemma isBalanceStorageFailure_iff : cause.isBalanceStorageFailure = true ↔
    ∃ kind ∈ [StorageKind.negativeBalance, .invalidLiveBalance, .balancePruned, .blockNil,
      .accountMissing, .invalidChangeValue, .invalidValue], cause = storage kind := by
  cases cause with
  | storage kind => cases kind <;> simp [isBalanceStorageFailure, StorageKind.isBalance]
  | _ => simp [isBalanceStorageFailure]

lemma isReconciliationFailure_iff :
    cause.isReconciliationFailure = true ↔ cause = reconciliation := by
  cases cause <;> simp [isReconciliationFailure]

end ErrorClass

lemma TestSuite.blocksSyncing_iff {cause : ErrorClass} : blocksSyncing cause = true ↔
    cause ∈ [.syncer, .networkStatus, .fetchBlock] ∨
      ∃ kind, cause = .storage kind ∧ kind ≠ .negativeBalance := by
  cases cause <;> simp [blocksSyncing, ErrorClass.isSyncerFailure, ErrorClass.storageKind?]

/-! ## The table -/

namespace TestSuite

/-- There is an error that counts against a test. -/
lemma any_iff {error : Option CheckError} {counts : CheckError → Bool} {P : CheckError → Prop}
    (h : ∀ e, counts e = true ↔ P e) : error.any counts = true ↔ ∃ e ∈ error, P e := by
  cases error <;> simp [h]

/-- The tests, each with the classes of errors that count against it. -/
def coverage : List (String × (ErrorClass → Bool)) :=
  [("Request/Response", ErrorClass.isRequestFailure),
   ("Response Assertion", ErrorClass.isAssertionFailure),
   ("Block Syncing", blocksSyncing),
   ("Balance Tracking", ErrorClass.isBalanceStorageFailure),
   ("Reconciliation", ErrorClass.isReconciliationFailure)]

/-- The names of the tests that failed. -/
def failedNames (t : TestSuite) : List String :=
  (t.rows.filter fun row => row.2.2 = .failed).map Prod.fst

/-- **The tests that failed are those that the class of the error counts against.** -/
lemma failedNames_ofActivity (config : DataConfig) (error : Option CheckError)
    (activity : Activity) :
    (ofActivity config error activity).failedNames
      = (coverage.filter fun test => (error.map CheckError.cause).any test.2).map Prod.fst := by
  simp only [failedNames, rows, ofActivity, coverage, requestResponseTest, responseAssertionTest,
    blockSyncingTest, balanceTrackingTest, reconciliationTest, List.filter_cons, List.filter_nil,
    Verdict.ofBool_eq_failed_iff, Verdict.evaluate_eq_failed_iff, Bool.not_eq_eq_eq_not,
    Bool.not_false, Bool.decide_eq_true, Option.any_map]
  -- both sides ask the same five questions
  split_ifs <;> rfl

/-- **The verdict of each test.**  The first two tests are always run.  Each of the others fails if the
error counts against it, whatever is switched off and whatever was observed; without such an error it
passed if the part of the run that it covers was observed and is not switched off.  So two runs that
end with errors of one class fail the same tests. -/
theorem compute_table (config : DataConfig) (error : Option CheckError)
    (source : Option CounterSource) (j : Journal) :
    let tests := ((compute config error source).run j).1
    let observed := Counter.IsObserved source j.reads
    (tests.requestResponse = false ↔
      ∃ e ∈ error, e.cause ∈ [.fetch, .networkNotSupported, .networkStatus, .fetchBlock]) ∧
    (tests.responseAssertion = false ↔ ∃ e ∈ error, e.cause = .assertion) ∧
    tests.blockSyncing.Follows
      (∃ e ∈ error, e.cause ∈ [.syncer, .networkStatus, .fetchBlock] ∨
        ∃ kind, e.cause = .storage kind ∧ kind ≠ .negativeBalance)
      (observed .blocks) ∧
    tests.balanceTracking.Follows
      (∃ e ∈ error, ∃ kind ∈ [StorageKind.negativeBalance, .invalidLiveBalance, .balancePruned,
        .blockNil, .accountMissing, .invalidChangeValue, .invalidValue], e.cause = .storage kind)
      (config.balanceTrackingDisabled = false ∧ observed .operations) ∧
    tests.reconciliation.Follows
      (∃ e ∈ error, e.cause = .reconciliation)
      (config.balanceTrackingDisabled = false ∧ config.reconciliationDisabled = false ∧
        config.ignoreReconciliationError = false ∧
        (observed .activeReconciliations ∨ observed .inactiveReconciliations)) ∧
    ∀ (config' : DataConfig) (error' : Option CheckError) (source' : Option CounterSource)
      (j' : Journal), error'.map CheckError.cause = error.map CheckError.cause →
        ((compute config' error' source').run j').1.failedNames = tests.failedNames := by
  intro tests observed
  obtain ⟨hblocks, hoperations, hreconciliations⟩ := Activity.observe_iff source j
  have htests : tests = ofActivity config error ((Activity.observe source).run j).1 := rfl
  rw [htests]
  -- from here on the activity is only known by what it shows
  generalize ((Activity.observe source).run j).1 = activity
    at hblocks hoperations hreconciliations htests ⊢
  refine ⟨?_, ?_, ?_, ?_, ?_, ?_⟩
  · rw [ofActivity, requestResponseTest, Bool.not_eq_false']
    exact any_iff fun _ => ErrorClass.isRequestFailure_iff
  · rw [ofActivity, responseAssertionTest, Bool.not_eq_false']
    exact any_iff fun _ => ErrorClass.isAssertionFailure_iff
  · exact Verdict.follows_evaluate (any_iff fun _ => blocksSyncing_iff) hblocks
  · refine Verdict.follows_evaluate (any_iff fun _ => ErrorClass.isBalanceStorageFailure_iff) ?_
    simp only [Bool.and_eq_true, Bool.not_eq_true', hoperations, observed]
  · refine Verdict.follows_evaluate (any_iff fun _ => ErrorClass.isReconciliationFailure_iff) ?_
    simp only [Bool.and_eq_true, Bool.not_eq_true', hreconciliations, observed, and_assoc]
  · intro config' error' source' j' hcause
    have htests' : ((compute config' error' source').run j').1
        = ofActivity config' error' ((Activity.observe source').run j').1 := rfl
    rw [htests', failedNames_ofActivity, failedNames_ofActivity, hcause]

/-- A negative balance, with balance tracking switched off and switched on. -/
theorem compute_table_of_negative_balance :
    let off : DataConfig := { balanceTrackingDisabled := true }
    let tests := ((compute off (some ⟨.storage .negativeBalance, "-1"⟩) none).run {}).1
    let tests' := ((compute {} (some ⟨.storage .negativeBalance, "-2"⟩)
      (some fun _ _ => .ok 1)).run {}).1
    tests.balanceTracking = .failed ∧ tests.blockSyncing = .notTested ∧
      tests'.failedNames = tests.failedNames := by
  intro off tests tests'
  obtain ⟨-, -, hsyncing, htracking, -, hsame⟩ :=
    compute_table off (some ⟨.storage .negativeBalance, "-1"⟩) none {}
  refine ⟨htracking.failed.mpr ⟨_, rfl, .negativeBalance, by decide, rfl⟩,
    hsyncing.notTested.mpr ⟨?_, ?_⟩, hsame _ _ _ _ rfl⟩
  · rintro ⟨e, he, hcause⟩
    cases he
    simp at hcause
  · rintro ⟨s, hs, -⟩
    cases hs

end TestSuite
end LedgerCheck
