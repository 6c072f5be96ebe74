import LedgerCheck.Proofs.Journal

/-!
# Which errors the tests cover

An error is covered if some test counts it as a failure.  The five tests look at the class of the
error independently of each other, so that nothing in their definitions says that they leave no
class out but the unclassified one.

* `TestSuite.hasFailure_iff` — a suite has a failure if one of the tests it shows failed.
* `TestSuite.hasFailure_ofActivity` — **an error fails some test unless it is unclassified**,
  whatever the configuration switches off and whatever the counters show.
-/

namespace LedgerCheck

namespace Verdict

/-- A failure counts even if the test was never exercised. -/
@[simp] lemma evaluate_eq_failed_iff {failing exercised : Bool} :
    evaluate failing exercised = .failed ↔ failing = true := by
  cases failing <;> cases exercised <;> simp [evaluate]

/-- Without a failure, the verdict says whether the test was exercised. -/
@[simp] lemma evaluate_eq_passed_iff {failing exercised : Bool} :
    evaluate failing exercised = .passed ↔ failing = false ∧ exercised = true := by
  cases failing <;> cases exercised <;> simp [evaluate]

@[simp] lemma evaluate_eq_notTested_iff {failing exercised : Bool} :
    evaluate failing exercised = .notTested ↔ failing = false ∧ exercised = false := by
  cases failing <;> cases exercised <;> simp [evaluate]

@[simp] lemma ofBool_eq_failed_iff {b : Bool} : ofBool b = .failed ↔ b = false := by
  cases b <;> simp [ofBool]

end Verdict

namespace TestSuite

/-- **A suite has a failure** exactly if one of the five verdicts it shows is a failure. -/
theorem hasFailure_iff {t : TestSuite} :
    t.hasFailure = true ↔ ∃ row ∈ t.rows, row.2.2 = .failed := by
  simp [hasFailure, rows, or_assoc]

/-! ## Classes of errors -/

/-- A storage error counts against syncing or against balances: a negative balance, the only one
that does not speak against syncing, is a failure of balances. -/
lemma blocksSyncing_or_isBalance (kind : StorageKind) :
    blocksSyncing (.storage kind) = true ∨ kind.isBalance = true := by
  by_cases hkind : kind = .negativeBalance
  · right
    rw [hkind, StorageKind.isBalance]
  · left
    simp [blocksSyncing, ErrorClass.storageKind?, hkind]

/-- Some test counts every class of errors as a failure but the unclassified one. -/
lemma covered_iff (cause : ErrorClass) :
    (cause.isRequestFailure = true ∨ cause.isAssertionFailure = true ∨
      blocksSyncing cause = true ∨ cause.isBalanceStorageFailure = true ∨
      cause.isReconciliationFailure = true) ↔ cause ≠ .other := by
  cases cause with
  | storage kind =>
      simp only [ne_eq, reduceCtorEq, not_false_eq_true, iff_true]
      rcases blocksSyncing_or_isBalance kind with hsync | hbalance
      · exact Or.inr (Or.inr (Or.inl hsync))
      · exact Or.inr (Or.inr (Or.inr (Or.inl hbalance)))
  | _ =>
      simp [ErrorClass.isRequestFailure, ErrorClass.isAssertionFailure, blocksSyncing,
        ErrorClass.isSyncerFailure, ErrorClass.storageKind?, ErrorClass.isBalanceStorageFailure,
        ErrorClass.isReconciliationFailure]

/-- **An error fails some test unless it is unclassified.**  What is switched off and what was
exercised decide only between a test that passed and one that was not run. -/
theorem hasFailure_ofActivity (config : DataConfig) (e : CheckError) (activity : Activity) :
    (ofActivity config (some e) activity).hasFailure = true ↔ e.cause ≠ .other := by
  rw [← covered_iff e.cause]
  simp [hasFailure, ofActivity, requestResponseTest, responseAssertionTest, blockSyncingTest,
    balanceTrackingTest, reconciliationTest, or_assoc]

end TestSuite
end LedgerCheck
