import LedgerCheck.LiveStatus
import LedgerCheck.Proofs.Counter.Reads
import LedgerCheck.Proofs.RunResult

/-!
# Sections that agree

The tests look at the counters first and the statistics read them again.  In between the run may go
on, so the two agree only as far as the counters allow: counters that never decrease are positive in
the statistics if a test passed on them, and counters that stand still are told alike by both.

* `TestSuite.activity_of_passed`, `TestSuite.activity_of_notTested` — what a verdict says about the
  activity of the run.
* **`RunResult.compute_agrees`** — the sections of a report, and of a status, do not contradict each
  other.
-/

namespace LedgerCheck

open Observing

namespace TestSuite

variable (config : DataConfig) (error : Option CheckError) (activity : Activity)

/-- A test passes on activity only. -/
lemma activity_of_passed :
    let suite := ofActivity config error activity
    (suite.blockSyncing = .passed → activity.blocksSynced = true) ∧
    (suite.balanceTracking = .passed → activity.operationsSeen = true) ∧
    (suite.reconciliation = .passed → activity.reconciliationsPerformed = true) := by
  simp +contextual [ofActivity, blockSyncingTest, balanceTrackingTest, reconciliationTest]

/-- A test that is switched on and was not run has seen no activity. -/
lemma activity_of_notTested :
    let suite := ofActivity config error activity
    (suite.blockSyncing = .notTested → activity.blocksSynced = false) ∧
    (config.balanceTrackingDisabled = false → suite.balanceTracking = .notTested →
      activity.operationsSeen = false) ∧
    (config.balanceTrackingDisabled = false → config.reconciliationDisabled = false →
      config.ignoreReconciliationError = false → suite.reconciliation = .notTested →
        activity.reconciliationsPerformed = false) := by
  simp +contextual [ofActivity, blockSyncingTest, balanceTrackingTest, reconciliationTest]

end TestSuite

namespace RunResult

/-! ## A report -/

section Report

variable {config : DataConfig} {error : Option CheckError} {source : CounterSource}
  {coverage : Option CoverageSource} {endCondition : Option EndCondition} {j : Journal}
  {tests : TestSuite} {stats : Stats}

/-- The tests that a report shows were judged on the activity that the source had first. -/
lemma eq_ofActivity_of_tests
    (h : ((compute config error (some source) coverage endCondition).run j).1.tests = some tests) :
    tests = TestSuite.ofActivity config error ((Activity.observe (some source)).run j).1 :=
  (tests_compute config error (some source) coverage endCondition j).2.1 tests h

/-- The statistics of a report are read after that. -/
lemma answersAfter_of_stats
    (h : ((compute config error (some source) coverage endCondition).run j).1.stats = some stats)
    {counter : Counter} {n : UInt64} (hn : stats.value? counter = some n) :
    source.AnswersAfter counter n.toNat ((Activity.observe (some source)).run j).2 :=
  Stats.answersAfter_of_compute h hn

variable (htests : ((compute config error (some source) coverage endCondition).run j).1.tests
    = some tests)
  (hstats : ((compute config error (some source) coverage endCondition).run j).1.stats = some stats)
include htests hstats

/-- **What a test passed on is positive in the statistics**, if the counters never decrease. -/
lemma pos_of_passed (hsource : source.NeverDecreases) :
    (tests.blockSyncing = .passed → 0 < stats.blocks) ∧
    (tests.balanceTracking = .passed → 0 < stats.operations) ∧
    (tests.reconciliation = .passed →
      0 < stats.activeReconciliations ∨ 0 < stats.inactiveReconciliations) := by
  have hpositive : ∀ counter n x, stats.value? counter = some n → 0 < x →
      source.Answered counter x ((Activity.observe (some source)).run j).2 → 0 < n := by
    intro counter n x hn hx hanswered
    have hle := hsource.le hanswered (answersAfter_of_stats hstats hn)
    rw [UInt64.lt_iff_toNat_lt, UInt64.toNat_zero]
    omega
  obtain ⟨hblocks, hoperations, hreconciled⟩ := Activity.answered_of_observe source j
  obtain ⟨hsynced, hseen, hperformed⟩ := TestSuite.activity_of_passed config error
    ((Activity.observe (some source)).run j).1
  rw [eq_ofActivity_of_tests htests]
  refine ⟨fun h => ?_, fun h => ?_, fun h => ?_⟩
  · obtain ⟨x, hx, hanswered⟩ := hblocks (hsynced h)
    exact hpositive .blocks _ x rfl hx hanswered
  · obtain ⟨x, hx, hanswered⟩ := hoperations (hseen h)
    exact hpositive .operations _ x rfl hx hanswered
  · obtain ⟨x, hx, hactive | hinactive⟩ := hreconciled (hperformed h)
    · exact Or.inl (hpositive .activeReconciliations _ x rfl hx hactive)
    · exact Or.inr (hpositive .inactiveReconciliations _ x rfl hx hinactive)

/-- **What a test was not run for is zero in the statistics**, if the counters stand still. -/
lemma eq_zero_of_notTested (hsource : source.IsSteady) :
    (tests.blockSyncing = .notTested → stats.blocks = 0) ∧
    (config.balanceTrackingDisabled = false → tests.balanceTracking = .notTested →
      stats.operations = 0) ∧
    (config.balanceTrackingDisabled = false → config.reconciliationDisabled = false →
      config.ignoreReconciliationError = false → tests.reconciliation = .notTested →
        stats.activeReconciliations = 0 ∧ stats.inactiveReconciliations = 0) := by
  have hzero : ∀ counter n, stats.value? counter = some n →
      (∀ x, source.AnswersAfter counter x ((Activity.observe (some source)).run j).2 → x ≤ 0) →
        n = 0 := by
    intro counter n hn hle
    have hnonpos := hle _ (answersAfter_of_stats hstats hn)
    rw [← UInt64.toNat_inj, UInt64.toNat_zero]
    omega
  obtain ⟨hblocks, hoperations, hreconciled⟩ :=
    Activity.le_of_observe hsource ((Activity.observe (some source)).run j).2 j
  obtain ⟨hsynced, hseen, hperformed⟩ := TestSuite.activity_of_notTested config error
    ((Activity.observe (some source)).run j).1
  rw [eq_ofActivity_of_tests htests]
  refine ⟨fun h => ?_, fun hbalance h => ?_, fun hbalance hreconciliation hignore h => ?_⟩
  · exact hzero .blocks _ rfl (hblocks (hsynced h))
  · exact hzero .operations _ rfl (hoperations (hseen hbalance h))
  · obtain ⟨hactive, hinactive⟩ := hreconciled (hperformed hbalance hreconciliation hignore h)
    exact ⟨hzero .activeReconciliations _ rfl hactive,
      hzero .inactiveReconciliations _ rfl hinactive⟩

end Report

/-! ## A status -/

/-- **The progress counts the blocks of the statistics less their orphans**, if the counters stand
still; it is more than nothing and less than the tip. -/
lemma blocks_of_progress {source : CounterSource} {coverage : Option CoverageSource}
    {tip : Except String Int64} {j : Journal} {stats : Stats} {progress : SyncProgress}
    (hstats : ((LiveStatus.compute (some source) coverage tip).run j).1.stats = some stats)
    (hprogress : ((LiveStatus.compute (some source) coverage tip).run j).1.progress = some progress)
    (hsource : source.IsSteady) :
    progress.blocks.toInt = stats.blocks.toNat - stats.orphans.toNat ∧
      0 < progress.blocks.toInt ∧ progress.blocks.toInt < progress.tip.toInt := by
  cases tip with
  | error reason => cases hprogress
  | ok tip =>
      obtain ⟨htip, hpositive, hbelow, blocks, orphans, hblocks, horphans, hcount⟩ :=
        SyncProgress.isDrawnAfter_of_compute hprogress
      have hstatistic : ∀ counter n, stats.value? counter = some n →
          source.AnswersAfter counter n.toNat
            ((LiveStatus.progressTo (some source) (.ok tip)).run j).2 :=
        fun _ _ => Stats.answersAfter_of_compute hstats
      have hsame := hsource.eq_of_answersAfter hblocks (hstatistic .blocks _ rfl)
      have hsame' := hsource.eq_of_answersAfter horphans (hstatistic .orphans _ rfl)
      rw [htip]
      exact ⟨by rw [hcount, hsame, hsame'], hpositive, hbelow⟩

/-! ## All sections -/

/-- **The sections of a report never contradict each other**, although the counters are read anew
for each of them, between which they may change and reads may fail.

* If successful reads of a counter never decrease, a test that passed on a counter has it positive
  in the statistics.
* If every read of a counter gets the same reply, a test that is switched on and was not run has it
  zero in the statistics; and the progress shown beside statistics counts the blocks less the
  orphans of these, more than none and fewer than the index of the tip. -/
theorem compute_agrees (config : DataConfig) (error : Option CheckError) (source : CounterSource)
    (coverage : Option CoverageSource) (endCondition : Option EndCondition)
    (tip : Except String Int64) (j : Journal) :
    let report := ((compute config error (some source) coverage endCondition).run j).1
    let status := ((LiveStatus.compute (some source) coverage tip).run j).1
    (source.NeverDecreases → ∀ tests stats, report.tests = some tests → report.stats = some stats →
      (tests.blockSyncing = .passed → 0 < stats.blocks) ∧
      (tests.balanceTracking = .passed → 0 < stats.operations) ∧
      (tests.reconciliation = .passed →
        0 < stats.activeReconciliations ∨ 0 < stats.inactiveReconciliations)) ∧
    (source.IsSteady → ∀ tests stats, report.tests = some tests → report.stats = some stats →
      (tests.blockSyncing = .notTested → stats.blocks = 0) ∧
      (config.balanceTrackingDisabled = false → tests.balanceTracking = .notTested →
        stats.operations = 0) ∧
      (config.balanceTrackingDisabled = false → config.reconciliationDisabled = false →
        config.ignoreReconciliationError = false → tests.reconciliation = .notTested →
          stats.activeReconciliations = 0 ∧ stats.inactiveReconciliations = 0)) ∧
    (source.IsSteady → ∀ stats progress, status.stats = some stats →
      status.progress = some progress →
        progress.blocks.toInt = stats.blocks.toNat - stats.orphans.toNat ∧
        0 < progress.blocks.toInt ∧ progress.blocks.toInt < progress.tip.toInt) := by
  intro report status
  refine ⟨?_, ?_, ?_⟩
  · intro hsource tests stats htests hstats
    exact pos_of_passed htests hstats hsource
  · intro hsource tests stats htests hstats
    exact eq_zero_of_notTested htests hstats hsource
  · intro hsource stats progress hstats hprogress
    exact blocks_of_progress hstats hprogress hsource

/-- A run that goes on while its report is made, and one that stands still without operations. -/
theorem compute_agrees_moving_and_still :
    let moving : CounterSource := fun _ n => .ok (n + 1)
    let still : CounterSource := fun counter _ =>
      .ok (if counter = .blocks then 5
        else if counter = .orphans ∨ counter = .timeElapsed then 1 else 0)
    (∃ tests stats, ((compute {} none (some moving) none none).run {}).1
        = { tests := some tests, stats := some stats } ∧
      tests.blockSyncing = .passed ∧ 0 < stats.blocks) ∧
    (∃ tests stats, ((compute {} none (some still) none none).run {}).1
        = { tests := some tests, stats := some stats } ∧
      tests.balanceTracking = .notTested ∧ stats.operations = 0) ∧
    ∃ stats progress, ((LiveStatus.compute (some still) none (.ok 10)).run {}).1
        = { stats := some stats, progress := some progress } ∧
      progress.blocks.toInt = stats.blocks.toNat - stats.orphans.toNat ∧
      0 < progress.blocks.toInt ∧ progress.blocks.toInt < progress.tip.toInt := by
  intro moving still
  have hmoving : moving.NeverDecreases := by
    intro counter m n x y hmn hx hy
    cases hx
    cases hy
    omega
  have hstill : still.IsSteady := fun _ _ _ => rfl
  obtain ⟨progress, hprogress⟩ : ∃ progress,
      ((LiveStatus.compute (some still) none (.ok 10)).run {}).1.progress = some progress :=
    Option.isSome_iff_exists.mp (by decide +kernel)
  obtain ⟨stats, hstats⟩ : ∃ stats,
      ((LiveStatus.compute (some still) none (.ok 10)).run {}).1.stats = some stats :=
    Option.isSome_iff_exists.mp (by decide +kernel)
  refine ⟨⟨_, _, rfl, rfl, ?_⟩, ⟨_, _, rfl, rfl, ?_⟩, stats, progress, ?_, ?_⟩
  · exact ((compute_agrees {} none moving none none (.ok 10) {}).1 hmoving _ _ rfl rfl).1 rfl
  · exact ((compute_agrees {} none still none none (.ok 10) {}).2.1 hstill _ _ rfl rfl).2.1 rfl rfl
  · rw [← hstats, ← hprogress]
  · exact (compute_agrees {} none still none none (.ok 10) {}).2.2 hstill stats progress hstats
      hprogress

end RunResult
end LedgerCheck
