import LedgerCheck.LiveStatus
import LedgerCheck.Proofs.RunResult
import LedgerCheck.Proofs.SyncProgress

/-!
# The reads behind a report and a status

A report and a status have two sections each that are drawn from counters, and each section has reads
of its own: a counter that both need is read twice, and may reply differently.

* `LiveStatus.run_sections` — the progress and the statistics of a status, one after the other.
* **`RunResult.compute_reads`** — which reads a report and a status make, what each section makes of
  the answers, and what is noted about them.
-/

namespace LedgerCheck

open Observing

/-- A status is collected in two steps: the progress, and then the statistics. -/
lemma LiveStatus.run_sections (source : CounterSource) (coverage : Option CoverageSource)
    (tip : Except String Int64) (j : Journal) :
    let progress := (SyncProgress.compute tip source).run j
    let stats := (Stats.compute (some source) coverage).run progress.2
    (compute (some source) coverage tip).run j = (⟨stats.1, progress.1⟩, stats.2) := by
  cases tip <;> rfl

/-- Failed reads are all noted with one gravity. -/
lemma filter_failures {event : Counter → SourceError → Event} {severity : Severity}
    (h : ∀ counter e, (event counter e).severity = severity) (answered : List (Counter × Answer)) :
    (failures event answered).filter (·.severity = severity) = failures event answered := by
  rw [List.filter_eq_self]
  intro e he
  obtain ⟨counter, reason, rfl⟩ := exists_of_mem_failures he
  exact decide_eq_true (h counter reason)

namespace RunResult

/-- The tests that are shown, and what is noted about them. -/
lemma exists_shownTests (config : DataConfig) (error : Option CheckError) (activity : Activity)
    (j : Journal) :
    let suite := TestSuite.ofActivity config error activity
    ∃ shown omitted, (∀ e ∈ omitted, e.severity = .info) ∧
      (shownTests error suite).run j = (shown, j.extend [] omitted) ∧
      ((IsUncovered error ∧ shown = none) ∨ (¬ IsUncovered error ∧ shown = some suite)) := by
  intro suite
  rcases run_shownTests config error activity j with ⟨huncovered, hrun⟩ | ⟨hcovered, hrun⟩
  · refine ⟨none, [.testsOmitted .other], by simp [Event.severity], ?_, Or.inl ⟨huncovered, rfl⟩⟩
    rw [hrun, Journal.extend, List.append_nil]
  · exact ⟨some suite, [], by simp, by rw [hrun, Journal.extend_nil], Or.inr ⟨hcovered, rfl⟩⟩

/-- The report on a run, in terms of the answers that its two groups of reads get. -/
lemma run_compute_answers (config : DataConfig) (error : Option CheckError) (source : CounterSource)
    (coverage : Option CoverageSource) (endCondition : Option EndCondition) (j : Journal) :
    let first := Activity.readsAfter source j.reads
    let second := Stats.readsAfter source (j.reads ++ first)
    let answered := source.answers j.reads first
    let answered' := source.answers (j.reads ++ first) second
    let asked := Stats.coverageQuery (source.answer (j.reads ++ first)) coverage
    let suite := TestSuite.ofActivity config error (Activity.ofAnswers answered)
    let shown := (shownTests error suite).run
      (j.extend (first.map .counter ++ (second.map .counter ++ asked))
        (failures .counterNotObserved answered ++ (Stats.complaint? coverage answered').toList))
    (compute config error (some source) coverage endCondition).run j
      = ({ error := error.map CheckError.text
           endCondition := if error.isSome then none else endCondition
           tests := shown.1
           stats := Stats.ofAnswers? coverage answered' }, shown.2) := by
  intro first second answered answered' asked suite shown
  have htests : (TestSuite.compute config error (some source)).run j
      = (suite, j.extend (first.map .counter) (failures .counterNotObserved answered)) := by
    rw [TestSuite.compute, run_bind, Activity.run_observe]
    rfl
  rw [run_compute, htests, Stats.run_compute, Journal.extend_extend, Journal.reads_extend_counters]

/-- **The reads behind a report and a status.**

A report reads blocks, operations and active reconciliations for the verdicts, inactive ones only if
the active ones were not found positive, and then the counters of the statistics as far as needed and
the coverage after all of them; the time is never read.  The verdicts are drawn from the first group
of answers and the statistics from the second one.  A status reads for the progress first: the blocks,
the orphans if there are blocks, and the time if some but not all blocks of the tip are canonical;
nothing if the tip is not known.  A read that fails is noted once, for debugging if it is for a verdict
and as a warning if it is for the progress, and it makes no difference to the other section. -/
theorem compute_reads (config : DataConfig) (error : Option CheckError) (source : CounterSource)
    (coverage : Option CoverageSource) (endCondition : Option EndCondition)
    (tip : Except String Int64) (j : Journal) :
    let report := (compute config error (some source) coverage endCondition).run j
    let status := (LiveStatus.compute (some source) coverage tip).run j
    let answer := source.answer j.reads
    (∃ first second noted,
      report.2 = ⟨j.queries ++ (first ++ second).map .counter
        ++ Stats.coverageQuery (source.answer (j.reads ++ first)) coverage, j.events ++ noted⟩ ∧
      first = [.blocks, .operations, .activeReconciliations] ++
        (if (answer .activeReconciliations).isPositive then [] else [.inactiveReconciliations]) ∧
      Stats.ReadAsNeeded (source.answer (j.reads ++ first)) second ∧
      Counter.timeElapsed ∉ first ++ second ∧
      ((IsUncovered error ∧ report.1.tests = none) ∨
        (¬ IsUncovered error ∧ report.1.tests = some (TestSuite.ofActivity config error
          (Activity.ofAnswers (source.answers j.reads first))))) ∧
      report.1.stats = Stats.ofAnswers? coverage (source.answers (j.reads ++ first) second) ∧
      noted.filter (·.severity = .debug)
        = failures .counterNotObserved (source.answers j.reads first)) ∧
    ∃ first second noted,
      status.2 = ⟨j.queries ++ (first ++ second).map .counter
        ++ Stats.coverageQuery (source.answer (j.reads ++ first)) coverage, j.events ++ noted
        ++ (Stats.complaint? coverage (source.answers (j.reads ++ first) second)).toList⟩ ∧
      ((∃ reason, tip = .error reason ∧ first = [] ∧ noted = [.tipUnavailable reason]) ∨
        ∃ goal, tip = .ok goal ∧ first <+: [.blocks, .orphans, .timeElapsed] ∧ .blocks ∈ first ∧
          (.orphans ∈ first ↔ ∃ b, answer .blocks = .ok b ∧ b ≠ 0) ∧
          (.timeElapsed ∈ first ↔ ∃ b o, answer .blocks = .ok b ∧ b ≠ 0 ∧
            answer .orphans = .ok o ∧ 0 < b - o ∧ b - o < goal.toInt) ∧
          noted.filter (·.severity = .warn)
            = failures .counterUnavailable (source.answers j.reads first)) ∧
      Stats.ReadAsNeeded (source.answer (j.reads ++ first)) second ∧
      status.1.progress = ((SyncProgress.compute tip source).run j).1 ∧
      status.1.stats = Stats.ofAnswers? coverage (source.answers (j.reads ++ first) second) := by
  intro report status answer
  constructor
  · set first := Activity.readsAfter source j.reads with hfirst
    set second := Stats.readsAfter source (j.reads ++ first) with hsecond
    set observed := failures .counterNotObserved (source.answers j.reads first) with hobserved
    set complaint := (Stats.complaint? coverage (source.answers (j.reads ++ first) second)).toList
      with hcomplaint
    set asked := Stats.coverageQuery (source.answer (j.reads ++ first)) coverage with hasked
    obtain ⟨shown, omitted, hinfo, hshown, htests⟩ := exists_shownTests config error
      (Activity.ofAnswers (source.answers j.reads first))
      (j.extend (first.map .counter ++ (second.map .counter ++ asked)) (observed ++ complaint))
    have hreport : report = _ := run_compute_answers config error source coverage endCondition j
    rw [← hfirst, ← hsecond, ← hobserved, ← hcomplaint, ← hasked, hshown, Journal.extend_extend,
      List.append_nil] at hreport
    refine ⟨first, second, observed ++ complaint ++ omitted, ?_, rfl,
      Stats.readAsNeeded_readsAfter source _, ?_, ?_, ?_, ?_⟩
    · simp only [hreport, Journal.extend, hasked, List.map_append, List.append_assoc]
    · rw [List.mem_append, not_or]
      exact ⟨Activity.timeElapsed_notMem_readsAfter source _,
        (Stats.readAsNeeded_readsAfter source _).timeElapsed_notMem⟩
    · rwa [hreport]
    · rw [hreport]
    · rw [List.filter_append, List.filter_append, hobserved,
        filter_failures (fun counter e => rfl : ∀ counter e,
          (Event.counterNotObserved counter e).severity = .debug),
        filter_severity_eq_nil (by decide) (fun e he => (Stats.of_mem_complaint? he).1),
        filter_severity_eq_nil (by decide) hinfo, List.append_nil, List.append_nil]
  · obtain ⟨value, first, noted, hrun, hcases⟩ := SyncProgress.course_compute source j tip
    have hstatus : status = _ := LiveStatus.run_sections source coverage tip j
    rw [hrun, Stats.run_compute, Journal.extend_extend, Journal.reads_extend_counters] at hstatus
    rw [hrun, hstatus]
    refine ⟨first, Stats.readsAfter source (j.reads ++ first), noted, ?_, ?_,
      Stats.readAsNeeded_readsAfter source _, rfl, rfl⟩
    · simp only [Journal.extend, List.map_append, List.append_assoc]
    · refine hcases.imp ?_ ?_
      · rintro ⟨reason, htip, -, hfirst, hnoted⟩
        exact ⟨reason, htip, hfirst, hnoted⟩
      · rintro ⟨goal, htip, hcourse⟩
        exact ⟨goal, htip, hcourse.prefix_reads, hcourse.blocks_mem, hcourse.orphans_mem_iff,
          hcourse.timeElapsed_mem_iff, hcourse.warnings⟩

end RunResult
end LedgerCheck
