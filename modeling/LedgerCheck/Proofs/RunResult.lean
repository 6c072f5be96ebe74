import LedgerCheck.RunResult
import LedgerCheck.Proofs.Stats.Answers
import LedgerCheck.Proofs.TestSuite

/-!
# The sections of a report

A report has four sections, each of which may be absent, and is put together from the tests and the
statistics, which are collected one after the other from the same counters.

* `RunResult.run_shownTests` — the tests are left out, which is noted, for an unclassified error.
* **`RunResult.compute_sections`** — what each section of a report is, and when it is absent.
-/

namespace LedgerCheck
namespace RunResult

open Observing

/-- The report is collected in three steps: the tests, the statistics, and then the decision
whether the tests are shown. -/
lemma run_compute (config : DataConfig) (error : Option CheckError)
    (source : Option CounterSource) (coverage : Option CoverageSource)
    (endCondition : Option EndCondition) (j : Journal) :
    let tests := (TestSuite.compute config error source).run j
    let stats := (Stats.compute source coverage).run tests.2
    let shown := (shownTests error tests.1).run stats.2
    (compute config error source coverage endCondition).run j
      = ({ error := error.map CheckError.text
           endCondition := if error.isSome then none else endCondition
           tests := shown.1
           stats := stats.1 }, shown.2) := rfl

/-- The error is one that no test covers. -/
def IsUncovered (error : Option CheckError) : Prop := ∃ e, error = some e ∧ e.cause = .other

/-- No test failed over the error, although there is one, exactly if the error is unclassified. -/
lemma isUncovered_iff (config : DataConfig) (error : Option CheckError) (activity : Activity) :
    IsUncovered error ↔
      error.isSome = true ∧ (TestSuite.ofActivity config error activity).hasFailure = false := by
  cases error with
  | none => simp [IsUncovered]
  | some e =>
      rw [← Bool.not_eq_true, TestSuite.hasFailure_ofActivity]
      simp [IsUncovered]

/-- Leaving the tests out takes an unclassified error; it is noted, and nothing else is. -/
lemma run_shownTests (config : DataConfig) (error : Option CheckError) (activity : Activity)
    (j : Journal) :
    let suite := TestSuite.ofActivity config error activity
    (IsUncovered error ∧ (shownTests error suite).run j
      = (none, { j with events := j.events ++ [.testsOmitted .other] })) ∨
    (¬ IsUncovered error ∧ (shownTests error suite).run j = (some suite, j)) := by
  intro suite
  cases error with
  | none => exact Or.inr ⟨by simp [IsUncovered], rfl⟩
  | some e =>
      have hfailure : suite.hasFailure = true ↔ e.cause ≠ .other :=
        TestSuite.hasFailure_ofActivity config e activity
      by_cases hcause : e.cause = .other
      · refine Or.inl ⟨⟨e, rfl, hcause⟩, ?_⟩
        have hclear : suite.hasFailure = false := by simpa [hcause] using hfailure
        rw [shownTests, hclear, hcause]
        rfl
      · refine Or.inr ⟨by simp [IsUncovered, hcause], ?_⟩
        rw [shownTests, hfailure.mpr hcause]
        rfl

/-- **The tests of a report** are absent for an error that no test covers, and are else the ones
that were computed; their absence is the only thing that the report itself notes. -/
lemma tests_compute (config : DataConfig) (error : Option CheckError)
    (source : Option CounterSource) (coverage : Option CoverageSource)
    (endCondition : Option EndCondition) (j : Journal) :
    let tests := (TestSuite.compute config error source).run j
    let stats := (Stats.compute source coverage).run tests.2
    let report := (compute config error source coverage endCondition).run j
    (report.1.tests = none ↔ IsUncovered error) ∧
    (∀ suite, report.1.tests = some suite → suite = tests.1) ∧
    report.2.events
      = stats.2.events ++ if report.1.tests = none then [.testsOmitted .other] else [] := by
  intro tests stats report
  have htests : report.1.tests = ((shownTests error tests.1).run stats.2).1 := rfl
  have hevents : report.2 = ((shownTests error tests.1).run stats.2).2 := rfl
  rw [htests, hevents]
  rcases run_shownTests config error ((Activity.observe source).run j).1 stats.2 with
    ⟨huncovered, hshown⟩ | ⟨hcovered, hshown⟩
  · replace hshown : (shownTests error tests.1).run stats.2 = _ := hshown
    rw [hshown]
    exact ⟨by simp [huncovered], by simp, by simp⟩
  · replace hshown : (shownTests error tests.1).run stats.2 = _ := hshown
    rw [hshown]
    refine ⟨by simp [hcovered], ?_, by simp⟩
    intro suite hsuite
    exact (Option.some.inj hsuite).symm

/-- No event of one gravity is among events of another one. -/
lemma filter_severity_eq_nil {s s' : Severity} (hs : s ≠ s') {events : List Event}
    (h : ∀ e ∈ events, e.severity = s) : events.filter (·.severity = s') = [] := by
  rw [List.filter_eq_nil_iff]
  intro e he
  simp [h e he, hs]

/-- The line about tests that are left out. -/
lemma line_testsOmitted : (Event.testsOmitted .other).line
    = "INFO error not covered by any test; omitting tests class=other" := by
  decide

/-- **The sections of a report.**  What the counters reply at each read makes no difference to which
sections there are: the tests are absent exactly for an unclassified error, which is where there is
an error and yet no test failed; then and only then a line says so. -/
theorem compute_sections (config : DataConfig) (error : Option CheckError)
    (source : Option CounterSource) (coverage : Option CoverageSource)
    (endCondition : Option EndCondition) (j : Journal) :
    let tests := (TestSuite.compute config error source).run j
    let stats := (Stats.compute source coverage).run tests.2
    let report := (compute config error source coverage endCondition).run j
    report.1.error = error.map CheckError.text ∧
    (report.1.error.isSome → report.1.endCondition = none) ∧
    (error = none → report.1.endCondition = endCondition) ∧
    (report.1.tests = none ↔ ∃ e, error = some e ∧ e.cause = .other) ∧
    (report.1.tests = none ↔ error.isSome ∧ ∀ row ∈ tests.1.rows, row.2.2 ≠ .failed) ∧
    (∀ suite, report.1.tests = some suite → suite = tests.1) ∧
    report.1.stats = stats.1 ∧
    ∃ noted, report.2.events = j.events ++ noted ∧
      (noted.filter (·.severity = .info)).map Event.line
        = if report.1.tests = none then
            ["INFO error not covered by any test; omitting tests class=other"]
          else [] := by
  intro tests stats report
  obtain ⟨habsent, hsuite, hevents⟩ :=
    tests_compute config error source coverage endCondition j
  obtain ⟨observed, hobserved, hdebug⟩ := Activity.notes_observe source j
  obtain ⟨warned, hwarned, hwarn⟩ := Stats.notes_compute source coverage tests.2
  have hclear : (∀ row ∈ tests.1.rows, row.2.2 ≠ .failed) ↔ tests.1.hasFailure = false := by
    rw [← Bool.not_eq_true, TestSuite.hasFailure_iff]
    simp only [not_exists, not_and, ne_eq]
  have hunfailed : report.1.tests = none ↔
      error.isSome ∧ ∀ row ∈ tests.1.rows, row.2.2 ≠ .failed := by
    rw [hclear]
    exact habsent.trans (isUncovered_iff config error ((Activity.observe source).run j).1)
  refine ⟨rfl, ?_, ?_, habsent, hunfailed, hsuite, rfl, ?_⟩
  · intro herror
    cases error with
    | none => exact absurd herror (by simp [report, run_compute])
    | some e => rfl
  · rintro rfl
    rfl
  · refine ⟨observed ++ warned ++ if report.1.tests = none then [.testsOmitted .other] else [],
      ?_, ?_⟩
    · have hbefore : tests.2.events = j.events ++ observed := hobserved
      rw [hevents, hwarned, hbefore, List.append_assoc, List.append_assoc, List.append_assoc]
    · rw [List.filter_append, List.filter_append, filter_severity_eq_nil (by decide) hdebug,
        filter_severity_eq_nil (by decide) hwarn]
      split_ifs
      · simp [Event.severity, line_testsOmitted]
      · rfl

end RunResult
end LedgerCheck
