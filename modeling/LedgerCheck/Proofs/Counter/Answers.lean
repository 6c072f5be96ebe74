import LedgerCheck.Proofs.Journal

/-!
# Reads and their answers

A source may answer two reads of one counter differently, and any read may fail.  So a computation
is described by the reads that it makes itself, one after the other, and by their answers: what it
comes to is a function of these, and it notes what was wrong with them.

* `CounterSource.answer` — the answer to the next read of a counter.
* `CounterSource.answers` — reads in their order, each with its answer.
* `failures` — the events of the reads that failed.
* **`Activity.run_observe`** — observing the activity of a run, as a function of answers.
* `Activity.observe_iff` — what activity is observed: the counters that are found positive.
-/

namespace LedgerCheck

/-! ## Answers -/

/-- The answer to one read. -/
abbrev Answer := Except SourceError Int

namespace Answer

/-- A positive count was read. -/
def isPositive : Answer → Bool
  | .ok value => decide (0 < value)
  | .error _ => false

lemma isPositive_iff {a : Answer} : a.isPositive = true ↔ ∃ value, a = .ok value ∧ 0 < value := by
  cases a <;> simp [isPositive]

/-- The event of a failed read, if the read failed. -/
def failure (event : SourceError → Event) : Answer → List Event
  | .ok _ => []
  | .error e => [event e]

/-- The count that was read, if it fits 64 bits without a sign. -/
def count? : Answer → Option UInt64
  | .ok value =>
    if 0 ≤ value ∧ value < Int.pow 2 64 then some (UInt64.ofNat value.toNat) else none
  | .error _ => none

/-- What is wrong with an answer that gives no such count. -/
def complaint? (counter : Counter) : Answer → Option Event
  | .ok value =>
    if 0 ≤ value ∧ value < Int.pow 2 64 then none else some (.counterTooLarge counter value)
  | .error e => some (.counterUnavailable counter e)

lemma complaint?_eq_none_iff {a : Answer} {counter : Counter} :
    a.complaint? counter = none ↔ a.count?.isSome = true := by
  cases a with
  | error e => simp [complaint?, count?]
  | ok value =>
      rw [complaint?, count?]
      split_ifs <;> simp

end Answer

namespace CounterSource

/-- The answer to the next read of a counter, after given reads. -/
def answer (source : CounterSource) (before : List Counter) (counter : Counter) : Answer :=
  source counter (before.count counter)

/-- **Reads in their order, each with its answer**, after given reads. -/
def answers (source : CounterSource) (before : List Counter) :
    List Counter → List (Counter × Answer)
  | [] => []
  | counter :: rest =>
    (counter, source.answer before counter) :: answers source (before ++ [counter]) rest

variable {source : CounterSource} {before : List Counter} {counter : Counter}

/-- Reads of other counters make no difference to an answer. -/
lemma answer_append_of_not_mem {reads : List Counter} (h : counter ∉ reads) :
    source.answer (before ++ reads) counter = source.answer before counter := by
  rw [answer, answer, List.count_append, List.count_eq_zero_of_not_mem h, Nat.add_zero]

/-- Where no counter is read twice, the reads do not affect each other's answers. -/
lemma answers_eq_map {reads : List Counter} (h : reads.Nodup) :
    source.answers before reads = reads.map fun c => (c, source.answer before c) := by
  induction reads generalizing before with
  | nil => rfl
  | cons c rest ih =>
      obtain ⟨hc, hrest⟩ := List.nodup_cons.mp h
      rw [answers, ih hrest, List.map_cons]
      refine congrArg _ (List.map_congr_left fun c' hc' => ?_)
      have hne : c' ∉ [c] := by
        rw [List.mem_singleton]
        rintro rfl
        exact hc hc'
      rw [answer_append_of_not_mem hne]

end CounterSource

/-- The events of the failed reads among answered ones, in order. -/
def failures (event : Counter → SourceError → Event) (answered : List (Counter × Answer)) :
    List Event :=
  answered.flatMap fun read => read.2.failure (event read.1)

lemma exists_of_mem_failures {event : Counter → SourceError → Event}
    {answered : List (Counter × Answer)} {e : Event} (h : e ∈ failures event answered) :
    ∃ counter reason, e = event counter reason := by
  obtain ⟨⟨counter, answer⟩, -, he⟩ := List.mem_flatMap.mp h
  cases answer with
  | ok value => cases he
  | error reason => exact ⟨counter, reason, List.mem_singleton.mp he⟩

/-! ## Single reads -/

namespace Observing

variable (source : CounterSource) (counter : Counter) (j : Journal)

lemma run_read :
    (read source counter).run j
      = (source.answer j.reads counter, j.extend [.counter counter] []) := by
  rw [Journal.extend, List.append_nil]
  rfl

lemma run_consult (coverage : CoverageSource) :
    (consult coverage).run j = (coverage, j.extend [.coverage] []) := by
  rw [Journal.extend, List.append_nil]
  rfl

/-- A read whose failure is a warning. -/
lemma run_readOrWarn :
    (readOrWarn source counter).run j
      = ((source.answer j.reads counter).toOption, j.extend [.counter counter]
          ((source.answer j.reads counter).failure (.counterUnavailable counter))) := by
  rw [readOrWarn, run_bind, run_read]
  cases source.answer j.reads counter with
  | ok value => rfl
  | error e => simp only [run_bind, run_note, Journal.extend_extend]; rfl

end Observing

/-- **A counter is observed** if its next read, after given ones, gets a positive count.  Without a
source no counter is. -/
def Counter.IsObserved (source : Option CounterSource) (before : List Counter)
    (counter : Counter) : Prop :=
  ∃ s, source = some s ∧ ∃ value, s.answer before counter = .ok value ∧ 0 < value

open Observing

/-! ## The activity of a run -/

namespace Activity

variable (source : CounterSource) (j : Journal)

lemma run_isPositive (counter : Counter) :
    (isPositive source counter).run j
      = ((source.answer j.reads counter).isPositive, j.extend [.counter counter]
          ((source.answer j.reads counter).failure (.counterNotObserved counter))) := by
  rw [isPositive, run_bind, run_read]
  cases source.answer j.reads counter with
  | ok value => rfl
  | error e => simp only [run_bind, run_note, Journal.extend_extend]; rfl

/-- The counters that are read to observe the activity.  Inactive reconciliations are read only if
the active ones were not found positive. -/
def readsAfter (source : CounterSource) (before : List Counter) : List Counter :=
  [.blocks, .operations, .activeReconciliations] ++
    if (source.answer before .activeReconciliations).isPositive then []
    else [.inactiveReconciliations]

/-- **The activity that answers show**: a positive count of blocks, of operations, and of
reconciliations of either kind. -/
def ofAnswers (answered : List (Counter × Answer)) : Activity where
  blocksSynced := answered.any fun read => read.1 = .blocks && read.2.isPositive
  operationsSeen := answered.any fun read => read.1 = .operations && read.2.isPositive
  reconciliationsPerformed := answered.any fun read =>
    (read.1 = .activeReconciliations || read.1 = .inactiveReconciliations) && read.2.isPositive

lemma nodup_readsAfter (before : List Counter) : (readsAfter source before).Nodup := by
  rw [readsAfter]
  split_ifs <;> decide

/-- The time is no matter of the activity. -/
lemma timeElapsed_notMem_readsAfter (before : List Counter) :
    Counter.timeElapsed ∉ readsAfter source before := by
  rw [readsAfter]
  split_ifs <;> decide

lemma run_reconciled :
    let active := source.answer j.reads .activeReconciliations
    let inactive := source.answer j.reads .inactiveReconciliations
    (reconciled source).run j
      = if active.isPositive then
          (true, j.extend [.counter .activeReconciliations]
            (active.failure (.counterNotObserved .activeReconciliations)))
        else
          (inactive.isPositive,
            j.extend [.counter .activeReconciliations, .counter .inactiveReconciliations]
              (active.failure (.counterNotObserved .activeReconciliations) ++
                inactive.failure (.counterNotObserved .inactiveReconciliations))) := by
  intro active inactive
  rw [reconciled, run_bind, run_isPositive]
  cases hactive : active.isPositive with
  | true => rfl
  | false =>
      simp only [Bool.false_eq_true, if_false]
      rw [run_isPositive, Journal.reads_extend, CounterSource.answer_append_of_not_mem (by decide),
        Journal.extend_extend]
      rfl

/-- **Observing the activity of a run** reads the counters one after the other, takes what their
answers show, and notes each read that failed. -/
theorem run_observe :
    let answered := source.answers j.reads (readsAfter source j.reads)
    (observe (some source)).run j
      = (ofAnswers answered, j.extend ((readsAfter source j.reads).map .counter)
          (failures .counterNotObserved answered)) := by
  intro answered
  have hanswered : answered = (readsAfter source j.reads).map fun c =>
      (c, source.answer j.reads c) := CounterSource.answers_eq_map (nodup_readsAfter source _)
  rw [hanswered, readsAfter, observe]
  simp (disch := decide) only [run_bind, run_isPositive, run_reconciled, run_pure,
    Journal.reads_extend, Journal.extend_extend, CounterSource.answer_append_of_not_mem]
  cases hactive : (source.answer j.reads .activeReconciliations).isPositive with
  | true => simp [ofAnswers, failures, hactive]
  | false => simp [ofAnswers, failures, hactive]

/-- **Observing the activity of a run notes debugging events only**: a counter that cannot be read
is not worth a warning here. -/
theorem notes_observe (source : Option CounterSource) :
    Notes (fun e => e.severity = .debug) (observe source) := by
  cases source with
  | none => exact notes_pure _
  | some source =>
      refine notes_of_run fun j => ⟨_, _, by rw [run_observe], fun e he => ?_⟩
      obtain ⟨counter, reason, rfl⟩ := exists_of_mem_failures he
      rfl

/-- What the replies of a source show. -/
lemma observe_iff (source : Option CounterSource) (j : Journal) :
    let activity := ((observe source).run j).1
    let observed := Counter.IsObserved source j.reads
    (activity.blocksSynced = true ↔ observed .blocks) ∧
    (activity.operationsSeen = true ↔ observed .operations) ∧
    (activity.reconciliationsPerformed = true ↔
      observed .activeReconciliations ∨ observed .inactiveReconciliations) := by
  cases source with
  | none => simp [observe, Counter.IsObserved]
  | some s =>
      intro activity observed
      have hobserved (c : Counter) : observed c ↔ (s.answer j.reads c).isPositive = true := by
        simp only [observed, Counter.IsObserved, Option.some.injEq, exists_eq_left',
          Answer.isPositive_iff]
      have hactivity : activity
          = ofAnswers ((readsAfter s j.reads).map fun c => (c, s.answer j.reads c)) := by
        rw [← CounterSource.answers_eq_map (nodup_readsAfter s j.reads)]
        simp only [activity, run_observe]
      simp only [hobserved, hactivity, ofAnswers, readsAfter]
      cases hactive : (s.answer j.reads .activeReconciliations).isPositive with
      | true => simp [hactive]
      | false => simp [hactive]

end Activity
end LedgerCheck
