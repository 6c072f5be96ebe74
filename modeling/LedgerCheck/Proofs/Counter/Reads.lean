import LedgerCheck.Counter.Snapshot
import LedgerCheck.Proofs.Stats
import LedgerCheck.Proofs.SyncProgress

/-!
# Counters that are read more than once

A source may change between two reads, and so a value that was seen once says nothing about a later
read, unless the source is known not to decrease or not to change at all.

* `CounterSource.NeverDecreases`, `CounterSource.IsSteady` — the two kinds of sources.
* `CounterSource.Answered`, `CounterSource.AnswersAfter` — values that were read before a journal was
  left, and values that are read after it.
* **`Activity.answered_of_observe`**, **`Stats.answersAfter_of_compute`**,
  **`SyncProgress.isDrawnAfter_of_compute`** — what activity, statistics and progress say about the
  replies that they were made of.
-/

namespace LedgerCheck

/-! ## Sources -/

namespace CounterSource

/-- **Successful reads of one counter never decrease**; reads in between may fail. -/
def NeverDecreases (source : CounterSource) : Prop :=
  ∀ counter m n x y, m ≤ n → source counter m = .ok x → source counter n = .ok y → x ≤ y

/-- **Every read of one counter gets the same reply.** -/
def IsSteady (source : CounterSource) : Prop :=
  ∀ counter m n, source counter m = source counter n

/-- Some read up to the journal got the value. -/
def Answered (source : CounterSource) (counter : Counter) (value : Int) (j : Journal) : Prop :=
  ∃ n, n < j.reads.count counter ∧ source counter n = .ok value

/-- Some read after the journal gets the value. -/
def AnswersAfter (source : CounterSource) (counter : Counter) (value : Int) (j : Journal) : Prop :=
  ∃ n, j.reads.count counter ≤ n ∧ source counter n = .ok value

variable {source : CounterSource} {counter : Counter} {x y : Int} {j j' : Journal}

/-- A counter that does not decrease is read no smaller later on. -/
lemma NeverDecreases.le (h : source.NeverDecreases) (hx : source.Answered counter x j)
    (hy : source.AnswersAfter counter y j) : x ≤ y := by
  obtain ⟨m, hm, hx⟩ := hx
  obtain ⟨n, hn, hy⟩ := hy
  exact h counter m n x y (hm.le.trans hn) hx hy

/-- Any two values of a steady counter are the same. -/
lemma IsSteady.eq_of_answersAfter (h : source.IsSteady) (hx : source.AnswersAfter counter x j)
    (hy : source.AnswersAfter counter y j') : x = y := by
  obtain ⟨m, -, hx⟩ := hx
  obtain ⟨n, -, hy⟩ := hy
  rw [h counter m n, hy] at hx
  exact (Except.ok.inj hx).symm

/-- What was read before makes no difference to the answers of a steady source. -/
lemma IsSteady.answers_eq (h : source.IsSteady) (before before' : List Counter) :
    ∀ reads, source.answers before reads = source.answers before' reads := by
  intro reads
  induction reads generalizing before before' with
  | nil => rfl
  | cons c rest ih => rw [answers, answers, answer, answer, h c _ (before'.count c), ih]

end CounterSource

/-- A snapshot is a steady source. -/
lemma Snapshot.isSteady_source (s : Snapshot) : CounterSource.IsSteady s.source := fun _ _ _ => rfl

open Observing

/-! ## The activity of a run -/

namespace Activity

variable {source : CounterSource} {j : Journal}

/-- A counter that was read while the activity was observed has its reply answered by then. -/
lemma answered_of_isObserved {counter : Counter}
    (hread : counter ∈ readsAfter source j.reads)
    (h : Counter.IsObserved (some source) j.reads counter) :
    ∃ x, 0 < x ∧ source.Answered counter x ((observe (some source)).run j).2 := by
  obtain ⟨s, hs, x, hanswer, hx⟩ := h
  cases hs
  refine ⟨x, hx, j.reads.count counter, ?_, hanswer⟩
  rw [run_observe, Journal.reads_extend_counters, List.count_append]
  exact Nat.lt_add_of_pos_right (List.count_pos_iff.mpr hread)

/-- **What activity was observed has been answered** by the time the observation is over. -/
theorem answered_of_observe (source : CounterSource) (j : Journal) :
    let observed := (observe (some source)).run j
    (observed.1.blocksSynced = true → ∃ x, 0 < x ∧ source.Answered .blocks x observed.2) ∧
    (observed.1.operationsSeen = true → ∃ x, 0 < x ∧ source.Answered .operations x observed.2) ∧
    (observed.1.reconciliationsPerformed = true → ∃ x, 0 < x ∧
      (source.Answered .activeReconciliations x observed.2 ∨
        source.Answered .inactiveReconciliations x observed.2)) := by
  intro observed
  obtain ⟨hblocks, hoperations, hreconciliations⟩ := observe_iff (some source) j
  refine ⟨fun h => answered_of_isObserved (by simp [readsAfter]) (hblocks.mp h),
    fun h => answered_of_isObserved (by simp [readsAfter]) (hoperations.mp h), fun h => ?_⟩
  by_cases hactive : Counter.IsObserved (some source) j.reads .activeReconciliations
  · obtain ⟨x, hx, hanswered⟩ := answered_of_isObserved (by simp [readsAfter]) hactive
    exact ⟨x, hx, Or.inl hanswered⟩
  · have hinactive := (hreconciliations.mp h).resolve_left hactive
    have hread : Counter.inactiveReconciliations ∈ readsAfter source j.reads := by
      have hnot : ¬ (source.answer j.reads .activeReconciliations).isPositive = true := by
        rw [Answer.isPositive_iff]
        rintro ⟨x, hanswer, hx⟩
        exact hactive ⟨source, rfl, x, hanswer, hx⟩
      simp [readsAfter, hnot]
    obtain ⟨x, hx, hanswered⟩ := answered_of_isObserved hread hinactive
    exact ⟨x, hx, Or.inr hanswered⟩

/-- A counter of a steady source that was not observed has no positive value. -/
lemma le_of_not_isObserved (hsteady : source.IsSteady) {counter : Counter} {start : Journal}
    (h : ¬ Counter.IsObserved (some source) j.reads counter) {x : Int}
    (hx : source.AnswersAfter counter x start) : x ≤ 0 := by
  obtain ⟨n, -, hx⟩ := hx
  by_contra hpositive
  exact h ⟨source, rfl, x, (hsteady counter _ n).trans hx, Int.not_le.mp hpositive⟩

/-- **What activity of a steady source was not observed was not there**: the counter has no positive
value. -/
theorem le_of_observe (hsteady : source.IsSteady) (start j : Journal) :
    let observed := ((observe (some source)).run j).1
    (observed.blocksSynced = false → ∀ x, source.AnswersAfter .blocks x start → x ≤ 0) ∧
    (observed.operationsSeen = false → ∀ x, source.AnswersAfter .operations x start → x ≤ 0) ∧
    (observed.reconciliationsPerformed = false →
      (∀ x, source.AnswersAfter .activeReconciliations x start → x ≤ 0) ∧
      (∀ x, source.AnswersAfter .inactiveReconciliations x start → x ≤ 0)) := by
  intro observed
  obtain ⟨hblocks, hoperations, hreconciliations⟩ := observe_iff (some source) j
  simp only [← Bool.not_eq_true, observed, hblocks, hoperations, hreconciliations, not_or]
  exact ⟨fun h _ => le_of_not_isObserved hsteady h, fun h _ => le_of_not_isObserved hsteady h,
    fun h => ⟨fun _ => le_of_not_isObserved hsteady h.1, fun _ => le_of_not_isObserved hsteady h.2⟩⟩

end Activity

/-! ## The statistics -/

/-- A count that was read is the value of the counter. -/
lemma Answer.eq_ok_of_count? {a : Answer} {n : UInt64} (h : a.count? = some n) :
    a = .ok n.toNat := by
  cases a with
  | error e => cases h
  | ok value =>
      rw [count?] at h
      split_ifs at h with hfits
      cases h
      have hpow : Int.pow 2 64 = 2 ^ 64 := rfl
      rw [UInt64.toNat_ofNat', Except.ok.injEq]
      omega

namespace Stats

variable {source : CounterSource} {coverage : Option CoverageSource}

/-- **Every statistic is a value that the source answers** after the statistics were begun. -/
theorem answersAfter_of_compute {j : Journal} {s : Stats}
    (h : ((compute (some source) coverage).run j).1 = some s) {counter : Counter} {n : UInt64}
    (hn : s.value? counter = some n) : source.AnswersAfter counter n.toNat j := by
  rw [run_compute] at h
  have hcount := (of_ofAnswers? h).1 counter n hn
  exact ⟨j.reads.count counter, le_rfl, Answer.eq_ok_of_count? hcount⟩

/-- **The statistics of a steady source are always the same**, whatever was read before. -/
theorem steady_compute (h : source.IsSteady) (j j' : Journal) :
    ((compute (some source) coverage).run j).1 = ((compute (some source) coverage).run j').1 := by
  have hanswer : source.answer j.reads = source.answer j'.reads := funext fun c => h c _ _
  rw [run_compute, run_compute]
  simp only [readsAfter, hanswer, h.answers_eq j.reads j'.reads]

end Stats

/-! ## The progress -/

namespace SyncProgress

/-- The progress lies between nothing and the tip, and it is made of values that the source answers
after a journal. -/
def IsDrawnAfter (source : CounterSource) (start : Journal) (tip : Int64) (p : SyncProgress) :
    Prop :=
  p.tip = tip ∧ 0 < p.blocks.toInt ∧ p.blocks.toInt < tip.toInt ∧
    ∃ blocks orphans, source.AnswersAfter .blocks blocks start ∧
      source.AnswersAfter .orphans orphans start ∧ p.blocks.toInt = blocks - orphans

/-- **Progress is made of values that the source answers** after the progress was begun. -/
theorem isDrawnAfter_of_compute {source : CounterSource} {tip : Int64} {j : Journal}
    {p : SyncProgress} (h : ((compute (.ok tip) source).run j).1 = some p) :
    p.IsDrawnAfter source j tip := by
  obtain ⟨value, reads, events, hcourse, hrun⟩ := course_towards source tip j
  rw [compute, hrun] at h
  obtain ⟨b, o, t, hb, ho, -, ⟨-, hcanonical, htip, -⟩, hestimate⟩ := hcourse.eq_some_iff.mp h
  rw [IsDrawnAfter, hestimate.blocks]
  exact ⟨hestimate.tip, hcanonical, htip, b, o, ⟨_, le_rfl, hb⟩, ⟨_, le_rfl, ho⟩, rfl⟩

end SyncProgress
end LedgerCheck
