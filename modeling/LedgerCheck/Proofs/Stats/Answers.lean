import LedgerCheck.Proofs.Counter.Answers

/-!
# Statistics as a function of answers

The counters of the statistics are read in a fixed order until an answer is no count, and nothing is
asked after that; the coverage is asked for after all of them.  So the statistics are a function of the
answers to the reads that were made, and what is noted is the first thing that was wrong.

* `Stats.readsAfter` — the counters that are read; `Stats.coverageQuery` — what is asked after them.
* `Stats.ofAnswers?` — the statistics that answers and a coverage give, if they do.
* `Stats.ReadAsNeeded` — counters that are read in order, up to the first answer that is no count.
* `Stats.Collects` — a computation reads counts and goes on with all of them; `collects_andThen` adds
  one more read in front.
* **`Stats.run_compute`** — collecting the statistics: the value, the queries and the events.
-/

namespace LedgerCheck
namespace Stats

open Observing

/-! ## The function -/

/-- The counters that statistics are read from, in order. -/
def counters : List Counter :=
  [.blocks, .orphans, .transactions, .operations, .activeReconciliations, .inactiveReconciliations]

/-- The counters that are read to collect the statistics: all of them, or those up to the first one
whose answer is no count that fits 64 bits. -/
def readsAfter (source : CounterSource) (before : List Counter) : List Counter :=
  counters.take (counters.findIdx (fun c => (source.answer before c).count?.isNone) + 1)

/-- What is asked after the counters: the coverage, if there is a source for it and every counter was
answered with a count that fits 64 bits. -/
def coverageQuery (answer : Counter → Answer) (coverage : Option CoverageSource) : List Query :=
  if coverage.isSome ∧ ∀ c ∈ counters, (answer c).count?.isSome then [.coverage] else []

lemma coverageQuery_of_counts {answer : Counter → Answer}
    (h : ∀ c ∈ counters, (answer c).count?.isSome = true) (coverage : Option CoverageSource) :
    coverageQuery answer coverage = if coverage.isSome then [.coverage] else [] := by
  cases coverage with
  | none => exact if_neg fun hcoverage => Bool.false_ne_true hcoverage.1
  | some reply => exact if_pos ⟨rfl, h⟩

/-- The coverage is not asked for if some counter gave no count. -/
lemma coverageQuery_eq_nil {answer : Counter → Answer}
    (h : ¬ ∀ c ∈ counters, (answer c).count?.isSome = true) (coverage : Option CoverageSource) :
    coverageQuery answer coverage = [] :=
  if_neg fun hcounts => h hcounts.2

/-- The statistics of a count for each counter. -/
def ofCounts? : List UInt64 → Binary64 → Option Stats
  | [blocks, orphans, transactions, operations, active, inactive], coverage =>
    some ⟨blocks, orphans, transactions, operations, active, inactive, coverage⟩
  | _, _ => none

/-- The coverage that statistics take from a source. -/
def share? : Option CoverageSource → Option Binary64
  | none => some .zero
  | some (.ok coverage) => if coverage.inUnitInterval then some coverage else none
  | some (.error _) => none

/-- What is wrong with a source that gives no coverage. -/
def shareComplaint? : Option CoverageSource → Option Event
  | none => none
  | some (.ok coverage) =>
    if coverage.inUnitInterval then none else some (.coverageOutOfRange coverage)
  | some (.error e) => some (.coverageUnavailable e)

/-- **The statistics that answers and a coverage give.** -/
def ofAnswers? (coverage : Option CoverageSource) (answered : List (Counter × Answer)) :
    Option Stats := do
  let counts ← answered.mapM fun read => read.2.count?
  ofCounts? counts (← share? coverage)

/-- What is wrong where answers and a coverage give no statistics: the first thing that is. -/
def complaint? (coverage : Option CoverageSource) (answered : List (Counter × Answer)) :
    Option Event :=
  (answered.findSome? fun read => read.2.complaint? read.1).or (shareComplaint? coverage)

/-! ## Single reads -/

variable (source : CounterSource) (j : Journal)

lemma run_readUInt64 (counter : Counter) :
    (readUInt64 source counter).run j
      = ((source.answer j.reads counter).count?, j.extend [.counter counter]
          ((source.answer j.reads counter).complaint? counter).toList) := by
  rw [readUInt64, run_bind, run_readOrWarn]
  cases source.answer j.reads counter with
  | error e => rfl
  | ok value =>
      simp only [Except.toOption, Answer.failure, Answer.count?, Answer.complaint?]
      split_ifs with hfits
      · rfl
      · rw [run_bind, run_note, Journal.extend_extend]
        rfl

lemma run_readCoverage (coverage : Option CoverageSource) :
    (readCoverage coverage).run j
      = (share? coverage, j.extend (if coverage.isSome then [.coverage] else [])
          (shareComplaint? coverage).toList) := by
  rcases coverage with _ | e | c
  · rw [shareComplaint?, Option.isSome_none, if_neg Bool.false_ne_true, Option.toList_none,
      Journal.extend_nil]
    rfl
  · rw [readCoverage, run_bind, run_consult, run_bind, run_note, Journal.extend_extend]
    rfl
  · rw [readCoverage, run_bind, run_consult, share?, shareComplaint?, Option.isSome_some, if_pos rfl]
    simp only
    split_ifs with hunit
    · rfl
    · rw [run_bind, run_note, Journal.extend_extend]
      rfl

/-! ## One read after the other -/

/-- **The computation reads counts of the counters**, in order, up to the first counter that gives
none, and goes on with all of them.  The answers are given for all counters at once, as reads of one
counter make no difference to another one. -/
def Collects (source : CounterSource) (order : List Counter) {α : Type}
    (next : List UInt64 → Observing (Option α)) (o : Observing (Option α)) : Prop :=
  ∀ (j : Journal) (answer : Counter → Answer),
    (∀ c ∈ order, source.answer j.reads c = answer c) →
      o.run j =
        match order.mapM fun c => (answer c).count? with
        | some counts => (next counts).run (j.extend (order.map .counter) [])
        | none =>
          (none, j.extend
            ((order.take (order.findIdx (fun c => (answer c).count?.isNone) + 1)).map .counter)
            (order.findSome? fun c => (answer c).complaint? c).toList)

lemma collects_nil {α : Type} (next : List UInt64 → Observing (Option α)) :
    Collects source [] next (next []) := by
  intro j answer _
  rw [List.map_nil, Journal.extend_nil]
  rfl

/-- One more counter is read first. -/
lemma collects_andThen {α : Type} {order : List Counter} {counter : Counter}
    {next : List UInt64 → Observing (Option α)} {rest : UInt64 → Observing (Option α)}
    (hnew : counter ∉ order)
    (hrest : ∀ n, Collects source order (fun counts => next (n :: counts)) (rest n)) :
    Collects source (counter :: order) next (andThen (readUInt64 source counter) rest) := by
  intro j answer hanswer
  obtain ⟨hhead, htail⟩ := List.forall_mem_cons.mp hanswer
  rw [andThen, run_bind, run_readUInt64, hhead]
  cases hcount : (answer counter).count? with
  | none =>
      obtain ⟨e, hcomplaint⟩ : ∃ e, (answer counter).complaint? counter = some e := by
        rw [← Option.isSome_iff_exists, Option.isSome_iff_ne_none, ne_eq,
          Answer.complaint?_eq_none_iff, hcount]
        simp
      simp only [List.mapM_cons, hcount, hcomplaint, List.findIdx_cons, List.findSome?_cons,
        Option.bind_eq_bind, Option.bind_none, Option.isNone_none, cond_true, List.take_succ_cons,
        List.take_zero]
      rfl
  | some n =>
      have hcomplaint : (answer counter).complaint? counter = none := by
        rw [Answer.complaint?_eq_none_iff, hcount, Option.isSome_some]
      have hsame : ∀ c ∈ order,
          source.answer (j.extend [.counter counter] []).reads c = answer c := by
        intro c hc
        have hother : c ∉ [counter] := by
          rw [List.mem_singleton]
          rintro rfl
          exact hnew hc
        rw [Journal.reads_extend]
        exact (CounterSource.answer_append_of_not_mem hother).trans (htail c hc)
      have hnext := hrest n (j.extend [.counter counter] []) answer hsame
      simp only [List.mapM_cons, hcount, hcomplaint, List.findIdx_cons, List.findSome?_cons,
        Option.bind_eq_bind, Option.bind_some, Option.isNone_some, cond_false, List.take_succ_cons,
        Option.toList_none]
      rw [hnext]
      cases order.mapM fun c => (answer c).count? with
      | none => simp
      | some counts => simp

lemma collects_ofSource (coverage : Option CoverageSource) :
    Collects source counters
      (fun counts => andThen (readCoverage coverage) fun share => pure (ofCounts? counts share))
      (ofSource source coverage) := by
  refine collects_andThen source (by decide) fun blocks => ?_
  refine collects_andThen source (by decide) fun orphans => ?_
  refine collects_andThen source (by decide) fun transactions => ?_
  refine collects_andThen source (by decide) fun operations => ?_
  refine collects_andThen source (by decide) fun active => ?_
  refine collects_andThen source (by decide) fun inactive => ?_
  exact collects_nil source _

/-! ## All reads -/

section Prefix

variable {α β γ : Type} {f : α → Option β}

/-- Values are collected just as well up to the first element that has none. -/
lemma mapM_take_findIdx (xs : List α) :
    (xs.take (xs.findIdx (fun a => (f a).isNone) + 1)).mapM f = xs.mapM f := by
  induction xs with
  | nil => rfl
  | cons a xs ih =>
      rw [List.findIdx_cons]
      cases ha : f a with
      | none => simp [ha]
      | some b =>
          rw [Option.isNone_some, cond_false, List.take_succ_cons, List.mapM_cons, List.mapM_cons, ih]

/-- Values are collected exactly if every element has one. -/
lemma isSome_mapM_iff {xs : List α} :
    (xs.mapM f).isSome = true ↔ ∀ a ∈ xs, (f a).isSome = true := by
  induction xs with
  | nil => simp
  | cons a xs ih =>
      rw [List.forall_mem_cons, ← ih, List.mapM_cons]
      cases f a with
      | none => simp
      | some b => cases xs.mapM f <;> simp

/-- Every element but the last one has a value, and the last one has none unless all elements were
taken. -/
lemma take_findIdx_cases (xs : List α) :
    let taken := xs.take (xs.findIdx (fun a => (f a).isNone) + 1)
    (∀ a ∈ taken.dropLast, (f a).isSome = true) ∧
      (taken = xs ∨ ∃ a, taken.getLast? = some a ∧ f a = none) := by
  induction xs with
  | nil => exact ⟨by simp, Or.inl rfl⟩
  | cons a xs ih =>
      rw [List.findIdx_cons]
      cases ha : f a with
      | none => exact ⟨by simp, Or.inr ⟨a, by simp, ha⟩⟩
      | some b =>
          rw [Option.isNone_some, cond_false, List.take_succ_cons]
          generalize xs.take _ = taken at ih
          cases taken with
          | nil =>
              have hxs : xs = [] := by simpa using ih.2
              exact ⟨by simp, Or.inl (by rw [hxs])⟩
          | cons a' taken =>
              obtain ⟨hvalues, hend⟩ := ih
              intro all
              rw [show all.dropLast = a :: (a' :: taken).dropLast from rfl, List.forall_mem_cons]
              exact ⟨⟨by rw [ha]; rfl, hvalues⟩, hend.imp (congrArg (a :: ·)) id⟩

section Complaint

variable {g : α → Option γ} (h : ∀ a, g a = none ↔ (f a).isSome = true)
include h

lemma findSome?_take_findIdx (xs : List α) :
    (xs.take (xs.findIdx (fun a => (f a).isNone) + 1)).findSome? g = xs.findSome? g := by
  induction xs with
  | nil => rfl
  | cons a xs ih =>
      rw [List.findIdx_cons]
      cases ha : f a with
      | none =>
          obtain ⟨c, hc⟩ := Option.ne_none_iff_exists'.mp ((h a).not.mpr (by simp [ha]))
          simp [hc]
      | some b =>
          rw [Option.isNone_some, cond_false, List.take_succ_cons, List.findSome?_cons,
            List.findSome?_cons, ih]

/-- There is nothing to complain of exactly if every element has a value. -/
lemma findSome?_eq_none_iff (xs : List α) :
    xs.findSome? g = none ↔ (xs.mapM f).isSome = true := by
  rw [List.findSome?_eq_none_iff, isSome_mapM_iff]
  exact forall₂_congr fun a _ => h a

end Complaint

lemma findIdx_of_mapM {xs : List α} {bs : List β} (h : xs.mapM f = some bs) :
    xs.findIdx (fun a => (f a).isNone) = xs.length := by
  rw [List.findIdx_eq_length]
  induction xs generalizing bs with
  | nil => simp
  | cons a xs ih =>
      rw [List.mapM_cons] at h
      obtain ⟨b, hb, h⟩ := Option.bind_eq_some_iff.mp h
      obtain ⟨bs', hbs', -⟩ := Option.bind_eq_some_iff.mp h
      rw [List.forall_mem_cons, hb]
      exact ⟨rfl, ih hbs'⟩

end Prefix

lemma nodup_readsAfter (before : List Counter) : (readsAfter source before).Nodup :=
  (List.take_sublist _ _).nodup (by decide)

/-- **The counters were read as far as needed**: in their order, past answers that are counts only, and
up to an answer that is none or to the last counter. -/
structure ReadAsNeeded (answer : Counter → Answer) (reads : List Counter) : Prop where
  inOrder : reads <+: counters
  nonempty : reads ≠ []
  counts : ∀ c ∈ reads.dropLast, (answer c).count?.isSome = true
  ends : reads = counters ∨ ∃ c, reads.getLast? = some c ∧ (answer c).count? = none

lemma readAsNeeded_readsAfter (before : List Counter) :
    ReadAsNeeded (source.answer before) (readsAfter source before) where
  inOrder := List.take_prefix _ _
  nonempty := by simp [readsAfter, counters]
  counts := (take_findIdx_cases counters).1
  ends := (take_findIdx_cases counters).2

/-- The time is no matter of the statistics. -/
lemma ReadAsNeeded.timeElapsed_notMem {answer : Counter → Answer} {reads : List Counter}
    (h : ReadAsNeeded answer reads) : Counter.timeElapsed ∉ reads := by
  intro hmem
  have hcounters := h.inOrder.subset hmem
  revert hcounters
  decide

/-- Counts are collected from the answers just as well as from all counters. -/
lemma mapM_answers (before : List Counter) :
    ((source.answers before (readsAfter source before)).mapM fun read => read.2.count?)
      = counters.mapM fun c => (source.answer before c).count? := by
  rw [CounterSource.answers_eq_map (nodup_readsAfter source _), List.mapM_map]
  exact mapM_take_findIdx counters

/-- What is wrong first is found among the answers just as well as among all counters. -/
lemma findSome?_answers (before : List Counter) :
    ((source.answers before (readsAfter source before)).findSome? fun read =>
        read.2.complaint? read.1)
      = counters.findSome? fun c => (source.answer before c).complaint? c := by
  rw [CounterSource.answers_eq_map (nodup_readsAfter source _), List.findSome?_map]
  exact findSome?_take_findIdx (fun _ => Answer.complaint?_eq_none_iff) counters

/-- **Collecting the statistics** reads the counters one after the other, as long as their answers
are counts, and asks for the coverage after all of them; it takes what the answers give, and notes
the first thing that is wrong. -/
theorem run_compute (coverage : Option CoverageSource) :
    let answered := source.answers j.reads (readsAfter source j.reads)
    (compute (some source) coverage).run j
      = (ofAnswers? coverage answered,
          j.extend ((readsAfter source j.reads).map .counter
              ++ coverageQuery (source.answer j.reads) coverage)
            (complaint? coverage answered).toList) := by
  intro answered
  have hcomplains : ∀ c, (source.answer j.reads c).complaint? c = none ↔
      (source.answer j.reads c).count?.isSome = true := fun _ => Answer.complaint?_eq_none_iff
  have hnone := findSome?_eq_none_iff hcomplains counters
  rw [compute, collects_ofSource source coverage j _ fun _ _ => rfl, ofAnswers?, complaint?,
    mapM_answers, findSome?_answers]
  cases hall : counters.mapM fun c => (source.answer j.reads c).count? with
  | none =>
      obtain ⟨e, he⟩ := Option.ne_none_iff_exists'.mp (hnone.not.mpr (by simp [hall]))
      have hcounts : ¬ ∀ c ∈ counters, (source.answer j.reads c).count?.isSome = true := by
        rw [← isSome_mapM_iff, hall]
        exact Bool.false_ne_true
      rw [coverageQuery_eq_nil hcounts, List.append_nil]
      simp only [he, Option.some_or]
      rfl
  | some counts =>
      have hreads : readsAfter source j.reads = counters := by
        rw [readsAfter, findIdx_of_mapM hall]
        exact List.take_of_length_le (Nat.le_succ _)
      have hcounts := isSome_mapM_iff.mp (Option.isSome_of_eq_some hall)
      rw [hnone.mpr (by simp [hall]), hreads, coverageQuery_of_counts hcounts]
      simp only [andThen, run_bind, run_readCoverage, Journal.extend_extend]
      cases share? coverage with
      | none => rfl
      | some share => rfl

/-! ## The statistics and the events -/

/-- The statistic that is read from a counter; the time is none. -/
def value? (s : Stats) : Counter → Option UInt64
  | .blocks => some s.blocks
  | .orphans => some s.orphans
  | .transactions => some s.transactions
  | .operations => some s.operations
  | .activeReconciliations => some s.activeReconciliations
  | .inactiveReconciliations => some s.inactiveReconciliations
  | .timeElapsed => none

variable {source} {coverage : Option CoverageSource}

/-- **Every statistic is the count that its counter was answered with.** -/
lemma of_ofAnswers? {before : List Counter} {s : Stats}
    (h : ofAnswers? coverage (source.answers before (readsAfter source before)) = some s) :
    (∀ c n, s.value? c = some n → (source.answer before c).count? = some n) ∧
      share? coverage = some s.reconciliationCoverage := by
  rw [ofAnswers?, mapM_answers] at h
  simp only [counters, List.mapM_cons, List.mapM_nil, Option.bind_eq_bind,
    Option.bind_eq_some_iff, Option.pure_def, Option.some.injEq] at h
  obtain ⟨counts, hcounts, share, hshare, h⟩ := h
  obtain ⟨blocks, hblocks, _, ⟨orphans, horphans, _, ⟨transactions, htransactions, _, ⟨operations,
    hoperations, _, ⟨active, hactive, _, ⟨inactive, hinactive, _, rfl, rfl⟩, rfl⟩, rfl⟩, rfl⟩, rfl⟩,
    rfl⟩ := hcounts
  cases h
  exact ⟨fun c n hn => by cases c <;> cases hn <;> assumption, hshare⟩

/-- What is wrong with the answers is a warning, and not about the tip. -/
lemma of_mem_complaint? {coverage : Option CoverageSource} {answered : List (Counter × Answer)}
    {e : Event} (h : e ∈ (complaint? coverage answered).toList) : e.severity = .warn ∧ e.IsLocal := by
  rw [Option.mem_toList, complaint?, Option.or_eq_some_iff] at h
  rcases h with hread | ⟨-, hshare⟩
  · obtain ⟨⟨counter, answer⟩, -, hcomplaint⟩ := List.exists_of_findSome?_eq_some hread
    cases answer with
    | error reason =>
        cases hcomplaint
        exact ⟨rfl, fun _ => Event.noConfusion⟩
    | ok value =>
        simp only [Answer.complaint?] at hcomplaint
        split_ifs at hcomplaint
        cases hcomplaint
        exact ⟨rfl, fun _ => Event.noConfusion⟩
  · rcases coverage with _ | reason | share
    · cases hshare
    · cases hshare
      exact ⟨rfl, fun _ => Event.noConfusion⟩
    · simp only [shareComplaint?] at hshare
      split_ifs at hshare
      cases hshare
      exact ⟨rfl, fun _ => Event.noConfusion⟩

/-- Collecting the statistics notes nothing about the tip. -/
theorem notes_compute_local (source : CounterSource) (coverage : Option CoverageSource) :
    Notes (fun e => e.severity = .warn ∧ e.IsLocal) (compute (some source) coverage) :=
  notes_of_run fun j => ⟨_, _, by rw [run_compute], fun _ he => of_mem_complaint? he⟩

/-- **Collecting the statistics notes warnings only.** -/
theorem notes_compute (source : Option CounterSource) (coverage : Option CoverageSource) :
    Notes (fun e => e.severity = .warn) (compute source coverage) := by
  cases source with
  | none => exact notes_pure _
  | some source => exact notes_of_run fun j =>
      ⟨_, _, by rw [run_compute], fun _ he => (of_mem_complaint? he).1⟩

end Stats
end LedgerCheck
