import LedgerCheck.Proofs.Binary64.Order
import LedgerCheck.Proofs.Counter.Reads

/-!
# Statistics are all or nothing

Statistics are collected from six counters and a coverage, and each of the seven can be missing or out
of range.  The first one that is ends the collection: nothing is asked after it, and one warning says
which one it was.

* `Answer.IsCount`, `CoverageSource.IsShare` — what may become a part of statistics.
* `Stats.FirstFault` — the event that blames the first fault among answers and coverage.
* `Stats.ofAnswers?_eq_some_iff` — the statistics that answers and a coverage give.
* `Stats.firstFault_of_complaint?` — what is complained of is the first fault.
* **`Stats.compute_all_or_nothing`** — when there are statistics, which ones, and what is warned of.
-/

namespace LedgerCheck

open Observing

/-! ## Parts of statistics -/

/-- **A count that fits 64 bits without a sign was read.** -/
def Answer.IsCount (a : Answer) : Prop := ∃ value, a = .ok value ∧ 0 ≤ value ∧ value < 2 ^ 64

/-- **The source replies with a share**, a number between zero and one; no infinity is one, nor is a
NaN. -/
def CoverageSource.IsShare (reply : CoverageSource) : Prop :=
  ∃ share, reply = .ok share ∧ share.isFinite = true ∧ 0 ≤ share.toRat ∧ share.toRat ≤ 1

namespace Answer

variable {a : Answer}

lemma count?_eq_some_iff {n : UInt64} : a.count? = some n ↔ a = .ok n.toNat := by
  refine ⟨eq_ok_of_count?, ?_⟩
  rintro rfl
  have hpow : Int.pow 2 64 = 2 ^ 64 := rfl
  have hfits : 0 ≤ (n.toNat : Int) ∧ (n.toNat : Int) < Int.pow 2 64 := by
    rw [hpow]
    exact ⟨Int.natCast_nonneg _, by exact_mod_cast n.toNat_lt⟩
  rw [count?, if_pos hfits, Int.toNat_natCast, UInt64.ofNat_toNat]

lemma isSome_count?_iff : a.count?.isSome = true ↔ a.IsCount := by
  have hpow : Int.pow 2 64 = 2 ^ 64 := rfl
  cases a with
  | error e => simp [count?, IsCount]
  | ok value =>
      rw [count?, hpow]
      split_ifs with hfits <;> simpa [IsCount] using hfits

/-- There is something to complain of exactly if the answer is no count. -/
lemma complaint?_eq_none_iff_isCount {counter : Counter} :
    a.complaint? counter = none ↔ a.IsCount :=
  complaint?_eq_none_iff.trans isSome_count?_iff

end Answer

lemma CoverageSource.isShare_ok_iff {share : Binary64} :
    IsShare (.ok share) ↔ share.inUnitInterval = true := by
  simp [IsShare, Binary64.inUnitInterval_iff]

lemma CoverageSource.not_isShare_error (e : SourceError) : ¬ IsShare (.error e) := by
  rintro ⟨share, h, -⟩
  cases h

namespace Stats

variable {source : CounterSource} {coverage : Option CoverageSource} {before : List Counter}

/-! ## The coverage -/

lemma shareComplaint?_eq_none_iff :
    shareComplaint? coverage = none ↔ ∀ reply ∈ coverage, reply.IsShare := by
  rcases coverage with _ | e | share
  · simp [shareComplaint?]
  · simp [shareComplaint?, CoverageSource.not_isShare_error]
  · rw [shareComplaint?]
    split_ifs with hunit <;> simp [CoverageSource.isShare_ok_iff, hunit]

lemma isSome_share?_iff : (share? coverage).isSome = true ↔ ∀ reply ∈ coverage, reply.IsShare := by
  rw [← shareComplaint?_eq_none_iff]
  rcases coverage with _ | e | share
  · simp [share?, shareComplaint?]
  · simp [share?, shareComplaint?]
  · rw [share?, shareComplaint?]
    split_ifs <;> simp

/-- The coverage that statistics take is the one that the source replies with. -/
lemma share?_eq_some_iff {share : Binary64} : share? coverage = some share ↔
    (coverage = none ∧ share = .zero) ∨
      (coverage = some (.ok share) ∧ CoverageSource.IsShare (.ok share)) := by
  rcases coverage with _ | e | c
  · simp [share?, eq_comm]
  · simp [share?]
  · rw [share?, CoverageSource.isShare_ok_iff]
    split_ifs with hunit
    · simp only [Option.some.injEq, Except.ok.injEq, false_and, false_or]
      exact ⟨fun h => ⟨h, h ▸ hunit⟩, fun h => h.1⟩
    · simp only [false_and, false_or, Option.some.injEq, Except.ok.injEq, false_iff]
      rintro ⟨rfl, h⟩
      exact hunit h

/-! ## The statistics -/

/-- **The statistics that answers and a coverage give** hold the count of each counter. -/
lemma ofAnswers?_eq_some_iff {s : Stats} :
    ofAnswers? coverage (source.answers before (readsAfter source before)) = some s ↔
      (∀ c n, s.value? c = some n → source.answer before c = .ok n.toNat) ∧
        share? coverage = some s.reconciliationCoverage := by
  simp only [← Answer.count?_eq_some_iff]
  refine ⟨of_ofAnswers?, ?_⟩
  rintro ⟨hcounts, hshare⟩
  rw [ofAnswers?, mapM_answers, hshare]
  simp only [counters, List.mapM_cons, List.mapM_nil, hcounts .blocks _ rfl, hcounts .orphans _ rfl,
    hcounts .transactions _ rfl, hcounts .operations _ rfl, hcounts .activeReconciliations _ rfl,
    hcounts .inactiveReconciliations _ rfl]
  rfl

/-- There are statistics if nothing is missing. -/
lemma isSome_ofAnswers?_iff :
    (ofAnswers? coverage (source.answers before (readsAfter source before))).isSome = true ↔
      (∀ c ∈ counters, (source.answer before c).IsCount) ∧ ∀ reply ∈ coverage, reply.IsShare := by
  rw [Option.isSome_iff_exists]
  constructor
  · rintro ⟨s, hs⟩
    obtain ⟨hcounts, hshare⟩ := of_ofAnswers? hs
    refine ⟨fun c hc => ?_, isSome_share?_iff.mp (Option.isSome_of_eq_some hshare)⟩
    obtain ⟨n, hn⟩ : ∃ n, s.value? c = some n := by
      cases c <;> first | exact ⟨_, rfl⟩ | exact absurd hc (by decide)
    exact Answer.isSome_count?_iff.mp (Option.isSome_of_eq_some (hcounts c n hn))
  · rintro ⟨hcounts, hshare⟩
    obtain ⟨share, hshare⟩ := Option.isSome_iff_exists.mp (isSome_share?_iff.mpr hshare)
    simp only [← Answer.isSome_count?_iff, Option.isSome_iff_exists, counters,
      List.forall_mem_cons] at hcounts
    obtain ⟨⟨blocks, hblocks⟩, ⟨orphans, horphans⟩, ⟨transactions, htransactions⟩,
      ⟨operations, hoperations⟩, ⟨active, hactive⟩, ⟨inactive, hinactive⟩, -⟩ := hcounts
    refine ⟨⟨blocks, orphans, transactions, operations, active, inactive, share⟩,
      ofAnswers?_eq_some_iff.mpr ⟨fun c n hn => ?_, hshare⟩⟩
    rw [← Answer.count?_eq_some_iff]
    cases c <;> cases hn <;> assumption

/-! ## The first fault -/

/-- **The event that blames the first fault** among the answers to the counters, which are taken in
their order, and the coverage, which comes after all of them. -/
inductive FirstFault (answer : Counter → Answer) (coverage : Option CoverageSource) : Event → Prop
  | unread {first last : List Counter} {c : Counter} {e : SourceError}
      (horder : counters = first ++ c :: last) (hcounts : ∀ b ∈ first, (answer b).IsCount)
      (hfault : answer c = .error e) : FirstFault answer coverage (.counterUnavailable c e)
  | tooLarge {first last : List Counter} {c : Counter} {value : Int}
      (horder : counters = first ++ c :: last) (hcounts : ∀ b ∈ first, (answer b).IsCount)
      (hanswer : answer c = .ok value) (hfault : ¬ (0 ≤ value ∧ value < 2 ^ 64)) :
      FirstFault answer coverage (.counterTooLarge c value)
  | coverageUnread {e : SourceError} (hcounts : ∀ c ∈ counters, (answer c).IsCount)
      (hfault : coverage = some (.error e)) : FirstFault answer coverage (.coverageUnavailable e)
  | noShare {share : Binary64} (hcounts : ∀ c ∈ counters, (answer c).IsCount)
      (hreply : coverage = some (.ok share)) (hfault : ¬ CoverageSource.IsShare (.ok share)) :
      FirstFault answer coverage (.coverageOutOfRange share)

/-- There is something to complain of where something is missing. -/
lemma complaint?_eq_none_iff :
    complaint? coverage (source.answers before (readsAfter source before)) = none ↔
      (∀ c ∈ counters, (source.answer before c).IsCount) ∧ ∀ reply ∈ coverage, reply.IsShare := by
  rw [complaint?, findSome?_answers, Option.or_eq_none_iff, List.findSome?_eq_none_iff,
    shareComplaint?_eq_none_iff]
  simp only [Answer.complaint?_eq_none_iff_isCount]

/-- **What is complained of is the first fault.** -/
lemma firstFault_of_complaint? {e : Event}
    (h : complaint? coverage (source.answers before (readsAfter source before)) = some e) :
    FirstFault (source.answer before) coverage e := by
  rw [complaint?, findSome?_answers, Option.or_eq_some_iff] at h
  rcases h with hread | ⟨hcounts, hshare⟩
  · obtain ⟨first, c, last, horder, hcomplaint, hfirst⟩ := List.findSome?_eq_some_iff.mp hread
    simp only [Answer.complaint?_eq_none_iff_isCount] at hfirst
    cases hanswer : source.answer before c with
    | error reason =>
        rw [hanswer] at hcomplaint
        cases hcomplaint
        exact .unread horder hfirst hanswer
    | ok value =>
        rw [hanswer, Answer.complaint?] at hcomplaint
        split_ifs at hcomplaint with hfits
        cases hcomplaint
        exact .tooLarge horder hfirst hanswer hfits
  · have hall : ∀ c ∈ counters, (source.answer before c).IsCount := by
      simpa only [List.findSome?_eq_none_iff, Answer.complaint?_eq_none_iff_isCount] using hcounts
    rcases coverage with _ | reason | share
    · cases hshare
    · cases hshare
      exact .coverageUnread hall rfl
    · rw [shareComplaint?] at hshare
      split_ifs at hshare with hunit
      cases hshare
      exact .noShare hall rfl fun h => hunit (CoverageSource.isShare_ok_iff.mp h)

/-! ## Collecting the statistics -/

/-- **The coverage makes no difference** if some counter is not answered with a count. -/
lemma run_compute_eq_of_fault {j : Journal}
    (h : ¬ ∀ c ∈ counters, (source.answer j.reads c).IsCount)
    (coverage other : Option CoverageSource) :
    (compute (some source) other).run j = (compute (some source) coverage).run j := by
  have hnone (coverage : Option CoverageSource) :
      ofAnswers? coverage (source.answers j.reads (readsAfter source j.reads)) = none := by
    rw [← Option.not_isSome_iff_eq_none, isSome_ofAnswers?_iff]
    exact fun hall => h hall.1
  obtain ⟨e, he⟩ : ∃ e, (counters.findSome? fun c => (source.answer j.reads c).complaint? c)
      = some e := by
    rw [← Option.ne_none_iff_exists', ne_eq, List.findSome?_eq_none_iff]
    simpa only [Answer.complaint?_eq_none_iff_isCount] using h
  have hcounts : ¬ ∀ c ∈ counters, (source.answer j.reads c).count?.isSome = true := by
    simpa only [Answer.isSome_count?_iff] using h
  rw [run_compute, run_compute, hnone, hnone, coverageQuery_eq_nil hcounts,
    coverageQuery_eq_nil hcounts, complaint?, complaint?, findSome?_answers, he, Option.some_or,
    Option.some_or]

/-- **Statistics are all or nothing.**

There are none, and nothing is read or noted, without a source of counters.  With one, there are
statistics exactly if each of the six counters is answered with a count and the coverage, if there is a
source for it, is a share; they hold these counts, each from its own counter, and that share, or zero.
The coverage is asked for once, after the counters, if there is a source for it and all six counters
were answered with counts; otherwise it is not asked for, and makes no difference to anything.
Nothing is noted beside statistics, and one warning where there are none, which blames the first
fault. -/
theorem compute_all_or_nothing (source : CounterSource) (coverage : Option CoverageSource)
    (j : Journal) :
    let run := (compute (some source) coverage).run j
    let answer := source.answer j.reads
    (compute none coverage).run j = (none, j) ∧
    (run.1.isSome = true ↔
      (∀ c ∈ counters, (answer c).IsCount) ∧ ∀ reply ∈ coverage, reply.IsShare) ∧
    (∀ stats, run.1 = some stats ↔
      (∀ c n, stats.value? c = some n → answer c = .ok n.toNat) ∧
      ((coverage = none ∧ stats.reconciliationCoverage = .zero) ∨
        (coverage = some (.ok stats.reconciliationCoverage) ∧
          CoverageSource.IsShare (.ok stats.reconciliationCoverage)))) ∧
    ((∀ c ∈ counters, (answer c).IsCount) ∨
      ∀ other, (compute (some source) other).run j = run) ∧
    ∃ reads asked noted,
      run.2 = ⟨j.queries ++ reads.map .counter ++ asked, j.events ++ noted⟩ ∧
      ReadAsNeeded answer reads ∧ (asked = [.coverage] ∨ asked = []) ∧
      (asked = [.coverage] ↔ coverage.isSome = true ∧ ∀ c ∈ counters, (answer c).IsCount) ∧
      ((run.1.isSome = true ∧ noted = []) ∨
        (run.1 = none ∧ ∃ e, noted = [e] ∧ e.severity = .warn ∧ FirstFault answer coverage e)) := by
  intro run answer
  have hrun : run = _ := run_compute source j coverage
  set answered := source.answers j.reads (readsAfter source j.reads)
  refine ⟨rfl, ?_, fun stats => ?_, ?_, readsAfter source j.reads, coverageQuery answer coverage,
    (complaint? coverage answered).toList, ?_, readAsNeeded_readsAfter source j.reads, ?_, ?_, ?_⟩
  · rw [hrun, isSome_ofAnswers?_iff]
  · rw [hrun, ofAnswers?_eq_some_iff, share?_eq_some_iff]
  · exact or_iff_not_imp_left.mpr fun h => run_compute_eq_of_fault h coverage
  · rw [hrun, Journal.extend, ← List.append_assoc]
  · exact ite_eq_or_eq _ _ _
  · simp only [coverageQuery, ← Answer.isSome_count?_iff, ite_eq_left_iff, List.ne_cons_self,
      reduceCtorEq, imp_false, not_not]
  · rw [hrun]
    have hiff : complaint? coverage answered = none ↔ (ofAnswers? coverage answered).isSome = true :=
      complaint?_eq_none_iff.trans isSome_ofAnswers?_iff.symm
    cases hcomplaint : complaint? coverage answered with
    | none => exact Or.inl ⟨hiff.mp hcomplaint, rfl⟩
    | some e =>
        have hnone : ofAnswers? coverage answered = none := by
          rw [← Option.not_isSome_iff_eq_none, ← hiff, hcomplaint]
          exact Option.some_ne_none e
        exact Or.inr ⟨hnone, e, rfl, (of_mem_complaint? (Option.mem_toList.mpr hcomplaint)).1,
          firstFault_of_complaint? hcomplaint⟩

end Stats
end LedgerCheck
