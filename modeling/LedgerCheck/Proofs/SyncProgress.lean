import LedgerCheck.Proofs.Counter.Answers
import LedgerCheck.Proofs.Binary64.Nearest

/-!
# When there is progress, and what it is

Progress is computed from at most three reads, and the computation may end after each of them.
`SyncProgress.Course` lists the ways in which it can go, each with the reads that were made, the events
that were noted and the answers that led there; what is to be known about progress is a case analysis
over it.

* `SyncProgress.Estimates` — the figures that counts come to, without any rounding in between.
* `SyncProgress.exists_estimate` — counts that pass every check have an estimate.
* **`SyncProgress.course_towards`** — computing the progress takes one of the courses.
* **`SyncProgress.compute_eq_some_iff`** — for which answers there is progress, and its figures.
-/

namespace LedgerCheck
namespace SyncProgress

open Observing

/-! ## Figures -/

/-- A ratio of a count that fits 64 bits to a positive count is less than the largest number. -/
lemma abs_ratio_lt {n d : Int} (hn : 0 < n) (hbound : n < 2 ^ 63) (hd : 0 < d) :
    |(n : ℚ) / d| < 2 ^ (1023 : Int) := by
  have hd' : (1 : ℚ) ≤ d := by exact_mod_cast hd
  have hn' : (0 : ℚ) < n := by exact_mod_cast hn
  have hbound' : (n : ℚ) < 2 ^ (63 : Int) := by exact_mod_cast hbound
  rw [abs_of_nonneg (by positivity)]
  calc (n : ℚ) / d ≤ n := div_le_self hn'.le hd'
    _ < 2 ^ (63 : Int) := hbound'
    _ < 2 ^ (1023 : Int) := zpow_lt_zpow_right₀ one_lt_two (by decide)

lemma isFinite_ratio {n d : Int} (hn : 0 < n) (hbound : n < 2 ^ 63) (hd : 0 < d) :
    (Binary64.ofRat ((n : ℚ) / d)).isFinite = true :=
  Binary64.isFinite_ofRat (abs_ratio_lt hn hbound hd)

/-- A share of a whole is at most one hundred percent. -/
lemma abs_share_lt {n d : Int} (hn : 0 < n) (hlt : n < d) :
    |(100 * n / d : ℚ)| < 2 ^ (1023 : Int) := by
  have hn' : (0 : ℚ) < n := by exact_mod_cast hn
  have hlt' : (n : ℚ) < d := by exact_mod_cast hlt
  have hshare : (n : ℚ) / d < 1 := (div_lt_one (hn'.trans hlt')).mpr hlt'
  have hd' : (0 : ℚ) < d := hn'.trans hlt'
  rw [abs_of_nonneg (by positivity), mul_div_assoc]
  calc 100 * ((n : ℚ) / d) < 2 ^ (7 : Int) := by norm_num; linarith
    _ < 2 ^ (1023 : Int) := zpow_lt_zpow_right₀ one_lt_two (by decide)

lemma isFinite_share {n d : Int} (hn : 0 < n) (hlt : n < d) :
    (Binary64.ofRat (100 * n / d)).isFinite = true :=
  Binary64.isFinite_ofRat (abs_share_lt hn hlt)

/-- **The figures of a run** that has come to a count of canonical blocks in some seconds: the share
and the rate are rounded once, and the time left is not rounded before it is written. -/
structure Estimates (p : SyncProgress) (goal : Int64) (canonical elapsed : Int) : Prop where
  blocks : p.blocks.toInt = canonical
  tip : p.tip = goal
  completed : p.completed = .ofRat (100 * canonical / goal.toInt)
  rate : p.rate = .ofRat (canonical / elapsed)
  timeRemaining :
    p.timeRemaining = Duration.text ((goal.toInt - canonical) * elapsed / canonical)

/-- Both figures of the progress are numbers. -/
def IsFinite (p : SyncProgress) : Prop := p.completed.isFinite = true ∧ p.rate.isFinite = true

section Estimate

variable {goal : Int64} {canonical elapsed : Int}

lemma Estimates.eq {p p' : SyncProgress} (h : p.Estimates goal canonical elapsed)
    (h' : p'.Estimates goal canonical elapsed) : p = p' := by
  cases p
  cases p'
  congr 1
  · exact Int64.toInt_inj.mp (h.blocks.trans h'.blocks.symm)
  · exact h.tip.trans h'.tip.symm
  · exact h.completed.trans h'.completed.symm
  · exact h.rate.trans h'.rate.symm
  · exact h.timeRemaining.trans h'.timeRemaining.symm

variable (hcanonical : 0 < canonical) (hgoal : canonical < goal.toInt) (helapsed : 0 < elapsed)
include hcanonical hgoal helapsed

/-- **Counts that pass every check have an estimate**: no denominator is zero, and the blocks fit 64
bits because the index of the tip does. -/
lemma exists_estimate :
    ∃ p, estimate canonical elapsed goal = .ok p ∧ p.Estimates goal canonical elapsed := by
  have hbound : canonical < 2 ^ 63 := hgoal.trans goal.toInt_lt
  have hc : (canonical : ℚ) ≠ 0 := by exact_mod_cast hcanonical.ne'
  have ht : (elapsed : ℚ) ≠ 0 := by exact_mod_cast helapsed.ne'
  have hrate : ratio canonical elapsed = .ok ((canonical : ℚ) / elapsed) := if_neg helapsed.ne'
  have hshare : ratio canonical goal.toInt = .ok ((canonical : ℚ) / goal.toInt) :=
    if_neg (hcanonical.trans hgoal).ne'
  have hleft : atRate (goal.toInt - canonical) ((canonical : ℚ) / elapsed)
      = .ok (((goal.toInt - canonical : Int) : ℚ) / (canonical / elapsed)) :=
    if_neg (div_ne_zero hc ht)
  have hpow : Int.pow 2 63 = 2 ^ 63 := rfl
  have hfits : -Int.pow 2 63 ≤ canonical ∧ canonical < Int.pow 2 63 := by
    rw [hpow]
    omega
  have hblocks : int64 canonical = .ok (Int64.ofInt canonical) := if_pos hfits
  refine ⟨⟨Int64.ofInt canonical, goal, .ofRat ((canonical : ℚ) / goal.toInt * 100),
    .ofRat ((canonical : ℚ) / elapsed),
    Duration.text (((goal.toInt - canonical : Int) : ℚ) / (canonical / elapsed))⟩, ?_, ?_⟩
  · rw [estimate, hrate, hshare, hblocks]
    simp only [bind, Except.bind, hleft]
    rfl
  · refine ⟨Int64.toInt_ofInt_of_le hfits.1 hfits.2, rfl, ?_, rfl, ?_⟩
    · exact congrArg Binary64.ofRat (by ring)
    · refine congrArg Duration.text ?_
      push_cast
      field_simp

/-- The figures of an estimate are finite. -/
lemma Estimates.isFinite {p : SyncProgress} (h : p.Estimates goal canonical elapsed) :
    p.IsFinite := by
  rw [IsFinite, h.completed, h.rate]
  exact ⟨isFinite_share hcanonical hgoal,
    isFinite_ratio hcanonical (hgoal.trans goal.toInt_lt) helapsed⟩

end Estimate

/-! ## Courses -/

/-- **The ways in which computing the progress can go**, after given reads: the progress that it comes
to, the reads that it makes and the events that it notes. -/
inductive Course (source : CounterSource) (tip : Int64) (before : List Counter) :
    Option SyncProgress → List Counter → List Event → Prop where
  | blocksUnread {e : SourceError} (hblocks : source.answer before .blocks = .error e) :
      Course source tip before none [.blocks] [.counterUnavailable .blocks e]
  | noBlocks (hblocks : source.answer before .blocks = .ok 0) :
      Course source tip before none [.blocks] []
  | orphansUnread {b : Int} {e : SourceError} (hblocks : source.answer before .blocks = .ok b)
      (hsome : b ≠ 0) (horphans : source.answer before .orphans = .error e) :
      Course source tip before none [.blocks, .orphans] [.counterUnavailable .orphans e]
  | noCanonical {b o : Int} (hblocks : source.answer before .blocks = .ok b) (hsome : b ≠ 0)
      (horphans : source.answer before .orphans = .ok o) (hcanonical : b - o ≤ 0) :
      Course source tip before none [.blocks, .orphans] [.noCanonicalBlocks (b - o)]
  | tipReached {b o : Int} (hblocks : source.answer before .blocks = .ok b) (hsome : b ≠ 0)
      (horphans : source.answer before .orphans = .ok o) (hcanonical : 0 < b - o)
      (htip : tip.toInt ≤ b - o) :
      Course source tip before none [.blocks, .orphans] []
  | timeUnread {b o : Int} {e : SourceError} (hblocks : source.answer before .blocks = .ok b)
      (hsome : b ≠ 0) (horphans : source.answer before .orphans = .ok o) (hcanonical : 0 < b - o)
      (htip : b - o < tip.toInt) (htime : source.answer before .timeElapsed = .error e) :
      Course source tip before none [.blocks, .orphans, .timeElapsed]
        [.counterUnavailable .timeElapsed e]
  | noTime {b o t : Int} (hblocks : source.answer before .blocks = .ok b) (hsome : b ≠ 0)
      (horphans : source.answer before .orphans = .ok o) (hcanonical : 0 < b - o)
      (htip : b - o < tip.toInt) (htime : source.answer before .timeElapsed = .ok t)
      (helapsed : t ≤ 0) :
      Course source tip before none [.blocks, .orphans, .timeElapsed] []
  | underWay {b o t : Int} {p : SyncProgress} (hblocks : source.answer before .blocks = .ok b)
      (hsome : b ≠ 0) (horphans : source.answer before .orphans = .ok o) (hcanonical : 0 < b - o)
      (htip : b - o < tip.toInt) (htime : source.answer before .timeElapsed = .ok t)
      (helapsed : 0 < t) (hp : p.Estimates tip (b - o) t) :
      Course source tip before (some p) [.blocks, .orphans, .timeElapsed] []

variable (source : CounterSource) (tip : Int64) (j : Journal)

/-- **Computing the progress takes one of the courses.** -/
theorem course_towards :
    ∃ value reads events, Course source tip j.reads value reads events ∧
      (towards source tip).run j = (value, j.extend (reads.map .counter) events) := by
  rw [towards, run_bind, run_readOrWarn]
  cases hblocks : source.answer j.reads .blocks with
  | error e => exact ⟨_, _, _, .blocksUnread hblocks, rfl⟩
  | ok b =>
    simp only [Except.toOption, Answer.failure]
    split_ifs with hzero
    · exact ⟨_, _, _, .noBlocks (hzero ▸ hblocks), rfl⟩
    rw [ofBlocks, run_bind, run_readOrWarn, Journal.reads_extend,
      CounterSource.answer_append_of_not_mem (by decide)]
    cases horphans : source.answer j.reads .orphans with
    | error e =>
      exact ⟨_, _, _, .orphansUnread hblocks hzero horphans, by rw [Journal.extend_extend]; rfl⟩
    | ok o =>
      simp only [Except.toOption, Answer.failure, Journal.extend_extend]
      split_ifs with hcanonical htip
      · refine ⟨_, _, _, .noCanonical hblocks hzero horphans hcanonical, ?_⟩
        rw [run_bind, run_note, Journal.extend_extend]
        rfl
      · exact ⟨_, _, _, .tipReached hblocks hzero horphans (by omega) (by omega), rfl⟩
      rw [ofElapsed, run_bind, run_readOrWarn, Journal.reads_extend,
        CounterSource.answer_append_of_not_mem (by decide)]
      cases htime : source.answer j.reads .timeElapsed with
      | error e =>
        refine ⟨_, _, _, .timeUnread hblocks hzero horphans (by omega) (by omega) htime, ?_⟩
        rw [Journal.extend_extend]
        rfl
      | ok t =>
        simp only [Except.toOption, Answer.failure, Journal.extend_extend]
        split_ifs with helapsed
        · exact ⟨_, _, _, .noTime hblocks hzero horphans (by omega) (by omega) htime helapsed, rfl⟩
        have hcount : 0 < b - o := Int.not_le.mp hcanonical
        have hgoal : b - o < tip.toInt := Int.sub_pos.mp (Int.not_le.mp htip)
        have hpassed : 0 < t := Int.not_le.mp helapsed
        obtain ⟨p, hestimate, hp⟩ := exists_estimate hcount hgoal hpassed
        refine ⟨_, _, _, .underWay hblocks hzero horphans hcount hgoal htime hpassed hp, ?_⟩
        rw [hestimate]
        rfl

/-- Computing the progress towards any tip: where it is not known, that is all that is noted. -/
lemma course_compute (tip : Except String Int64) :
    ∃ value reads events,
      (compute tip source).run j = (value, j.extend (reads.map .counter) events) ∧
      ((∃ reason, tip = .error reason ∧ value = none ∧ reads = [] ∧
          events = [.tipUnavailable reason]) ∨
        ∃ goal, tip = .ok goal ∧ Course source goal j.reads value reads events) := by
  cases tip with
  | error reason =>
      refine ⟨none, [], [.tipUnavailable reason], ?_, Or.inl ⟨reason, rfl, rfl, rfl, rfl⟩⟩
      rw [Journal.extend, List.map_nil, List.append_nil]
      rfl
  | ok goal =>
      obtain ⟨value, reads, events, hcourse, hrun⟩ := course_towards source goal j
      exact ⟨value, reads, events, hrun, Or.inr ⟨goal, rfl, hcourse⟩⟩

namespace Course

variable {source tip} {before : List Counter} {value : Option SyncProgress}
  {reads : List Counter} {events : List Event} (h : Course source tip before value reads events)
include h

/-- **There is progress on one course only**, and there it is the estimate. -/
lemma eq_some_iff {p : SyncProgress} :
    value = some p ↔
      ∃ b o t, source.answer before .blocks = .ok b ∧ source.answer before .orphans = .ok o ∧
        source.answer before .timeElapsed = .ok t ∧
        (b ≠ 0 ∧ 0 < b - o ∧ b - o < tip.toInt ∧ 0 < t) ∧ p.Estimates tip (b - o) t := by
  constructor
  · rintro rfl
    cases h with
    | underWay hblocks hsome horphans hcanonical htip htime helapsed hp =>
        exact ⟨_, _, _, hblocks, horphans, htime, ⟨hsome, hcanonical, htip, helapsed⟩, hp⟩
  · rintro ⟨b, o, t, hb, ho, ht, ⟨hsome, hcanonical, htip, helapsed⟩, hp⟩
    cases h with
    | underWay hblocks _ horphans _ _ htime _ hp' =>
        cases hblocks.symm.trans hb
        cases horphans.symm.trans ho
        cases htime.symm.trans ht
        rw [hp'.eq hp]
    -- every other course ends at an answer or a check that contradicts these
    | _ => simp_all <;> omega

lemma isSome_iff : value.isSome = true ↔
    ∃ b o t, source.answer before .blocks = .ok b ∧ source.answer before .orphans = .ok o ∧
      source.answer before .timeElapsed = .ok t ∧
      (b ≠ 0 ∧ 0 < b - o ∧ b - o < tip.toInt ∧ 0 < t) := by
  rw [Option.isSome_iff_exists]
  simp only [h.eq_some_iff]
  constructor
  · rintro ⟨p, b, o, t, hb, ho, ht, hchecks, -⟩
    exact ⟨b, o, t, hb, ho, ht, hchecks⟩
  · rintro ⟨b, o, t, hb, ho, ht, hchecks⟩
    obtain ⟨p, -, hp⟩ := exists_estimate hchecks.2.1 hchecks.2.2.1 hchecks.2.2.2
    exact ⟨p, b, o, t, hb, ho, ht, hchecks, hp⟩

/-! ### Reads and events of a course -/

lemma prefix_reads : reads <+: [.blocks, .orphans, .timeElapsed] := by
  cases h <;> decide

lemma blocks_mem : Counter.blocks ∈ reads := by
  cases h <;> decide

lemma orphans_mem_iff :
    Counter.orphans ∈ reads ↔ ∃ b, source.answer before .blocks = .ok b ∧ b ≠ 0 := by
  cases h <;> simp_all

lemma timeElapsed_mem_iff :
    Counter.timeElapsed ∈ reads ↔
      ∃ b o, source.answer before .blocks = .ok b ∧ b ≠ 0 ∧ source.answer before .orphans = .ok o ∧
        0 < b - o ∧ b - o < tip.toInt := by
  cases h <;> simp_all

/-- The warnings of a course are the reads that failed. -/
lemma warnings : events.filter (·.severity = .warn)
    = failures .counterUnavailable (source.answers before reads) := by
  rw [CounterSource.answers_eq_map (h.prefix_reads.sublist.nodup (by decide))]
  cases h <;> simp_all [failures, Answer.failure, Event.severity]

/-- Nothing is noted about a tip that is known. -/
lemma isLocal : ∀ e ∈ events, e.IsLocal := by
  cases h <;> simp [Event.IsLocal]

end Course

/-! ## The progress of a run -/

/-- **Progress towards a known tip notes nothing about the tip.** -/
theorem notes_compute (source : CounterSource) (tip : Int64) :
    Notes Event.IsLocal (compute (.ok tip) source) := by
  refine notes_of_run fun j => ?_
  obtain ⟨value, reads, events, hcourse, hrun⟩ := course_towards source tip j
  exact ⟨reads.map .counter, events, by rw [compute, hrun], hcourse.isLocal⟩

/-- **There is progress exactly if the tip is known, all three counters are answered, and some but not
all blocks of the tip have been synced in some time.**  The figures are those that the answers come
to: the share and the rate are the numbers nearest to their exact values, and the time left is written
from its exact value. -/
theorem compute_eq_some_iff (tip : Except String Int64) (source : CounterSource) (j : Journal) :
    let run := (compute tip source).run j
    let answer := source.answer j.reads
    let underWay (goal : Int64) (b o t : Int) : Prop :=
      tip = .ok goal ∧ answer .blocks = .ok b ∧ answer .orphans = .ok o ∧
        answer .timeElapsed = .ok t ∧ b ≠ 0 ∧ 0 < b - o ∧ b - o < goal.toInt ∧ 0 < t
    let share (goal : Int64) (canonical : Int) : ℚ := 100 * canonical / goal.toInt
    let perSecond (canonical elapsed : Int) : ℚ := canonical / elapsed
    let timeLeft (goal : Int64) (canonical elapsed : Int) : ℚ :=
      (goal.toInt - canonical) * elapsed / canonical
    (∃ reads : List Counter, reads <+: [.blocks, .orphans, .timeElapsed] ∧
      run.2.queries = j.queries ++ reads.map .counter) ∧
    (run.1.isSome = true ↔ ∃ goal b o t, underWay goal b o t) ∧
    (run.1 = none ↔ ¬ ∃ goal b o t, underWay goal b o t) ∧
    ∀ p, run.1 = some p ↔
      ∃ goal b o t, underWay goal b o t ∧
        p.blocks.toInt = b - o ∧ p.tip = goal ∧
        p.completed = .ofRat (share goal (b - o)) ∧ p.completed.IsNearest (share goal (b - o)) ∧
        p.rate = .ofRat (perSecond (b - o) t) ∧ p.rate.IsNearest (perSecond (b - o) t) ∧
        p.timeRemaining = Duration.text (timeLeft goal (b - o) t) := by
  intro run answer underWay share perSecond timeLeft
  obtain ⟨value, reads, events, hrun, hcases⟩ := course_compute source j tip
  replace hrun : run = (value, j.extend (reads.map .counter) events) := hrun
  rw [hrun]
  rcases hcases with ⟨reason, rfl, rfl, rfl, rfl⟩ | ⟨goal, rfl, hcourse⟩
  · have hidle (goal b o t) : ¬ underWay goal b o t := by
      rintro ⟨htip, -⟩
      cases htip
    exact ⟨⟨[], List.nil_prefix, rfl⟩, by simp [hidle], by simp [hidle], by simp [hidle]⟩
  · have hsome : value.isSome = true ↔ ∃ goal b o t, underWay goal b o t := by
      rw [hcourse.isSome_iff]
      simp only [underWay, Except.ok.injEq, exists_and_left, exists_eq_left']
      rfl
    refine ⟨⟨reads, hcourse.prefix_reads, rfl⟩, hsome, ?_, fun p => ?_⟩
    · rw [← hsome, Option.not_isSome_iff_eq_none]
    rw [hcourse.eq_some_iff]
    constructor
    · rintro ⟨b, o, t, hb, ho, ht, ⟨hsynced, hcanonical, hgoal, helapsed⟩, hp⟩
      have hfinite := hp.isFinite hcanonical hgoal helapsed
      refine ⟨goal, b, o, t, ⟨rfl, hb, ho, ht, hsynced, hcanonical, hgoal, helapsed⟩, hp.blocks,
        hp.tip, hp.completed, ?_, hp.rate, ?_, hp.timeRemaining⟩
      · rw [hp.completed]
        exact Binary64.isNearest_ofRat (hp.completed ▸ hfinite.1)
      · rw [hp.rate]
        exact Binary64.isNearest_ofRat (hp.rate ▸ hfinite.2)
    · rintro ⟨goal', b, o, t, ⟨htip, hb, ho, ht, hchecks⟩, hblocks, hgoal, hcompleted, -, hrate, -,
        htime⟩
      cases htip
      exact ⟨b, o, t, hb, ho, ht, hchecks, hblocks, hgoal, hcompleted, hrate, htime⟩

end SyncProgress
end LedgerCheck
