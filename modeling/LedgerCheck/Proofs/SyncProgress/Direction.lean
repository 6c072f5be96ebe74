import LedgerCheck.Proofs.SyncProgress
import LedgerCheck.Proofs.Binary64.Order
import LedgerCheck.Proofs.Duration

/-!
# Estimates move in the right direction

More blocks never make a run look less complete, slower or longer, more time never makes it look
faster, and a higher tip never brings its end nearer.  This is true of the figures that are shown.
Each of them is an exact ratio that moves in that direction, and what happens to the ratio
afterwards keeps the order: rounding to the nearest number, rounding to milliseconds, and the units
in which a duration is written.

* `roundHalfAway_mono`, `Duration.millis_mono` — rounding to milliseconds keeps the order.
* `SyncProgress.secondsLeft?` — the seconds that the time left says, whatever units it is written
  in.
* `SyncProgress.Estimates.completed_le`, `SyncProgress.Estimates.rate_le`,
  `SyncProgress.millis_timeLeft_le` — in which direction each figure moves.
* `SyncProgress.Account` — what a run comes from, and what it shows.
* **`SyncProgress.compute_directed`** — the progress of two runs, compared.
-/

namespace LedgerCheck

/-! ## Rounding to milliseconds -/

/-- Rounding to the nearest integer keeps the order, also from negative to positive numbers. -/
lemma roundHalfAway_mono : Monotone roundHalfAway := by
  intro x y hle
  have hfloor {u v : ℚ} (h : u ≤ v) : (u + 1 / 2).floor ≤ (v + 1 / 2).floor :=
    Int.floor_mono (add_le_add_left h _)
  have hnonneg {u : ℚ} (h : 0 ≤ u) : 0 ≤ (u + 1 / 2).floor := by
    have hhalf : 0 ≤ u + 1 / 2 := by linarith
    exact Int.floor_nonneg.mpr hhalf
  rw [roundHalfAway, roundHalfAway]
  split_ifs with hx hy hy
  · exact neg_le_neg (hfloor (neg_le_neg hle))
  · have hbelow := hnonneg (neg_nonneg.mpr hx.le)
    have habove := hnonneg (not_lt.mp hy)
    omega
  · exact absurd (hle.trans_lt hy) hx
  · exact hfloor hle

namespace Duration

lemma millis_mono : Monotone millis := fun _ _ h =>
  Int.toNat_le_toNat (roundHalfAway_mono (mul_le_mul_of_nonneg_right h (by norm_num)))

/-- The text of a number of seconds says its milliseconds. -/
lemma read?_text (x : ℚ) : read? (text x).toList = some (millis x / 1000 : ℚ) := by
  rw [text, String.toList_ofList, read?_chars]

end Duration

namespace SyncProgress

open Binary64

/-- **The seconds that the time left says**, in whatever units it is written. -/
def secondsLeft? (p : SyncProgress) : Option ℚ := Duration.read? p.timeRemaining.toList

/-! ## The direction of each figure -/

/-- **The counts of a run** under way to a tip: some but not all blocks are synced, in some time. -/
structure IsUnderWay (goal : Int64) (canonical elapsed : Int) : Prop where
  canonical_pos : 0 < canonical
  canonical_lt : canonical < goal.toInt
  elapsed_pos : 0 < elapsed

/-- More of a count in less time, or of a smaller whole, is a larger ratio. -/
lemma ratio_le_ratio {n n' d d' : Int} (hn : 0 < n) (hd' : 0 < d') (hcount : n ≤ n')
    (hless : d' ≤ d) : (n : ℚ) / d ≤ n' / d' := by
  have hn₀ : (0 : ℚ) ≤ n' := by exact_mod_cast (hn.le.trans hcount)
  have hd₀ : (0 : ℚ) < d' := by exact_mod_cast hd'
  exact div_le_div₀ hn₀ (by exact_mod_cast hcount) hd₀ (by exact_mod_cast hless)

section Figures

variable {p p' : SyncProgress} {goal goal' : Int64} {n n' t t' : Int}
  (hrun : IsUnderWay goal n t) (hrun' : IsUnderWay goal' n' t')
include hrun hrun'

/-- **More blocks are a larger share**, and so is the same count of a nearer tip. -/
lemma Estimates.completed_le (h : p.Estimates goal n t) (h' : p'.Estimates goal' n' t')
    (hcount : n ≤ n') (htip : goal'.toInt ≤ goal.toInt) : p.completed.le p'.completed = true := by
  have hfinite := (h.isFinite hrun.1 hrun.2 hrun.3).1
  have hfinite' := (h'.isFinite hrun'.1 hrun'.2 hrun'.3).1
  rw [le_iff hfinite hfinite']
  rw [h.completed] at hfinite ⊢
  rw [h'.completed] at hfinite' ⊢
  refine toRat_ofRat_le hfinite hfinite' ?_
  rw [mul_div_assoc, mul_div_assoc]
  have hgoal : 0 < goal'.toInt := hrun'.canonical_pos.trans hrun'.canonical_lt
  exact mul_le_mul_of_nonneg_left (ratio_le_ratio hrun.canonical_pos hgoal hcount htip)
    (by norm_num)

/-- **More blocks are a higher rate**, and so is the same count in less time. -/
lemma Estimates.rate_le (h : p.Estimates goal n t) (h' : p'.Estimates goal' n' t')
    (hcount : n ≤ n') (htime : t' ≤ t) : p.rate.le p'.rate = true := by
  have hfinite := (h.isFinite hrun.1 hrun.2 hrun.3).2
  have hfinite' := (h'.isFinite hrun'.1 hrun'.2 hrun'.3).2
  rw [le_iff hfinite hfinite']
  rw [h.rate] at hfinite ⊢
  rw [h'.rate] at hfinite' ⊢
  exact toRat_ofRat_le hfinite hfinite'
    (ratio_le_ratio hrun.canonical_pos hrun'.elapsed_pos hcount htime)

/-- **Fewer blocks take longer**, and so do the same blocks in more time or to a higher tip. -/
lemma millis_timeLeft_le (hcount : n' ≤ n) (htime : t ≤ t') (htip : goal.toInt ≤ goal'.toInt) :
    (Duration.millis ((goal.toInt - n) * t / n) / 1000 : ℚ)
      ≤ Duration.millis ((goal'.toInt - n') * t' / n') / 1000 := by
  have hn' : (0 : ℚ) < n' := by exact_mod_cast hrun'.canonical_pos
  have ht : (0 : ℚ) < t := by exact_mod_cast hrun.elapsed_pos
  have hleft : (0 : ℚ) < goal.toInt - n := by
    rw [sub_pos]
    exact_mod_cast hrun.canonical_lt
  have hcount' : (n' : ℚ) ≤ n := by exact_mod_cast hcount
  have htime' : (t : ℚ) ≤ t' := by exact_mod_cast htime
  have htip' : (goal.toInt : ℚ) ≤ goal'.toInt := by exact_mod_cast htip
  have hleft' : (goal.toInt - n : ℚ) ≤ goal'.toInt - n' := by linarith
  have hwork : ((goal.toInt - n) * t : ℚ) ≤ (goal'.toInt - n') * t' :=
    mul_le_mul hleft' htime' ht.le (hleft.le.trans hleft')
  have hexact : ((goal.toInt - n) * t / n : ℚ) ≤ (goal'.toInt - n') * t' / n' :=
    div_le_div₀ ((mul_pos hleft ht).le.trans hwork) hwork hn' hcount'
  have hmillis : (Duration.millis ((goal.toInt - n) * t / n : ℚ) : ℚ)
      ≤ Duration.millis ((goal'.toInt - n') * t' / n' : ℚ) := by
    exact_mod_cast Duration.millis_mono hexact
  linarith

end Figures

/-- The time left is written from the milliseconds that its exact value is rounded to. -/
lemma Estimates.secondsLeft?_eq {p : SyncProgress} {goal : Int64} {n t : Int}
    (h : p.Estimates goal n t) :
    p.secondsLeft? = some (Duration.millis ((goal.toInt - n) * t / n) / 1000 : ℚ) := by
  rw [secondsLeft?, h.timeRemaining, Duration.read?_text]

/-! ## Two runs -/

/-- **What a run with progress comes from, and what it shows**: the tip, the blocks less the
orphans and the seconds that its source answers after given reads; the numbers nearest to the share
and to the rate, and the seconds that the time left says. -/
structure Account (tip : Except String Int64) (source : CounterSource) (before : List Counter)
    (p : SyncProgress) (goal : Int64) (n t : Int) (s : ℚ) : Prop where
  tip_eq : tip = .ok goal
  counted : ∃ blocks orphans, source.answer before .blocks = .ok blocks ∧
    source.answer before .orphans = .ok orphans ∧ n = blocks - orphans
  timed : source.answer before .timeElapsed = .ok t
  blocks : p.blocks.toInt = n
  completed : p.completed.IsNearest (100 * n / goal.toInt)
  rate : p.rate.IsNearest (n / t)
  secondsLeft : p.secondsLeft? = some s

/-- Where there is progress, it is the estimate from the counts of a run under way. -/
lemma exists_account {tip : Except String Int64} {source : CounterSource} {j : Journal}
    {p : SyncProgress} (h : ((compute tip source).run j).1 = some p) :
    ∃ goal n t, IsUnderWay goal n t ∧ p.Estimates goal n t ∧
      Account tip source j.reads p goal n t
        (Duration.millis ((goal.toInt - n) * t / n) / 1000 : ℚ) := by
  obtain ⟨value, reads, events, hrun, hcases⟩ := course_compute source j tip
  rw [hrun] at h
  rcases hcases with ⟨reason, -, rfl, -, -⟩ | ⟨goal, htip, hcourse⟩
  · cases h
  · obtain ⟨b, o, t, hb, ho, ht, ⟨-, hcanonical, hgoal, helapsed⟩, hp⟩ := hcourse.eq_some_iff.mp h
    obtain ⟨hcompleted, hrate⟩ := hp.isFinite hcanonical hgoal helapsed
    rw [hp.completed] at hcompleted
    rw [hp.rate] at hrate
    refine ⟨goal, b - o, t, ⟨hcanonical, hgoal, helapsed⟩, hp, ?_⟩
    exact
      { tip_eq := htip
        counted := ⟨b, o, hb, ho, rfl⟩
        timed := ht
        blocks := hp.blocks
        completed := hp.completed ▸ isNearest_ofRat hcompleted
        rate := hp.rate ▸ isNearest_ofRat hrate
        secondsLeft := hp.secondsLeft?_eq }

/-- **Estimates move in the right direction.**  Of two runs, whatever their tips and sources, let
one differ from the other in a single count.

* With more blocks, it is no less complete and no slower, and has no longer to go.
* With more time, it is no faster and has no shorter to go, and it is as complete.
* With a higher tip, it is no more complete and has no shorter to go, and it is as fast.

The figures are compared as they are shown: the numbers after they are rounded, and the time left as
its text is read. -/
theorem compute_directed (tip tip' : Except String Int64) (source source' : CounterSource)
    (j j' : Journal) {p p' : SyncProgress} (h : ((compute tip source).run j).1 = some p)
    (h' : ((compute tip' source').run j').1 = some p') :
    ∃ (goal goal' : Int64) (n n' t t' : Int) (s s' : ℚ),
      Account tip source j.reads p goal n t s ∧ Account tip' source' j'.reads p' goal' n' t' s' ∧
      (goal = goal' → t = t' → n ≤ n' →
        p.completed.le p'.completed = true ∧ p.rate.le p'.rate = true ∧ s' ≤ s) ∧
      (n = n' → goal = goal' → t ≤ t' →
        p'.rate.le p.rate = true ∧ s ≤ s' ∧ p'.completed = p.completed) ∧
      (n = n' → t = t' → goal ≤ goal' →
        p'.completed.le p.completed = true ∧ s ≤ s' ∧ p'.rate = p.rate) := by
  obtain ⟨goal, n, t, hrun, hp, haccount⟩ := exists_account h
  obtain ⟨goal', n', t', hrun', hp', haccount'⟩ := exists_account h'
  refine ⟨goal, goal', n, n', t, t', _, _, haccount, haccount', ?_, ?_, ?_⟩
  · rintro rfl rfl hmore
    exact ⟨hp.completed_le hrun hrun' hp' hmore le_rfl, hp.rate_le hrun hrun' hp' hmore le_rfl,
      millis_timeLeft_le hrun' hrun hmore le_rfl le_rfl⟩
  · rintro rfl rfl hlonger
    exact ⟨hp'.rate_le hrun' hrun hp le_rfl hlonger,
      millis_timeLeft_le hrun hrun' le_rfl hlonger le_rfl, hp'.completed.trans hp.completed.symm⟩
  · rintro rfl rfl hhigher
    have htip := Int64.le_iff_toInt_le.mp hhigher
    exact ⟨hp'.completed_le hrun' hrun hp le_rfl htip,
      millis_timeLeft_le hrun hrun' le_rfl le_rfl htip, hp'.rate.trans hp.rate.symm⟩

/-- A run one block from its tip beside one that is far from it: what is left is written in other
units, and says less. -/
theorem compute_directed_near_tip :
    let source (blocks : Int) : CounterSource := fun counter _ =>
      .ok (match counter with | .blocks => blocks | .orphans => 10 | _ => 50)
    ∃ p p' : SyncProgress,
      (compute (.ok 1100) (source 110)).result = some p ∧ p.timeRemaining = "8m20s" ∧
      (compute (.ok 1100) (source 1109)).result = some p' ∧ p'.timeRemaining = "45ms" ∧
      p.completed.le p'.completed = true ∧ p.rate.le p'.rate = true ∧
      ∃ s s', p.secondsLeft? = some s ∧ p'.secondsLeft? = some s' ∧ s' ≤ s := by
  intro source
  have hfar : (compute (.ok 1100) (source 110)).result.map timeRemaining = some "8m20s" := by
    decide +kernel
  have hnear : (compute (.ok 1100) (source 1109)).result.map timeRemaining = some "45ms" := by
    decide +kernel
  obtain ⟨p, hp, hfar⟩ := Option.map_eq_some_iff.mp hfar
  obtain ⟨p', hp', hnear⟩ := Option.map_eq_some_iff.mp hnear
  obtain ⟨goal, goal', n, n', t, t', s, s', haccount, haccount', hmore, -, -⟩ :=
    compute_directed (.ok 1100) (.ok 1100) (source 110) (source 1109) {} {} hp hp'
  obtain ⟨⟨⟩, ⟨b, o, ⟨⟩, ⟨⟩, rfl⟩, ⟨⟩, -, -, -, hs⟩ := haccount
  obtain ⟨⟨⟩, ⟨b', o', ⟨⟩, ⟨⟩, rfl⟩, ⟨⟩, -, -, -, hs'⟩ := haccount'
  obtain ⟨hcompleted, hrate, hleft⟩ := hmore rfl rfl (by decide)
  exact ⟨p, p', hp, hfar, hp', hnear, hcompleted, hrate, s, s', hs, hs', hleft⟩

end SyncProgress
end LedgerCheck
