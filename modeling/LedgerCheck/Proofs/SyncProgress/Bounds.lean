import LedgerCheck.Proofs.SyncProgress
import LedgerCheck.Proofs.Binary64.Order

/-!
# Progress stays within its bounds

Nothing is asked of the counters before progress is computed from them, and the tip is never compared
with zero.  The checks that are made are enough: what was synced is positive and less than the tip, so
that neither of them is zero where it divides, and the blocks fit 64 bits because the tip does.

* `SyncProgress.IsBounded` — the bounds of the figures.
* `SyncProgress.Estimates.isBounded` — an estimate keeps them, as rounding is monotone.
* **`SyncProgress.compute_safe`** — no division fails, whatever the counters are.
-/

namespace LedgerCheck
namespace SyncProgress

open Observing

/-- **The figures are within their bounds**: some but not all blocks of the tip are synced, the share is
a percentage, and the rate is at most as many blocks as fit 64 bits in one second.  A share is never
rounded to zero, while a rate may be. -/
structure IsBounded (p : SyncProgress) : Prop where
  blocks_pos : 0 < p.blocks.toInt
  blocks_lt : p.blocks.toInt < p.tip.toInt
  completed_finite : p.completed.isFinite = true
  completed_pos : 0 < p.completed.toRat
  completed_le : p.completed.toRat ≤ 100
  rate_finite : p.rate.isFinite = true
  rate_nonneg : 0 ≤ p.rate.toRat
  rate_le : p.rate.toRat ≤ 2 ^ 63

section Rounded

open Binary64

/-- A share of a whole that fits 64 bits is rounded to a positive percentage. -/
lemma toRat_share {n d : Int} (hn : 0 < n) (hlt : n < d) (hbound : d < 2 ^ 63) :
    0 < (ofRat (100 * n / d)).toRat ∧ (ofRat (100 * n / d)).toRat ≤ 100 := by
  have hends : ((ofRat (1 / 2 ^ 63)).isFinite = true ∧ 0 < (ofRat (1 / 2 ^ 63)).toRat) ∧
      (ofRat 100).isFinite = true ∧ (ofRat 100).toRat = 100 := by
    decide +kernel
  obtain ⟨⟨hleast, hleast_pos⟩, hmost, hmost_eq⟩ := hends
  have hfinite := isFinite_share hn hlt
  have hn' : (1 : ℚ) ≤ n := by exact_mod_cast hn
  have hlt' : (n : ℚ) < d := by exact_mod_cast hlt
  have hbound' : (d : ℚ) < 2 ^ 63 := by exact_mod_cast hbound
  have hd' : (0 : ℚ) < d := by linarith
  constructor
  · refine hleast_pos.trans_le (toRat_ofRat_le hleast hfinite ?_)
    rw [div_le_div_iff₀ (by positivity) hd']
    nlinarith
  · refine (toRat_ofRat_le hfinite hmost ?_).trans_eq hmost_eq
    rw [div_le_iff₀ hd']
    linarith

/-- A rate of a count that fits 64 bits is rounded to one that does. -/
lemma toRat_rate {n d : Int} (hn : 0 < n) (hbound : n < 2 ^ 63) (hd : 0 < d) :
    0 ≤ (ofRat ((n : ℚ) / d)).toRat ∧ (ofRat ((n : ℚ) / d)).toRat ≤ 2 ^ 63 := by
  have hends : ((ofRat 0).isFinite = true ∧ (ofRat 0).toRat = 0) ∧
      (ofRat (2 ^ 63)).isFinite = true ∧ (ofRat (2 ^ 63)).toRat = 2 ^ 63 := by
    decide +kernel
  obtain ⟨⟨hzero, hzero_eq⟩, hmost, hmost_eq⟩ := hends
  have hfinite := isFinite_ratio hn hbound hd
  have hn' : (0 : ℚ) < n := by exact_mod_cast hn
  have hbound' : (n : ℚ) < 2 ^ 63 := by exact_mod_cast hbound
  have hd' : (1 : ℚ) ≤ d := by exact_mod_cast hd
  constructor
  · exact hzero_eq.symm.trans_le (toRat_ofRat_le hzero hfinite (by positivity))
  · refine (toRat_ofRat_le hfinite hmost ?_).trans_eq hmost_eq
    exact (div_le_self hn'.le hd').trans hbound'.le

end Rounded

/-- **An estimate is within its bounds.** -/
lemma Estimates.isBounded {p : SyncProgress} {goal : Int64} {canonical elapsed : Int}
    (h : p.Estimates goal canonical elapsed) (hcanonical : 0 < canonical)
    (hgoal : canonical < goal.toInt) (helapsed : 0 < elapsed) : p.IsBounded := by
  have hfinite := h.isFinite hcanonical hgoal helapsed
  have hshare := toRat_share hcanonical hgoal goal.toInt_lt
  have hrate := toRat_rate hcanonical (hgoal.trans goal.toInt_lt) helapsed
  rw [← h.completed] at hshare
  rw [← h.rate] at hrate
  exact
    { blocks_pos := h.blocks ▸ hcanonical
      blocks_lt := by rw [h.blocks, h.tip]; exact hgoal
      completed_finite := hfinite.1
      completed_pos := hshare.1
      completed_le := hshare.2
      rate_finite := hfinite.2
      rate_nonneg := hrate.1
      rate_le := hrate.2 }

namespace Course

variable {source : CounterSource} {tip : Int64} {before : List Counter}
  {value : Option SyncProgress} {reads : List Counter} {events : List Event}
  (h : Course source tip before value reads events)
include h

/-- No division fails on any course. -/
lemma not_estimateFault (fault : EstimateFault) : Event.estimateFault fault ∉ events := by
  cases h <;> simp

/-- Progress is within its bounds, and both of its rounded figures are what any conversion that rounds
to the nearest number makes of the exact ones. -/
lemma isBounded {p : SyncProgress} (hp : value = some p) :
    p.IsBounded ∧ p.tip = tip ∧
      ∃ elapsed, source.answer before .timeElapsed = .ok elapsed ∧ 0 < elapsed ∧
        ∀ convert, Binary64.RoundsToNearest convert →
          convert (100 * p.blocks.toInt / p.tip.toInt) = some p.completed ∧
            convert (p.blocks.toInt / elapsed) = some p.rate := by
  obtain ⟨b, o, t, -, -, ht, ⟨-, hcanonical, hgoal, helapsed⟩, hestimate⟩ := h.eq_some_iff.mp hp
  refine ⟨hestimate.isBounded hcanonical hgoal helapsed, hestimate.tip, t, ht, helapsed,
    fun convert hconvert => ?_⟩
  have hbound := hgoal.trans tip.toInt_lt
  rw [hestimate.completed, hestimate.rate, hestimate.blocks, hestimate.tip]
  exact
    ⟨hconvert.eq_some_ofRat (abs_share_lt hcanonical hgoal),
      hconvert.eq_some_ofRat (abs_ratio_lt hcanonical hbound helapsed)⟩

end Course

/-- **Computing the progress is safe for every tip and every source**: no ratio is over zero, no count
is divided by a rate of zero, and the blocks are never too many for 64 bits.  Where there is progress,
its figures are within their bounds, and no conversion that rounds to the nearest number fails on the
exact share and the exact rate, so that nothing is ever shown in their place. -/
theorem compute_safe (tip : Except String Int64) (source : CounterSource) (j : Journal) :
    let run := (compute tip source).run j
    (∃ events, run.2.events = j.events ++ events ∧
      ∀ fault, Event.estimateFault fault ∉ events) ∧
    ∀ p, run.1 = some p →
      p.IsBounded ∧ tip = .ok p.tip ∧
        ∃ elapsed, source.answer j.reads .timeElapsed = .ok elapsed ∧ 0 < elapsed ∧
          ∀ convert, Binary64.RoundsToNearest convert →
            convert (100 * p.blocks.toInt / p.tip.toInt) = some p.completed ∧
              convert (p.blocks.toInt / elapsed) = some p.rate := by
  intro run
  obtain ⟨value, reads, events, hrun, hcases⟩ := course_compute source j tip
  replace hrun : run = (value, j.extend (reads.map .counter) events) := hrun
  rw [hrun]
  rcases hcases with ⟨reason, rfl, rfl, rfl, rfl⟩ | ⟨goal, rfl, hcourse⟩
  · exact ⟨⟨_, rfl, by simp⟩, by simp⟩
  · refine ⟨⟨events, rfl, hcourse.not_estimateFault⟩, fun p hp => ?_⟩
    obtain ⟨hbounded, htip, hconverted⟩ := hcourse.isBounded hp
    exact ⟨hbounded, htip ▸ rfl, hconverted⟩

/-- Both upper bounds are reached, though by rounding only: all blocks but one in one second. -/
example :
    let source : CounterSource := fun counter _ =>
      match counter with
      | .blocks => .ok (2 ^ 63 - 2)
      | .timeElapsed => .ok 1
      | _ => .ok 0
    (compute (.ok Int64.maxValue) source).result.map (fun p => (p.completed, p.rate))
      = some (.ofInt 100, .ofInt (2 ^ 63)) := by
  decide +kernel

end SyncProgress
end LedgerCheck
