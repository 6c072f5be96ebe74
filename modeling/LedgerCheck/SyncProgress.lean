import LedgerCheck.Journal
import LedgerCheck.Duration
/-!
# Progress towards the tip

How far a run has come and how long it will take to reach the remote tip.  Everything is computed
in exact rationals, and only the figures that are shown are rounded.  No progress is reported where
it is too early to say: no block was processed, orphans cancel all of them, the tip is reached, or
no time has passed.

* `SyncProgress` — the figures.
* `SyncProgress.estimate` — the figures, from counters that passed every check.
* `SyncProgress.compute` — the checks and the figures.
-/

namespace LedgerCheck

/-- An estimate of how far a run has come. -/
structure SyncProgress where
  /-- Blocks processed less blocks orphaned. -/
  blocks : Int64
  /-- Index of the remote tip. -/
  tip : Int64
  /-- Percentage of the tip that is synced. -/
  completed : Binary64
  /-- Blocks per second. -/
  rate : Binary64
  /-- Time until the tip is reached. -/
  timeRemaining : String
deriving DecidableEq, Repr

namespace SyncProgress

open Observing

/-! ## The estimate -/

/-- A ratio of integers; a ratio over zero is refused. -/
def ratio (n d : Int) : Except EstimateFault Rat :=
  if d = 0 then .error .zeroDenominator else .ok (n / d)

/-- A count divided by a rate; a rate of zero is refused. -/
def atRate (n : Int) (rate : Rat) : Except EstimateFault Rat :=
  if rate = 0 then .error .zeroRate else .ok (n / rate)

/-- A count that has to fit 64 bits. -/
def int64 (n : Int) : Except EstimateFault Int64 :=
  if -Int.pow 2 63 ≤ n ∧ n < Int.pow 2 63 then .ok (Int64.ofInt n)
  else .error (.blocksOutOfRange n)

/-- The figures, given the canonical blocks, the seconds passed and the tip. -/
def estimate (adjusted elapsed : Int) (tip : Int64) : Except EstimateFault SyncProgress := do
  let rate ← ratio adjusted elapsed
  let share ← ratio adjusted tip.toInt
  let secondsLeft ← atRate (tip.toInt - adjusted) rate
  let blocks ← int64 adjusted
  return {
    blocks
    tip
    completed := Binary64.ofRat (share * 100)
    rate := Binary64.ofRat rate
    timeRemaining := Duration.text secondsLeft }

/-! ## From counters -/

/-- The estimate for a run that is on its way, once some time has passed. -/
def ofElapsed (source : CounterSource) (tip : Int64) (adjusted : Int) :
    Observing (Option SyncProgress) := do
  match ← readOrWarn source .timeElapsed with
  | none => return none
  | some elapsed =>
    if elapsed ≤ 0 then return none
    else
      match estimate adjusted elapsed tip with
      | .ok progress => return some progress
      | .error fault =>
        note (.estimateFault fault)
        return none

/-- The progress of a run that has processed some blocks. -/
def ofBlocks (source : CounterSource) (tip : Int64) (blocks : Int) :
    Observing (Option SyncProgress) := do
  match ← readOrWarn source .orphans with
  | none => return none
  | some orphans =>
    let adjusted := blocks - orphans
    if adjusted ≤ 0 then
      note (.noCanonicalBlocks adjusted)
      return none
    else if tip.toInt - adjusted ≤ 0 then return none
    else ofElapsed source tip adjusted

/-- The progress towards a known tip. -/
def towards (source : CounterSource) (tip : Int64) : Observing (Option SyncProgress) := do
  match ← readOrWarn source .blocks with
  | none => return none
  | some blocks => if blocks = 0 then return none else ofBlocks source tip blocks

/-- The progress towards a tip, or towards one that could not be fetched for some reason. -/
def compute (tip : Except String Int64) (source : CounterSource) :
    Observing (Option SyncProgress) :=
  match tip with
  | .ok tip => towards source tip
  | .error reason => do
    note (.tipUnavailable reason)
    return none

/-! ## Documents -/

/-- The document of the progress. -/
def toJson (p : SyncProgress) : Json :=
  .object
    [("blocks", .ofInt p.blocks.toInt),
     ("tip", .ofInt p.tip.toInt),
     ("completed", .ofBinary64 p.completed),
     ("rate", .ofBinary64 p.rate),
     ("time_remaining", .string p.timeRemaining)]

/-- The fields of the progress; all of them have to be given. -/
def record : Record := ⟨["blocks", "tip", "completed", "rate", "time_remaining"], 5, false⟩

/-- The progress that a document describes. -/
def ofDocument? (d : Document) : Option SyncProgress := do
  match ← record.ofDocument? d with
  | [some blocks, some tip, some completed, some rate, some timeRemaining] =>
    some
      { blocks := ← blocks.int64?
        tip := ← tip.int64?
        completed := ← completed.binary64?
        rate := ← rate.binary64?
        timeRemaining := ← timeRemaining.string? }
  | _ => none

end SyncProgress
end LedgerCheck
