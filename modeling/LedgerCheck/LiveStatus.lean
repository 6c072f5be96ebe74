import LedgerCheck.RunResult
import LedgerCheck.SyncProgress
/-!
# The status of a running check

What a running check publishes about itself: its statistics so far and its progress towards the
tip.  Each of the two may be missing without the other.
-/

namespace LedgerCheck

/-- The status of a running check. -/
structure LiveStatus where
  stats : Option Stats := none
  progress : Option SyncProgress := none
deriving DecidableEq, Repr

namespace LiveStatus

open Observing

/-- The progress towards the tip.  A tip that could not be fetched is noted even without counters. -/
def progressTo (source : Option CounterSource) (tip : Except String Int64) :
    Observing (Option SyncProgress) :=
  match tip with
  | .error reason => do
    note (.tipUnavailable reason)
    return none
  | .ok tip =>
    match source with
    | none => return none
    | some source => SyncProgress.compute (.ok tip) source

/-- The status of a running check: progress first, then statistics, from reads of their own. -/
def compute (source : Option CounterSource) (coverage : Option CoverageSource)
    (tip : Except String Int64) : Observing LiveStatus := do
  let progress ← progressTo source tip
  let stats ← Stats.compute source coverage
  return { stats, progress }

/-! ## Documents -/

/-- The document of a status. -/
def toJson (s : LiveStatus) : Json :=
  .object <| RunResult.optionalField "stats" Stats.toJson s.stats ++
    RunResult.optionalField "progress" SyncProgress.toJson s.progress

/-- The fields of a status, each of which may be absent. -/
def record : Record := ⟨["stats", "progress"], 0, false⟩

/-- The status that a document describes. -/
def ofDocument? (d : Document) : Option LiveStatus := do
  match ← record.ofDocument? d with
  | [stats, progress] =>
    some
      { stats := ← Document.optional Stats.ofDocument? stats
        progress := ← Document.optional SyncProgress.ofDocument? progress }
  | _ => none

/-- The status that a text describes. -/
def read? (text : String) : Option LiveStatus := (Document.read? text).bind ofDocument?

/-- The text in which a status is shown. -/
def shownText (s : LiveStatus) : String := s.toJson.fileText

end LiveStatus
end LedgerCheck
