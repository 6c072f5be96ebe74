import LedgerCheck.CheckError
import LedgerCheck.EndCondition
/-!
# Run outcomes

How a run ended, as the part that ran it hands it over: with an error, with an end condition, or
with neither.

* `RunOutcome` — the outcome.
* `RunOutcome.read?` — the outcome that a text describes; it may still carry both parts.
-/

namespace LedgerCheck

/-- How a run ended. -/
structure RunOutcome where
  error : Option CheckError := none
  endCondition : Option EndCondition := none
deriving DecidableEq, Repr

namespace RunOutcome

/-- The fields of an outcome, each of which may be absent; there are no others. -/
def record : Record := ⟨["error", "end_condition"], 0, true⟩

/-- The outcome that a document describes. -/
def ofDocument? (d : Document) : Option RunOutcome := do
  match ← record.ofDocument? d with
  | [error, endCondition] =>
    some
      { error :=
          ← Document.optional (CheckError.ofDocumentWithin? (Document.depthLimit - 1)) error
        endCondition := ← Document.optional EndCondition.ofDocument? endCondition }
  | _ => none

/-- The outcome that a text describes. -/
def read? (text : String) : Option RunOutcome := (Document.read? text).bind ofDocument?

/-- An outcome with both parts contradicts itself. -/
def isContradictory (o : RunOutcome) : Bool := o.error.isSome && o.endCondition.isSome

end RunOutcome
end LedgerCheck
