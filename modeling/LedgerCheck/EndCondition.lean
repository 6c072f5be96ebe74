import LedgerCheck.Json.Record
/-!
# End conditions

Why a run stopped of its own accord: it reached the tip, a block index, a duration or a
reconciliation coverage that it was told to stop at.
-/

namespace LedgerCheck

/-- What a run was told to stop at. -/
inductive EndConditionKind where
  | tip
  | index
  | duration
  | reconciliationCoverage
deriving DecidableEq, Repr

namespace EndConditionKind

/-- Every kind. -/
def all : List EndConditionKind := [tip, index, duration, reconciliationCoverage]

/-- The name of a kind, in documents and in banners. -/
def name : EndConditionKind → String
  | tip => "tip"
  | index => "index"
  | duration => "duration"
  | reconciliationCoverage => "reconciliation_coverage"

/-- The kind with a given name. -/
def ofName? (s : String) : Option EndConditionKind := all.find? (·.name == s)

end EndConditionKind

/-- The condition that ended a run. -/
structure EndCondition where
  kind : EndConditionKind
  detail : String
deriving DecidableEq, Repr

namespace EndCondition

/-- The document of an end condition. -/
def toJson (e : EndCondition) : Json :=
  .object [("type", .string e.kind.name), ("detail", .string e.detail)]

/-- The fields of an end condition; both have to be given. -/
def record : Record := ⟨["type", "detail"], 2, false⟩

/-- The end condition that a document describes. -/
def ofDocument? (d : Document) : Option EndCondition := do
  match ← record.ofDocument? d with
  | [some kind, some detail] =>
    some ⟨← kind.alternative?.bind EndConditionKind.ofName?, ← detail.string?⟩
  | _ => none

/-- The end condition that a text describes. -/
def read? (text : String) : Option EndCondition := (Document.read? text).bind ofDocument?

end EndCondition
end LedgerCheck
