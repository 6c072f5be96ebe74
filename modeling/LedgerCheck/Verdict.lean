import LedgerCheck.Json.Record
/-!
# Verdicts

A test failed, or it passed, or the part of the run that it covers was never exercised.  In a
document a verdict is an optional boolean, and a test that was not run has no field at all.
-/

namespace LedgerCheck

/-- The outcome of a test. -/
inductive Verdict where
  | notTested
  | passed
  | failed
deriving DecidableEq, Repr

namespace Verdict

/-- The verdict on a test: a failure counts even if the test was never exercised. -/
def evaluate (failing exercised : Bool) : Verdict :=
  if failing then .failed else if exercised then .passed else .notTested

/-- The verdict of a test that is always run. -/
def ofBool (b : Bool) : Verdict := if b then .passed else .failed

/-- The verdict that an optional boolean stands for. -/
def ofOption : Option Bool → Verdict
  | none => notTested
  | some b => ofBool b

/-- The verdict as an optional boolean. -/
def toOption : Verdict → Option Bool
  | notTested => none
  | passed => some true
  | failed => some false

/-- The verdict in capitals, as tables show it. -/
def label : Verdict → String
  | notTested => "NOT TESTED"
  | passed => "PASSED"
  | failed => "FAILED"

/-- The verdict as a value of its own. -/
def toJson (v : Verdict) : Json :=
  match v.toOption with
  | some b => .bool b
  | none => .null

/-- The field of a verdict under a name; a test that was not run has none. -/
def toField (name : String) (v : Verdict) : List (String × Json) :=
  match v.toOption with
  | some b => [(name, .bool b)]
  | none => []

/-- The verdict in a field that may be absent or null. -/
def ofField? (field : Option Document) : Option Verdict :=
  (Document.optional Document.bool? field).map ofOption

end Verdict
end LedgerCheck
