import LedgerCheck.Counter
import LedgerCheck.Json.Printer
import LedgerCheck.Text.Blank
/-!
# Counter snapshots

A copy of the counters, taken at one moment, with the reconciliation coverage if it was known.
A counter that was never set reads as uninitialized.

* `Snapshot` — the copy; `Snapshot.set` and `Snapshot.withCoverage` write one slot each.
* `Snapshot.read` — the snapshot that a JSON text describes: an object whose values are integers,
  or strings of decimal digits for counters beyond 64 bits.
* `decimalInteger?` — the integer that such a string writes.
-/

namespace LedgerCheck

/-- A copy of the counters and of the reconciliation coverage. -/
structure Snapshot where
  value : Counter → Option Int
  coverage : Option Binary64

namespace Snapshot

/-- The snapshot in which nothing is set. -/
def empty : Snapshot := ⟨fun _ => none, none⟩

/-- Sets one counter. -/
def set (s : Snapshot) (counter : Counter) (value : Int) : Snapshot :=
  { s with value := fun c => if c = counter then some value else s.value c }

/-- Sets the coverage. -/
def withCoverage (s : Snapshot) (coverage : Binary64) : Snapshot :=
  { s with coverage := some coverage }

/-- One counter of a snapshot. -/
def get (s : Snapshot) (counter : Counter) : Except SourceError Int :=
  match s.value counter with
  | some value => .ok value
  | none => .error (.uninitialized counter)

/-- A snapshot as a source: every read of a counter gets the same reply. -/
def source (s : Snapshot) : CounterSource := fun counter _ => s.get counter

/-- The coverage of a snapshot as a source, if it has one. -/
def coverageSource (s : Snapshot) : Option CoverageSource := s.coverage.map .ok

end Snapshot

/-! ## Decimal integers -/

/-- Digits that may be grouped by underscores, except in front. -/
def groupedDigits? (cs : List Char) : Option Nat :=
  match cs with
  | [] => none
  | '_' :: _ => none
  | cs =>
    if cs.all fun c => c.isDigit || c == '_' then
      some (Digits.decimal (cs.filter Char.isDigit))
    else none

/-- An optional sign and grouped digits. -/
def signedDigits? : List Char → Option Int
  | '-' :: cs => (groupedDigits? cs).map fun n => -(n : Int)
  | '+' :: cs => (groupedDigits? cs).map fun n => (n : Int)
  | cs => (groupedDigits? cs).map fun n => (n : Int)

/-- The decimal integer that a string writes, blanks around it aside. -/
def decimalInteger? (s : String) : Option Int := signedDigits? (trimBlanks s.toList)

/-! ## Reading a snapshot -/

/-- Why a text does not describe a snapshot. -/
inductive SnapshotError where
  | notJson
  | notObject
  | coverageNotNumber
  | unknownCounter (name : String)
  | notInteger (name : String) (value : JsonNumber)
  | notDecimal (name : String)
  | notCount (name : String) (value : Json)
  | negative (name : String)

namespace SnapshotError

/-- What is wrong with a counter's value. -/
def invalidValue (name detail : String) : String :=
  "invalid value for counter '" ++ name ++ "': " ++ detail

/-- The wording of the error. -/
def message : SnapshotError → String
  | notJson => "counter snapshot must be valid JSON"
  | notObject => "counter snapshot must be a JSON object"
  | coverageNotNumber => "reconciliation_coverage must be a number"
  | unknownCounter name => "unknown counter '" ++ name ++ "'"
  | notInteger name value =>
    invalidValue name ("expected an integer, got " ++ (Json.number value).compact)
  | notDecimal name => invalidValue name "expected a decimal integer string"
  | notCount name value =>
    invalidValue name ("expected an integer or decimal string, got " ++ value.compact)
  | negative name => "counter '" ++ name ++ "' must not be negative"

end SnapshotError

namespace Snapshot

/-- The field of a snapshot document that holds the coverage. -/
def coverageName : String := "reconciliation_coverage"

/-- The integer given for a counter. -/
def counterValue (name : String) : Json → Except SnapshotError Int
  | .number (.int i) => .ok i
  | .number n => .error (.notInteger name n)
  | .string s =>
    match decimalInteger? s with
    | some i => .ok i
    | none => .error (.notDecimal name)
  | v => .error (.notCount name v)

/-- Takes one field of the document into the snapshot. -/
def addField (s : Snapshot) (name : String) (value : Json) : Except SnapshotError Snapshot :=
  if name = coverageName then
    match value with
    | .number (.int i) => .ok (s.withCoverage (Binary64.ofInt i))
    | .number (.float x) => .ok (s.withCoverage x)
    | _ => .error .coverageNotNumber
  else
    match Counter.ofName? name with
    | none => .error (.unknownCounter name)
    | some counter =>
      match counterValue name value with
      | .error e => .error e
      | .ok i => if i < 0 then .error (.negative name) else .ok (s.set counter i)

/-- Takes the fields of the document in their order, up to the first offending one. -/
def addFields (s : Snapshot) : List (String × Json) → Except SnapshotError Snapshot
  | [] => .ok s
  | (name, value) :: rest =>
    match s.addField name value with
    | .error e => .error e
    | .ok s => s.addFields rest

/-- The snapshot that a value describes. -/
def ofJson : Json → Except SnapshotError Snapshot
  | .object fields => empty.addFields fields
  | _ => .error .notObject

/-- The snapshot that a text describes. -/
def read (text : String) : Except SnapshotError Snapshot :=
  match Json.read? text with
  | some v => ofJson v
  | none => .error .notJson

end Snapshot
end LedgerCheck
