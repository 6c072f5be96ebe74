import LedgerCheck.RunResult
import LedgerCheck.Table
/-!
# The result on a console

A banner for the error or the end condition, then the tables of tests and statistics, as far as the
report has them.  On a terminal with colours an error is red and a success green.

* `Colour.paint` — a coloured text; inner resets are followed by the colour again.
* `TestSuite.table`, `Stats.table` — the tables.
* `RunResult.render` — the whole report.
-/

namespace LedgerCheck

/-! ## Colours -/

/-- A colour of a banner. -/
inductive Colour where
  | red
  | green
deriving DecidableEq, Repr

namespace Colour

/-- The sequence that switches the colour on. -/
def opening : Colour → List Char
  | red => ['\x1b', '[', '3', '1', 'm']
  | green => ['\x1b', '[', '3', '2', 'm']

/-- The sequence that switches all colours off. -/
def reset : List Char := ['\x1b', '[', '0', 'm']

/-- Switches the colour on again after each reset inside a text. -/
def reopen (colour : Colour) : List Char → List Char
  | '\x1b' :: '[' :: '0' :: 'm' :: rest => reset ++ colour.opening ++ reopen colour rest
  | c :: rest => c :: reopen colour rest
  | [] => []

/-- A text in a colour. -/
def paint (colour : Colour) (text : String) : String :=
  String.ofList (colour.opening ++ colour.reopen text.toList ++ reset)

end Colour

/-! ## Tables -/

namespace TestSuite

/-- The table of the tests. -/
def table (t : TestSuite) : String :=
  Table.render ["check:data Tests", "Description", "Status"]
    (t.rows.map fun (name, description, verdict) => [name, description, verdict.label])

end TestSuite

namespace Stats

/-- The table of the statistics. -/
def table (s : Stats) : String :=
  Table.render ["check:data Stats", "Description", "Value"]
    (s.rows.map fun (name, description, value) => [name, description, value])

end Stats

/-! ## The report -/

namespace RunResult

/-- A banner on a line of its own. -/
def banner (coloured : Bool) (colour : Colour) (text : String) : String :=
  "\n" ++ (if coloured then colour.paint text else text) ++ "\n"

/-- The report as it is printed. -/
def render (coloured : Bool) (r : RunResult) : String :=
  let error := match r.error with
    | some e => banner coloured .red ("Error: " ++ e)
    | none => ""
  let success := match r.endCondition with
    | some e => banner coloured .green ("Success: " ++ e.kind.name ++ " [" ++ e.detail ++ "]")
    | none => ""
  let tests := match r.tests with
    | some t => t.table ++ "\n\n"
    | none => ""
  let stats := match r.stats with
    | some s => s.table ++ "\n\n"
    | none => ""
  error ++ success ++ "\n" ++ tests ++ stats

end RunResult
end LedgerCheck
