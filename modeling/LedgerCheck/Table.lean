/-!
# Tables

A table of texts, drawn with `+`, `-` and `|`: a border above and below every row, columns as wide
as their widest cell, cells to the left with a blank on each side.
-/

namespace LedgerCheck
namespace Table

/-- The width of each column of rows that have `columns` cells. -/
def widths (columns : Nat) (rows : List (List String)) : List Nat :=
  (List.range columns).map fun i =>
    rows.foldl (fun width row => max width (row[i]?.getD "").length) 0

/-- The border between rows. -/
def border (widths : List Nat) : String :=
  "+" ++ String.join (widths.map fun width =>
    String.ofList (List.replicate (width + 2) '-') ++ "+")

/-- A cell padded to its column. -/
def cell (text : String) (width : Nat) : String :=
  " " ++ text ++ String.ofList (List.replicate (width - text.length) ' ') ++ " |"

/-- A row between its bars. -/
def line (widths : List Nat) (row : List String) : String :=
  "|" ++ String.join (List.zipWith cell row widths)

/-- A header and rows as a table, without a line break at its end. -/
def render (header : List String) (rows : List (List String)) : String :=
  let widths := widths header.length (header :: rows)
  let body := (header :: rows).map fun row => line widths row ++ "\n" ++ border widths
  "\n".intercalate (border widths :: body)

end Table
end LedgerCheck
