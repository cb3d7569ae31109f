import MachineConsole.Text.Pieces

/-!
Contract: rows of cells drawn with borders.

Owns: `TableText.lines`. The first row is the header; every column is as wide as its widest cell,
and cells that a row lacks are blank.
-/

namespace MachineConsole.TableText

/-- The greatest of some numbers. -/
def greatest (numbers : List Nat) : Nat :=
  numbers.foldl max 0

/-- The number of columns of the longest row. -/
def columnCount (rows : List (List String)) : Nat :=
  greatest (rows.map List.length)

/-- The cell of a row in a column. -/
def cell (row : List String) (column : Nat) : String :=
  row[column]?.getD ""

/-- The width of the widest cell in a column. -/
def columnWidth (rows : List (List String)) (column : Nat) : Nat :=
  greatest (rows.map fun row => (cell row column).length)

def columnWidths (rows : List (List String)) : List Nat :=
  (List.range (columnCount rows)).map (columnWidth rows)

/-- The border above, below and under the header. -/
def border (widths : List Nat) : String :=
  "-" ++ Text.join "-" (widths.map fun width => Text.repeated "-" (width + 2)) ++ "-"

/-- A row with its cells padded to the widths of their columns. -/
def rowLine (widths : List Nat) (row : List String) : String :=
  let cells := widths.zipIdx.map fun item =>
    " " ++ Text.padRight item.1 (cell row item.2) ++ " "
  "|" ++ Text.join "|" cells ++ "|"

/-- The lines of a table; none when there is no cell. -/
def lines : List (List String) → List String
  | [] => []
  | header :: body =>
    let widths := columnWidths (header :: body)
    if widths.isEmpty then []
    else
      [border widths, rowLine widths header, border widths] ++ body.map (rowLine widths) ++
        [border widths]

end MachineConsole.TableText
