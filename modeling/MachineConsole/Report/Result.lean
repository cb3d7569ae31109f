import MachineConsole.Member.Action
import MachineConsole.Report.NumberMode
import MachineConsole.Report.Table

/-!
Contract: how the result of an action is printed.

Owns: `ActionResult.lines`. An enumeration value is followed by the possible names, lists stand
between brackets on lines of their own, maps have aligned keys, tables have borders, and a missing
value prints nothing.
-/

namespace MachineConsole.ActionResult

/-- The lines of a map, with the values in one column. -/
def mapLines (mode : NumberMode) (labels : Labels) (rows : List (String × Value)) : List String :=
  let width := TableText.greatest (rows.map fun row => row.1.length)
  rows.map fun row =>
    Text.padRight width row.1 ++ " : " ++ mode.valueText labels .any row.2

/-- The lines that show a result. -/
def lines (mode : NumberMode) (labels : Labels) (result : ActionResult) : List String :=
  match result.value with
  | .null => []
  | .enum spec value =>
    [spec.describe value, "", "Possible values are:"] ++
      spec.members.map (fun member => "\t" ++ member.1) ++ [""]
  | .list items =>
    ["[", Text.join ", " (items.map (mode.valueText labels result.type)), "]"]
  | .map rows => mapLines mode labels rows
  | .table rows => TableText.lines rows
  | value => [mode.valueText labels result.type value]

end MachineConsole.ActionResult
