/-!
Contract: sets of characters given as lists of code point ranges.

Owns: `Ranges`, membership, and nothing about any particular property.
-/

namespace MachineConsole.Text

/-- Code point ranges, both ends included. -/
abbrev Ranges := List (Nat × Nat)

/-- Whether a code point lies in one of the ranges. -/
def Ranges.contains (ranges : Ranges) (code : Nat) : Bool :=
  ranges.any fun range => range.1 ≤ code && code ≤ range.2

end MachineConsole.Text
