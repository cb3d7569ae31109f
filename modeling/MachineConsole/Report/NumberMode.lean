import MachineConsole.Fault
import MachineConsole.Number.Numeral
import MachineConsole.Value.Basic

/-!
Contract: how integers are shown.

Owns: `NumberMode`, its names, and the text of an integer of a given kind in each mode.
-/

namespace MachineConsole

/-- How integer results are shown. -/
inductive NumberMode where
  | hexadecimal
  | decimal
  | both
deriving DecidableEq, Repr

namespace NumberMode

def all : List NumberMode :=
  [.hexadecimal, .decimal, .both]

def name : NumberMode → String
  | .hexadecimal => "Hexadecimal"
  | .decimal => "Decimal"
  | .both => "Both"

/-- The mode with a name, in any letter case. -/
def ofName? (name : String) : Except Fault NumberMode :=
  match all.find? fun mode => Text.sameIgnoringCase mode.name name with
  | some mode => .ok mode
  | none => .error (.settings (.unknownNumberMode name))

/-- The bits of an integer that its kind stores. -/
def storedBits (value : Int64) (kind : IntKind) : Nat :=
  value.toUInt64.toNat % Number.twoTo (8 * kind.bytes)

/-- An integer in decimal; 64 unsigned bits are read as such. -/
def decimalText (value : Int64) (kind : IntKind) : String :=
  if kind = .u64 then toString value.toUInt64.toNat else toString value.toInt

/-- The bits of an integer at the full width of its kind. -/
def hexText (value : Int64) (kind : IntKind) : String :=
  "0x" ++ String.ofList (Number.hexAtWidth (2 * kind.bytes) (storedBits value kind))

/-- The text of an integer in a mode. -/
def intText (mode : NumberMode) (value : Int64) (kind : IntKind) : String :=
  match mode with
  | .hexadecimal => hexText value kind
  | .decimal => decimalText value kind
  | .both => hexText value kind ++ " (" ++ decimalText value kind ++ ")"

mutual

/-- The text of a value on one line. -/
def valueText (mode : NumberMode) (labels : Labels) (type : ValueType) : Value → String
  | .int value => mode.intText value type.shownKind
  | .enum spec value => spec.describe value
  | .list items => "[" ++ Text.join ", " (itemTexts mode labels type items) ++ "]"
  | .range first last =>
    "<" ++ mode.intText first.toInt64 .u64 ++ ", " ++ mode.intText last.toInt64 .u64 ++ ">"
  | value => value.display labels

/-- The texts of items. -/
def itemTexts (mode : NumberMode) (labels : Labels) (type : ValueType) : List Value → List String
  | [] => []
  | item :: items => valueText mode labels type item :: itemTexts mode labels type items

end

end NumberMode

end MachineConsole
