import MachineConsole.World.Basic

/-!
Contract: the values that devices store.

Owns: reading and storing the cells of a device as actions, and the references to devices of one
model.
-/

namespace MachineConsole

/-- The place of a device of a model. -/
def ObjectRef.deviceOf? (model : String) : ObjectRef → Option Nat
  | .device other index => if other = model then some index else none
  | _ => none

namespace Device

/-- The value in a cell of a device. -/
def load (index : Nat) (cell : String) : Act (Option Value) :=
  return ((← get).device index).cells[cell]?

/-- Puts a value into a cell of a device. -/
def store (index : Nat) (cell : String) (value : Value) : Act Unit :=
  modify fun world => world.updateDevice index fun device =>
    { device with cells := device.cells.insert cell value }

/-- Changes the label of a device. -/
def relabel (index : Nat) (label : String) : Act Unit :=
  modify fun world => world.updateDevice index fun device => { device with label := label }

end Device

end MachineConsole
