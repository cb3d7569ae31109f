/-!
Contract: references to the objects a console can act upon.

Owns:
- `MachineHandle` and `ObjectRef`, which identify objects: two references are equal exactly when
  they mean the same object;
- `TypeKey`, the concrete type behind a reference.

A machine never changes its name and a machine's groups are never replaced, so handles carry the
machine's name and groups are identified by machine and name.

Does not own: the state of objects, which is `MachineConsole.World`.
-/

namespace MachineConsole

/-- A machine, by its place in the world, with its name. -/
structure MachineHandle where
  index : Nat
  name : String
deriving DecidableEq, Repr

/-- The concrete type of an object; devices are told apart by their model. -/
inductive TypeKey where
  | manager
  | emulation
  | machine
  | bus
  | group
  | device (model : String)
deriving DecidableEq, Repr

/-- A reference to an object of the world. -/
inductive ObjectRef where
  | manager (index : Nat)
  | emulation (index : Nat)
  | machine (handle : MachineHandle)
  | bus (index : Nat)
  | group (owner : MachineHandle) (name : String)
  | device (model : String) (index : Nat)
deriving DecidableEq, Repr

/-- The concrete type of the object referred to. -/
def ObjectRef.typeKey : ObjectRef → TypeKey
  | .manager _ => .manager
  | .emulation _ => .emulation
  | .machine _ => .machine
  | .bus _ => .bus
  | .group _ _ => .group
  | .device model _ => .device model

end MachineConsole
