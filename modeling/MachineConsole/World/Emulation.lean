import MachineConsole.World.Machine

/-!
Contract: emulations, the sets of machines and externals that are replaced as a whole.

Owns:
- adding, removing and finding machines, whose names are distinct;
- the name of a machine made without one;
- externals by name;
- `Manager`, which knows the current emulation and counts replacements.
-/

namespace MachineConsole

/-- Machines in the order in which they were added, and objects outside any machine. -/
structure Emulation where
  machines : List MachineHandle
  externals : Std.TreeMap String ObjectRef

namespace Emulation

def blank : Emulation := ⟨[], ∅⟩

/-- Whether a machine of this name is present. -/
def hasMachine (emulation : Emulation) (name : String) : Bool :=
  emulation.machines.any fun machine => machine.name == name

/-- Adds a machine with a new name. -/
def addMachine (emulation : Emulation) (machine : MachineHandle) : Except Refusal Emulation :=
  if emulation.hasMachine machine.name then .error (.machineExists machine.name)
  else .ok { emulation with machines := emulation.machines ++ [machine] }

/-- The name that is made for the `count`-th machine without one. -/
def generatedName (count : Nat) : String :=
  "machine-" ++ toString count

/-- The first generated name that is free. Among one more name than there are machines, one is. -/
def freshName (emulation : Emulation) : String :=
  (((List.range (emulation.machines.length + 1)).map generatedName).find? fun name =>
    !emulation.hasMachine name).getD ""

def machine? (emulation : Emulation) (name : String) : Option MachineHandle :=
  emulation.machines.find? fun machine => machine.name == name

/-- Removes the machine of this name; the others keep their order. -/
def removeMachine (emulation : Emulation) (name : String) :
    Except Refusal (MachineHandle × Emulation) :=
  match emulation.machine? name with
  | none => .error (.noSuchMachine name)
  | some machine =>
    .ok (machine,
      { emulation with machines := emulation.machines.eraseP fun other => other.name == name })

def machineNames (emulation : Emulation) : List String :=
  emulation.machines.map MachineHandle.name

/-- The scopes of the machines. -/
def scopeNames (emulation : Emulation) : List String :=
  emulation.machines.map fun machine => scopeName machine.name

/-- Adds an object under a name that no other external has. -/
def addExternal (emulation : Emulation) (name : String) (object : ObjectRef) :
    Except Refusal Emulation :=
  if emulation.externals.contains name then .error (.externalExists name)
  else .ok { emulation with externals := emulation.externals.insert name object }

def removeExternal (emulation : Emulation) (name : String) : Emulation :=
  { emulation with externals := emulation.externals.erase name }

end Emulation

/-- The emulation in use, by its place in the world, and how often it was replaced. -/
structure Manager where
  current : Nat
  generation : Nat
deriving DecidableEq, Repr

end MachineConsole
