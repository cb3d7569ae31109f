import MachineConsole.Path.FileTree
import MachineConsole.World.Bus
import MachineConsole.World.Emulation
import MachineConsole.World.Journal

/-!
Contract: everything outside the console that it can observe or change.

Owns:
- `World`: the state of all objects, the files, the source of remote files and the journal;
- reading and changing objects through their references;
- creation of machines, emulations and devices;
- labels of objects;
- `Act`, an action on the world that may fail; what it changed before it failed stays changed.

References to objects that were never created read as blank ones.
-/

namespace MachineConsole

/-- A device: the label it is shown by and the values it stores. -/
structure Device where
  label : String
  cells : Std.TreeMap String Value

/-- The state of everything around the console. -/
structure World where
  managers : Array Manager
  emulations : Array Emulation
  machines : Array Machine
  buses : Array Bus
  devices : Array Device
  files : FileTree
  /-- Asks for a remote resource and returns the path of a local copy. The answer may depend on what
  the journal had in it before, and so on earlier requests. -/
  fetcher : List Event → String → Except Fault String
  journal : List Event

/-- An action on the world that may fail. -/
abbrev Act := ExceptT Fault (StateM World)

namespace World

/-- A world without objects, in which a request for a remote resource is answered the same way each
time. -/
def create (files : FileTree) (fetcher : String → Except Fault String) : World :=
  { managers := #[]
    emulations := #[]
    machines := #[]
    buses := #[]
    devices := #[]
    files := files
    fetcher := fun _ => fetcher
    journal := [] }

def record (world : World) (event : Event) : World :=
  { world with journal := world.journal ++ [event] }

def manager (world : World) (index : Nat) : Manager :=
  world.managers[index]?.getD ⟨0, 0⟩

def emulation (world : World) (index : Nat) : Emulation :=
  world.emulations[index]?.getD Emulation.blank

def machine (world : World) (handle : MachineHandle) : Machine :=
  world.machines[handle.index]?.getD (Machine.create handle.name (.bus 0))

def bus (world : World) (index : Nat) : Bus :=
  world.buses[index]?.getD Bus.blank

def device (world : World) (index : Nat) : Device :=
  world.devices[index]?.getD ⟨"<object>", ∅⟩

def updateEmulation (world : World) (index : Nat) (change : Emulation → Emulation) : World :=
  { world with emulations := world.emulations.modify index change }

def updateMachine (world : World) (handle : MachineHandle) (change : Machine → Machine) : World :=
  { world with machines := world.machines.modify handle.index change }

def updateBus (world : World) (index : Nat) (change : Bus → Bus) : World :=
  { world with buses := world.buses.modify index change }

def updateDevice (world : World) (index : Nat) (change : Device → Device) : World :=
  { world with devices := world.devices.modify index change }

/-- The emulation a manager has in use. -/
def currentEmulation (world : World) (manager : Nat) : Emulation :=
  world.emulation (world.manager manager).current

/-- The members of a group of a machine. -/
def groupMembers (world : World) (owner : MachineHandle) (name : String) :
    List (String × ObjectRef) :=
  (world.machine owner).groups[name]?.getD []

/-- The text an object is shown by. -/
def label (world : World) : ObjectRef → String
  | .manager _ => "EmulationManager"
  | .emulation index =>
    "emulation with " ++ toString (world.emulation index).machines.length ++ " machine(s)"
  | .machine handle => handle.name
  | .bus _ => Machine.rootName
  | .group _ name => name
  | .device _ index => (world.device index).label

/-- A new bus. -/
def createBus (world : World) : ObjectRef × World :=
  (.bus world.buses.size, { world with buses := world.buses.push Bus.blank })

/-- A new machine with a bus of its own, in no emulation yet. -/
def createMachine (world : World) (name : String) : MachineHandle × World :=
  let (bus, world) := world.createBus
  (⟨world.machines.size, name⟩,
    { world with machines := world.machines.push (Machine.create name bus) })

/-- A new emulation, not in use yet. -/
def createEmulation (world : World) (emulation : Emulation) : Nat × World :=
  (world.emulations.size, { world with emulations := world.emulations.push emulation })

/-- A new manager with an empty emulation in use. -/
def createManager (world : World) : Nat × World :=
  let (current, world) := world.createEmulation Emulation.blank
  (world.managers.size, { world with managers := world.managers.push ⟨current, 0⟩ })

/-- A new device of a model. -/
def createDevice (world : World) (model : String) (device : Device) : ObjectRef × World :=
  (.device model world.devices.size, { world with devices := world.devices.push device })

/-- Creates a machine in an emulation; without a name it gets a generated one. -/
def addNewMachine (world : World) (emulation : Nat) (name? : Option String) :
    Except Refusal (MachineHandle × World) :=
  let present := world.emulation emulation
  let name := name?.getD present.freshName
  if present.hasMachine name then .error (.machineExists name)
  else
    let (handle, world) := world.createMachine name
    match present.addMachine handle with
    | .error cause => .error cause
    | .ok extended => .ok (handle, world.updateEmulation emulation fun _ => extended)

/-- Puts another emulation into use and counts the replacement. -/
def replaceEmulation (world : World) (manager : Nat) (emulation : Emulation) : World :=
  let (current, world) := world.createEmulation emulation
  { world with
    managers := world.managers.modify manager fun state => ⟨current, state.generation + 1⟩ }

/-- Every machine of an emulation paused or set running. -/
def setAllPaused (world : World) (emulation : Nat) (paused : Bool) : World :=
  (world.emulation emulation).machines.foldl
    (fun world handle => world.updateMachine handle fun machine =>
      { machine with paused := paused }) world

/-- Asks for a remote resource. -/
def fetch (uri : String) : Act String := do
  let world ← get
  set (world.record (.fetched uri))
  match world.fetcher world.journal uri with
  | .ok path => return path
  | .error fault => throw fault

end World

namespace Act

/-- A refusal as the failure of an action. -/
def refuse {α : Type} (cause : Refusal) : Act α :=
  throw (.refused cause)

/-- The outcome of a change that may be refused. -/
def ofRefusal {α : Type} : Except Refusal α → Act α
  | .ok value => pure value
  | .error cause => refuse cause

end Act

end MachineConsole
