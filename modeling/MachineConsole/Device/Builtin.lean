import MachineConsole.Member.Registry

/-!
Contract: the members of the objects that every console has.

Owns: the tables of managers, emulations, machines, system buses and groups of peripherals, and
`Registry.builtin`, which holds exactly these.
-/

namespace MachineConsole

namespace ObjectRef

def manager? : ObjectRef → Option Nat
  | .manager index => some index
  | _ => none

def emulation? : ObjectRef → Option Nat
  | .emulation index => some index
  | _ => none

def machine? : ObjectRef → Option MachineHandle
  | .machine handle => some handle
  | _ => none

def bus? : ObjectRef → Option Nat
  | .bus index => some index
  | _ => none

/-- The machine a group belongs to and its name. -/
def group? : ObjectRef → Option (MachineHandle × String)
  | .group owner name => some (owner, name)
  | _ => none

end ObjectRef

namespace Builtin

/-- The interface of everything in a peripheral tree. -/
def peripheralInterface : String := "IPeripheral"

/-- The interface of groups of peripherals. -/
def groupInterface : String := "IPeripheralsGroup"

/-- The version a manager reports. -/
def version : String := "0.1.0"

/-- A result read from the world. -/
def reading (read : World → Value) : Act Value :=
  return read (← get)

/-- A change of the world that returns nothing. -/
def effect (change : World → World) : Act Value := do
  modify change
  return .null

/-- Strings as a list value. -/
def stringList (texts : List String) : Value :=
  .list (texts.map .string)

/-- A count as a value. -/
def countValue (count : Nat) : Value :=
  .int (Int64.ofNat count)

def managerTable : MemberTable :=
  (TableBuilder.create "EmulationManager" ObjectRef.manager?)
    |>.method "Clear" [] .void (fun manager _ =>
      effect fun world => world.replaceEmulation manager Emulation.blank)
    |>.getter "CurrentEmulation" (.object (some "Emulation")) (fun manager =>
      reading fun world => .object (.emulation (world.manager manager).current))
    |>.getter "Version" .string (fun _ => return .string version)
    |>.build

def emulationTable : MemberTable :=
  (TableBuilder.create "Emulation" ObjectRef.emulation?)
    |>.getter "MachinesCount" (.int .i32) (fun emulation =>
      reading fun world => countValue (world.emulation emulation).machines.length)
    |>.method "GetMachineNames" [] (.array .string) (fun emulation _ =>
      reading fun world => stringList (world.emulation emulation).machineNames)
    |>.method "StartAll" [] .void (fun emulation _ =>
      effect fun world => world.setAllPaused emulation false)
    |>.method "PauseAll" [] .void (fun emulation _ =>
      effect fun world => world.setAllPaused emulation true)
    |>.build

/-- Sets whether a machine is paused. -/
def setPaused (machine : MachineHandle) (paused : Bool) : Act Value :=
  effect fun world => world.updateMachine machine fun state => { state with paused := paused }

def machineTable : MemberTable :=
  (TableBuilder.create "Machine" ObjectRef.machine?)
    |>.getter "Name" .string (fun machine => return .string machine.name)
    |>.getter "IsPaused" .bool (fun machine =>
      reading fun world => .bool (world.machine machine).paused)
    |>.method "Start" [] .void (fun machine _ => setPaused machine false)
    |>.method "Pause" [] .void (fun machine _ => setPaused machine true)
    |>.method "Reset" [] .void (fun machine _ =>
      effect fun world => world.updateMachine machine fun state =>
        { state with resetRequested := true })
    |>.method "GetPeripheralNames" [] (.array .string) (fun machine _ =>
      reading fun world => stringList (world.machine machine).peripheralNames)
    |>.build

/-- The argument at a position, if it is an integer. -/
def intArgument? (arguments : List Value) (position : Nat) : Option Int64 :=
  arguments[position]? >>= Value.int?

/-- The address an action of a bus is about. -/
def addressArgument (arguments : List Value) : Act UInt64 :=
  match intArgument? arguments 0 with
  | some value => return value.toUInt64
  | none => Act.refuse .addressMissing

def addressParameter : Parameter :=
  .required "address" (.int .u64)

def busTable : MemberTable :=
  (TableBuilder.create "SystemBus" ObjectRef.bus?)
    |>.implements peripheralInterface
    |>.method "ReadByte" [addressParameter] (.int .u8) (fun bus arguments => do
      let address ← addressArgument arguments
      reading fun world => countValue ((world.bus bus).readByte address).toNat)
    |>.method "WriteByte" [addressParameter, .required "value" (.int .u8)] .void
      (fun bus arguments => do
        let address ← addressArgument arguments
        let value := ((intArgument? arguments 1).getD 0).toUInt64.toUInt8
        effect fun world => world.updateBus bus fun state => state.writeByte address value)
    |>.method "ReadDoubleWord" [addressParameter] (.int .u32) (fun bus arguments => do
      let address ← addressArgument arguments
      reading fun world => countValue ((world.bus bus).readDoubleWord address).toNat)
    |>.method "WriteDoubleWord" [addressParameter, .required "value" (.int .u32)] .void
      (fun bus arguments => do
        let address ← addressArgument arguments
        let value := ((intArgument? arguments 1).getD 0).toUInt64.toUInt32
        effect fun world => world.updateBus bus fun state => state.writeDoubleWord address value)
    |>.build

def groupTable : MemberTable :=
  (TableBuilder.create "PeripheralsGroup" ObjectRef.group?)
    |>.implements groupInterface
    |>.getter "Name" .string (fun group => return .string group.2)
    |>.getter "Count" (.int .i32) (fun group =>
      reading fun world => countValue (world.groupMembers group.1 group.2).length)
    |>.method "GetMemberNames" [] (.array .string) (fun group _ =>
      reading fun world =>
        stringList ((world.groupMembers group.1 group.2).map Prod.fst))
    |>.build

end Builtin

/-- The tables of the objects that every console has. -/
def Registry.builtin : Registry :=
  Registry.empty
    |>.register .manager Builtin.managerTable
    |>.register .emulation Builtin.emulationTable
    |>.register .machine Builtin.machineTable
    |>.register .bus Builtin.busTable
    |>.register .group Builtin.groupTable

end MachineConsole
