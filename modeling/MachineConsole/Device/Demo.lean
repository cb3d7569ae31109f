import MachineConsole.Device.Builtin
import MachineConsole.Device.Cells

/-!
Contract: a small machine to try the console on.

Owns:
- the models of its devices: a serial port, a timer and a memory of 256 bytes;
- `Demo.buildMachine`, which creates the machine with its peripherals and a group of two timers.
-/

namespace MachineConsole.Demo

/-- The name of the machine. -/
def machineName : String := "demo"

/-- The integer of a value, or zero. -/
def intOrZero (value : Value) : Int64 :=
  value.int?.getD 0

/-! ### Serial port -/

def uartModel : String := "demo uart"

def uartLabel (baudRate : Int64) : String :=
  "uart @ " ++ toString baudRate.toInt ++ " baud"

/-- The lines a serial port was given. -/
def uartLines (uart : Nat) : Act (List Value) := do
  match ← Device.load uart "lines" with
  | some (.list lines) => return lines
  | _ => return []

def uartTable : MemberTable :=
  (TableBuilder.create "Uart" (ObjectRef.deviceOf? uartModel))
    |>.implements Builtin.peripheralInterface
    |>.method "WriteLine" [.required "text" .string] .void (fun uart arguments => do
      let text := (arguments.head?.map (Value.display (← get).label)).getD ""
      Device.store uart "lines" (.list ((← uartLines uart) ++ [.string text]))
      return .null)
    |>.method "Lines" [] (.array .string) (fun uart _ => return .list (← uartLines uart))
    |>.method "Clear" [] .void (fun uart _ => do
      Device.store uart "lines" (.list [])
      return .null)
    |>.property "BaudRate" (.int .u32)
      (fun uart => return (← Device.load uart "baud").getD (.int 115200))
      (fun uart value => do
        Device.store uart "baud" (.int (intOrZero value))
        Device.relabel uart (uartLabel (intOrZero value)))
    |>.build

/-! ### Timer -/

def timerModel : String := "demo timer"

def timerMode : EnumSpec :=
  { name := "TimerMode"
    members := [("OneShot", 0), ("Periodic", 1), ("Free", 2)]
    flags := false }

/-- The limit of a timer until another is set. -/
def timerLimit : Int64 := 0xFFFF

def timerTable : MemberTable :=
  (TableBuilder.create "Timer" (ObjectRef.deviceOf? timerModel))
    |>.implements Builtin.peripheralInterface
    |>.property "Mode" (.enum timerMode)
      (fun timer => return .enum timerMode (((← Device.load timer "mode").map intOrZero).getD 0))
      (fun timer value => Device.store timer "mode" (.int (intOrZero value)))
    |>.property "Limit" (.int .u32)
      (fun timer => return (← Device.load timer "limit").getD (.int timerLimit))
      (fun timer value => Device.store timer "limit" (.int (intOrZero value)))
    |>.field "Enabled" .bool
      (fun timer => return (← Device.load timer "enabled").getD (.bool false))
      (some fun timer value => Device.store timer "enabled" (.bool (value.same (.bool true))))
    |>.method "Configure"
      [.required "mode" (.enum timerMode),
        { Parameter.required "limit" (.int .u32) with default? := some (.int timerLimit) }]
      .void (fun timer arguments => do
        let mode := (Builtin.intArgument? arguments 0).getD 0
        let limit := (Builtin.intArgument? arguments 1).getD timerLimit
        Device.store timer "mode" (.int mode)
        Device.store timer "limit" (.int limit)
        return .null)
    |>.build

/-! ### Memory -/

def memoryModel : String := "demo memory"

/-- The number of bytes of a memory. -/
def memorySize : Nat := 0x100

/-- The byte that the indices of an access mean. -/
def memoryOffset (indices : List Value) : Act Nat := do
  let offset := ((Builtin.intArgument? indices 0).getD (-1)).toInt
  if 0 ≤ offset && offset < memorySize then return offset.toNat
  else Act.refuse (.offsetOutside offset)

def memoryTable : MemberTable :=
  (TableBuilder.create "Memory" (ObjectRef.deviceOf? memoryModel))
    |>.implements Builtin.peripheralInterface
    |>.field "Size" (.int .i32) (fun _ => return Builtin.countValue memorySize) none
    |>.indexer "Item" [.required "offset" (.int .i32)] (.int .u8)
      (fun memory indices => do
        let offset ← memoryOffset indices
        return (← Device.load memory (toString offset)).getD (.int 0))
      (some fun memory indices value => do
        let offset ← memoryOffset indices
        let byte := (intOrZero value).toUInt64.toUInt8
        Device.store memory (toString offset) (Builtin.countValue byte.toNat))
    |>.build

/-! ### Machine -/

/-- A registry that knows the models. -/
def register (registry : Registry) : Registry :=
  registry
    |>.register (.device uartModel) uartTable
    |>.register (.device timerModel) timerTable
    |>.register (.device memoryModel) memoryTable

/-- Creates a device and registers it in a machine. -/
def addDevice (machine : MachineHandle) (name model label : String) : Act Unit := do
  let (object, world) := (← get).createDevice model ⟨label, ∅⟩
  set world
  let state ← Act.ofRefusal ((world.machine machine).register name object)
  modify fun world => world.updateMachine machine fun _ => state

/-- Creates the machine with its devices in the current emulation of a manager. -/
def buildMachine (manager : Nat) : Act MachineHandle := do
  let world ← get
  let (machine, world) ← Act.ofRefusal
    (world.addNewMachine (world.manager manager).current (some machineName))
  set world
  addDevice machine "sysbus.uart0" uartModel (uartLabel 115200)
  addDevice machine "sysbus.timer0" timerModel "<object>"
  addDevice machine "sysbus.timer1" timerModel "<object>"
  addDevice machine "sysbus.ram" memoryModel "<object>"
  let state ← Act.ofRefusal
    (((← get).machine machine).addGroup "timers" ["sysbus.timer0", "sysbus.timer1"])
  modify fun world => world.updateMachine machine fun _ => state
  return machine

end MachineConsole.Demo
