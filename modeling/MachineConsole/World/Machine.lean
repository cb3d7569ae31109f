import MachineConsole.Fault
import MachineConsole.Value.ObjectRef
import Std.Data.TreeMap

/-!
Contract: emulated machines and their peripheral trees.

Owns:
- registration, removal and look-up of peripherals by dotted name below the system bus;
- groups of peripherals;
- whether the machine runs, and pending reset requests.
-/

namespace MachineConsole

/-- The state of a machine. -/
structure Machine where
  name : String
  peripherals : Std.TreeMap String ObjectRef
  /-- The members of each group, by the names they had when the group was made. -/
  groups : Std.TreeMap String (List (String × ObjectRef))
  paused : Bool
  resetRequested : Bool

/-- A machine name as the scope of variables: dots and dashes become underscores. -/
def scopeName (machineName : String) : String :=
  String.ofList (machineName.toList.map fun character =>
    if character = '.' || character = '-' then '_' else character)

namespace Machine

/-- The name of the root of every peripheral tree. -/
def rootName : String := "sysbus"

/-- A paused machine with nothing but a system bus. -/
def create (name : String) (bus : ObjectRef) : Machine :=
  { name := name
    peripherals := (∅ : Std.TreeMap String ObjectRef).insert rootName bus
    groups := ∅
    paused := true
    resetRequested := false }

/-- Registers an object under a name whose parent is registered. -/
def register (machine : Machine) (name : String) (object : ObjectRef) :
    Except Refusal Machine :=
  match Text.cutLast? '.' name.toList with
  | none => .error (.nameNotRooted name rootName)
  | some (parentName, leaf) =>
    let parent := String.ofList parentName
    if leaf = [] then .error (.nameWithoutLeaf name)
    else if !machine.peripherals.contains parent then .error (.parentMissing name parent)
    else if machine.peripherals.contains name then .error (.peripheralExists name)
    else .ok { machine with peripherals := machine.peripherals.insert name object }

/-- Removes a peripheral and everything below it; the system bus stays. -/
def unregister (machine : Machine) (name : String) : Except Refusal Machine :=
  if name = rootName then .error .busIsPermanent
  else if !machine.peripherals.contains name then .error (.noSuchPeripheral name)
  else
    let below := name ++ "."
    .ok
      { machine with
        peripherals := (machine.peripherals.erase name).filter fun key _ =>
          !Text.beginsWith key below }

/-- The longest name made of leading segments that is registered, segment by segment from a name
already reached; empty when not even the first segment is. -/
def longestFrom (machine : Machine) (reached : String) : List String → String
  | [] => reached
  | segment :: rest =>
    let current := if reached = "" then segment else reached ++ "." ++ segment
    if machine.peripherals.contains current then machine.longestFrom current rest else reached

/-- Looks up a dotted name; with a failure comes the longest leading part that is registered. -/
def find? (machine : Machine) (name : String) : Option ObjectRef × String :=
  match machine.peripherals[name]? with
  | some object => (some object, name)
  | none => (none, machine.longestFrom "" (Text.segments name))

/-- The registered names in order. -/
def peripheralNames (machine : Machine) : List String :=
  machine.peripherals.keys

/-- The first name an object is registered under. -/
def nameOf? (machine : Machine) (object : ObjectRef) : Option String :=
  (machine.peripherals.toList.find? fun item => item.2 == object).map Prod.fst

/-- The peripherals with the given names, or the first name that has none. -/
def membersNamed (machine : Machine) :
    List String → Except Refusal (List (String × ObjectRef))
  | [] => .ok []
  | name :: rest =>
    match machine.peripherals[name]? with
    | none => .error (.noSuchPeripheral name)
    | some object => (machine.membersNamed rest).map ((name, object) :: ·)

/-- Groups registered peripherals under a new name. -/
def addGroup (machine : Machine) (name : String) (members : List String) :
    Except Refusal Machine := do
  let resolved ← machine.membersNamed members
  if machine.groups.contains name then .error (.groupExists name)
  else .ok { machine with groups := machine.groups.insert name resolved }

def groupNames (machine : Machine) : List String :=
  machine.groups.keys

end Machine

end MachineConsole
