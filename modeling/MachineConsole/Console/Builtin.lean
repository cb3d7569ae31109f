import MachineConsole.Console.DeviceAction
import MachineConsole.Console.Job
import MachineConsole.Report.Table

/-!
Contract: what the commands do that every console has.

Owns: `Builtin.runForm`, the effect of every form on the console.
-/

namespace MachineConsole.Builtin

open Eval

/-- The argument at a position. -/
def argument (arguments : List Token) (position : Nat) : Eval Token :=
  match arguments[position]? with
  | some token => return token
  | none => refuse (.argumentMissing position)

/-- The word at a position. -/
def wordArgument (arguments : List Token) (position : Nat) : Eval String :=
  return (← argument arguments position).word

/-- The rows of the list of commands. -/
def commandRows (commands : CommandTable) : List (List String) :=
  ["Name", "Description"] ::
    commands.toList.map fun command => [command.name, command.description]

def listCommands : Eval Bool := do
  writeLines (["Available commands:"] ++ TableText.lines (commandRows (← console).commands) ++
    ["", "Type a device name without arguments to list its members."])
  return true

/-- Shows the help for a command, or lists the members of a device. -/
def showTopic (topic : String) : Eval Bool := do
  let state ← console
  match state.commands.get? topic with
  | some command => writeLines command.helpLines
  | none => deviceAction (← ofExcept (state.surroundings.resolve topic)) []
  return true

def beginCapture (kind : StoreKind) (opened : Bool) (arguments : List Token) : Eval Bool := do
  let name ← wordArgument arguments 0
  updateConsole fun console => console.beginCapture kind name opened
  return true

def storeValue (kind : StoreKind) (arguments : List Token) : Eval Bool := do
  let name ← wordArgument arguments 0
  let value ← ofExcept ((← console).expand (← argument arguments 1))
  updateConsole fun console => console.storeValue kind name value
  return true

/-- Runs the text of a variable. -/
def executeVariable (nested : Nested) (arguments : List Token) : Eval Bool := do
  let value ← ofExcept ((← console).expand (← argument arguments 0))
  reenter nested value.sourceText

def playMacro (nested : Nested) (arguments : List Token) : Eval Bool := do
  let name ← wordArgument arguments 0
  let state ← console
  match state.session.macroStore.lookup? state.scopes name with
  | none => refuse (.noSuchMacro name)
  | some (_, body) => reenter nested body.sourceText

/-- The line for a machine in the list of machines. -/
def machineLine (current? : Option String) (entry : String × Nat) : String :=
  "\t" ++ toString entry.2 ++ ": " ++ entry.1 ++
    (if current? = some entry.1 then " [current]" else "")

def listMachines : Eval Bool := do
  let state ← console
  let names := state.emulation.machineNames
  let current? := state.session.currentMachine?.map MachineHandle.name
  if names.isEmpty then writeLine "No machines available."
  else writeLines ("Available machines:" :: names.zipIdx.map (machineLine current?))
  return true

/-- Selects a machine, or none. -/
def select (machine? : Option MachineHandle) : Eval Bool := do
  updateConsole fun console => console.selectMachine machine?
  return true

def selectMachine (arguments : List Token) : Eval Bool := do
  let name ← wordArgument arguments 1
  match (← console).emulation.machine? name with
  | none => refuse (.noSuchMachine name)
  | some machine => select (some machine)

def selectMachineAt (arguments : List Token) : Eval Bool := do
  let position := (((← argument arguments 1).value.int?).getD (-1)).toInt
  let machines := (← console).emulation.machines
  let machine? := if position < 0 then none else machines[position.toNat]?
  match machine? with
  | none => refuse (.noMachineAt position)
  | some machine => select (some machine)

/-- Creates a machine in the current emulation. -/
def createMachine (name? : Option String) : Eval MachineHandle := do
  let state ← console
  let (machine, world) ← ofRefusal (state.world.addNewMachine state.emulationIndex name?)
  updateWorld fun _ => world
  return machine

def addMachine (arguments : List Token) : Eval Bool := do
  let name ← wordArgument arguments 1
  let _ ← createMachine (some name)
  return true

/-- Creates a machine and selects it. -/
def createAndSelect (arguments : List Token) : Eval Bool := do
  let machine ← createMachine (arguments[1]?.map Token.word)
  select (some machine)

/-- Removes a machine; no machine is current any more when it was. -/
def removeMachine (arguments : List Token) : Eval Bool := do
  let name ← wordArgument arguments 1
  let state ← console
  let (removed, emulation) ← ofRefusal (state.emulation.removeMachine name)
  updateWorld fun world => world.updateEmulation state.emulationIndex fun _ => emulation
  if state.session.currentMachine?.any fun machine => machine.name == removed.name then
    select none
  else return true

def listBeginnings : Eval Bool := do
  let usings := (← session).usings
  writeLines (if usings.isEmpty then ["No prefixes in use."] else usings)
  return true

/-- Puts a beginning of names into use once; a dash ends the use of all. -/
def addBeginning (arguments : List Token) : Eval Bool := do
  let word ← wordArgument arguments 0
  if word = "-" then
    updateSession fun session => { session with usings := [] }
  else
    let beginning := String.ofList (Text.dropEndWhile (· == '.') word.toList) ++ "."
    updateSession fun session =>
      if session.usings.contains beginning then session
      else { session with usings := session.usings ++ [beginning] }
  return true

/-- Changes the search path and shows it. -/
def changePath (change : SearchPath → SearchPath) : Eval Bool := do
  updateConsole fun console => { console with path := change console.path }
  writeLine (← console).path.text
  return true

def showVerbose : Eval Bool := do
  writeLine ("Verbose mode: " ++ toString (← session).verbose)
  return true

def setVerbose (arguments : List Token) : Eval Bool := do
  let enabled := (← argument arguments 0).kind == .boolean true
  updateSession fun session => { session with verbose := enabled }
  showVerbose

def showNumberMode : Eval Bool := do
  writeLine ("Numbers mode: " ++ (← session).numberMode.name)
  return true

def setNumberMode (arguments : List Token) : Eval Bool := do
  let mode ← ofExcept (NumberMode.ofName? (← wordArgument arguments 0))
  updateSession fun session => { session with numberMode := mode }
  showNumberMode

/-- The line for a peripheral, indented by its depth. -/
def peripheralLine (types : Registry) (entry : String × ObjectRef) : String :=
  let segments := Text.segments entry.1
  Text.repeated "  " segments.length ++ segments.getLast?.getD entry.1 ++ " (" ++
    types.typeName entry.2 ++ ")"

def listPeripherals : Eval Bool := do
  let state ← console
  match state.session.currentMachine? with
  | none => refuse .noMachineSelected
  | some machine =>
    writeLines (("Available peripherals of " ++ machine.name ++ ":") ::
      (state.world.machine machine).peripherals.toList.map (peripheralLine state.types))
    return true

/-- Sets all machines running or pauses them. -/
def setAllPaused (paused : Bool) (message : String) : Eval Bool := do
  let state ← console
  updateWorld fun world => world.setAllPaused state.emulationIndex paused
  writeLine message
  return true

def startAll : Eval Bool :=
  setAllPaused false "Starting emulation..."

/-- Runs a script and, unless it reports a failure, starts all machines. -/
def startScript (nested : Nested) (arguments : List Token) : Eval Bool := do
  if ← includeFile nested (← wordArgument arguments 0) then startAll else return false

/-- Runs source text in the scripting host. -/
def runHostSource (arguments : List Token) : Eval Bool := do
  let state ← console
  let source ← ofExcept (state.expand (← argument arguments 0))
  match state.host? with
  | none => refuse .noHost
  | some host =>
    record (.received .host [source])
    perform (host.runSource source.sourceText)
    return true

def quit : Eval Bool := do
  updateConsole fun console => console.requestQuit
  return true

/-- Runs a form with its arguments. -/
def runForm (nested : Nested) (form : BuiltinForm) (arguments : List Token) : Eval Bool :=
  match form with
  | .helpList => listCommands
  | .helpTopic => do showTopic (← wordArgument arguments 0)
  | .includeFile => do includeFile nested (← wordArgument arguments 0)
  | .storeAwait kind => beginCapture kind false arguments
  | .storeOpen kind => beginCapture kind true arguments
  | .storeValue kind => storeValue kind arguments
  | .executeVariable => executeVariable nested arguments
  | .executeTokens => reenter nested (Token.joinRaw arguments)
  | .playMacro => playMacro nested arguments
  | .machineList => listMachines
  | .machineSelect => selectMachine arguments
  | .machineSelectAt => selectMachineAt arguments
  | .machineAdd => addMachine arguments
  | .machineRemove => removeMachine arguments
  | .machineCreate => createAndSelect arguments
  | .machineClear => select none
  | .useList => listBeginnings
  | .useAdd => addBeginning arguments
  | .pathShow => changePath id
  | .pathReset => changePath SearchPath.reset
  | .pathSet => do
    let directories ← wordArgument arguments 1
    changePath fun path => path.set directories
  | .pathAdd => do
    let directories ← wordArgument arguments 1
    changePath fun path => path.add directories
  | .verboseShow => showVerbose
  | .verboseSet => setVerbose arguments
  | .numbersShow => showNumberMode
  | .numbersSet => setNumberMode arguments
  | .peripheralTree => listPeripherals
  | .startAll => startAll
  | .startScript => startScript nested arguments
  | .pauseAll => setAllPaused true "Pausing emulation..."
  | .hostSource => runHostSource arguments
  | .quit => quit

end MachineConsole.Builtin
