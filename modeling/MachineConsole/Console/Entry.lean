import MachineConsole.Console.Completion
import MachineConsole.Console.Evaluation
import MachineConsole.Device.Demo

/-!
Contract: what the owner of a console can have it do.

Owns:
- evaluation of lines, texts and scripts with the recursion bound of the evaluator;
- setting up the demo machine;
- changes to the emulation that no command makes.
-/

namespace MachineConsole.Eval

/-- The levels that an evaluation may nest: far more than bounded nesting can use, so that only
commands that run themselves without end reach it. -/
def recursionBound : Nat := 4096

/-- Evaluates something. -/
def evaluate (job : Job) : Eval Bool :=
  run recursionBound job

/-- Finds a file on the search path and runs it. -/
def includeByName (file : String) : Eval Bool :=
  includeFile evaluate file

/-- Runs a script at a path. -/
def runScriptAt (path : String) : Eval Bool :=
  runScript evaluate path

/-- Makes the demo devices known, creates the demo machine and selects it. -/
def installDemo : Eval Unit := do
  updateConsole fun console => { console with types := Demo.register console.types }
  let machine ← act (Demo.buildMachine (← console).manager)
  updateConsole fun console => console.selectMachine (some machine)

/-- Changes a machine, unless the change is refused. -/
def changeMachine (machine : MachineHandle) (change : Machine → Except Refusal Machine) :
    Eval Unit := do
  let changed ← ofRefusal (change ((← console).world.machine machine))
  updateWorld fun world => world.updateMachine machine fun _ => changed

/-- Changes the current emulation, unless the change is refused. -/
def changeEmulation (change : Emulation → Except Refusal Emulation) : Eval Unit := do
  let state ← console
  let changed ← ofRefusal (change state.emulation)
  updateWorld fun world => world.updateEmulation state.emulationIndex fun _ => changed

/-- Removes a machine from the current emulation. -/
def removeMachine (name : String) : Eval MachineHandle := do
  let state ← console
  let (removed, rest) ← ofRefusal (state.emulation.removeMachine name)
  updateWorld fun world => world.updateEmulation state.emulationIndex fun _ => rest
  return removed

/-- Removes an external from the current emulation, if there is one of this name. -/
def removeExternal (name : String) : Eval (Option ObjectRef) := do
  let removed? := (← console).emulation.externals[name]?
  changeEmulation fun emulation => .ok (emulation.removeExternal name)
  return removed?

/-- Puts a new emulation into use and creates machines in it; a name that is taken is skipped. -/
def replaceEmulation (names : List String) : Eval Unit := do
  updateConsole fun console =>
    { console with world := console.world.replaceEmulation console.manager Emulation.blank }
  let index := (← console).emulationIndex
  for name in names do
    match (← console).world.addNewMachine index (some name) with
    | .ok (_, world) => updateWorld fun _ => world
    | .error _ => pure ()

/-- Asks for a remote resource. -/
def fetch (uri : String) : Eval String :=
  act (World.fetch uri)

end MachineConsole.Eval
