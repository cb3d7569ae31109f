import MachineConsole.Console.Basic
import MachineConsole.Report.Failure

/-!
Contract: computations of a console.

Owns:
- `Eval`, a computation on a console and a sink that may stop;
- the two reasons to stop: a fault, and the end of the recursion bound of the evaluator;
- running actions of devices and extensions as parts of a computation;
- printing the fault of a command, which is entered into the history at the same time;
- nesting, and undoing what must not outlast a computation.

What was changed or written before a computation stopped stays.
-/

namespace MachineConsole

/-- A console at work, and where it writes. -/
structure Run where
  console : Console
  sink : Sink

/-- Why a computation stopped without a result. -/
inductive Stop where
  | failed (fault : Fault)
  /-- The evaluator nests more deeply than its recursion bound. -/
  | exhausted
deriving Repr

/-- A computation of a console. -/
abbrev Eval := ExceptT Stop (StateM Run)

namespace Eval

def fail {α : Type} (fault : Fault) : Eval α :=
  throw (.failed fault)

def refuse {α : Type} (cause : Refusal) : Eval α :=
  fail (.refused cause)

/-- A result, or the fault there is instead. -/
def ofExcept {α : Type} : Except Fault α → Eval α
  | .ok value => pure value
  | .error fault => fail fault

/-- A result, or the refusal there is instead. -/
def ofRefusal {α : Type} : Except Refusal α → Eval α
  | .ok value => pure value
  | .error cause => refuse cause

def console : Eval Console :=
  return (← get).console

def session : Eval Session :=
  return (← get).console.session

def updateConsole (change : Console → Console) : Eval Unit :=
  modify fun run => { run with console := change run.console }

def updateSession (change : Session → Session) : Eval Unit :=
  updateConsole fun console => console.updateSession change

def updateWorld (change : World → World) : Eval Unit :=
  updateConsole fun console => { console with world := change console.world }

/-- Adds an entry to the history of the console. -/
def record (event : Event) : Eval Unit :=
  updateConsole fun console => console.record event

def writeLine (text : String) : Eval Unit :=
  modify fun run => { run with sink := run.sink.writeLine text }

def writeLines (lines : List String) : Eval Unit :=
  modify fun run => { run with sink := run.sink.writeLines lines }

def writeErrors (lines : List String) : Eval Unit :=
  modify fun run => { run with sink := run.sink.writeErrors lines }

/-- An action on the world as a computation. -/
def act {α : Type} (action : Act α) : Eval α := fun run =>
  let (outcome, world) := action run.console.world
  let after := { run with console := { run.console with world := world } }
  match outcome with
  | .ok value => (.ok value, after)
  | .error fault => (.error (.failed fault), after)

/-- An action of an extension as a computation. -/
def perform {α : Type} (action : Perform α) : Eval α := fun run =>
  let (outcome, stage) := action ⟨run.console.world, run.sink⟩
  let after : Run := ⟨{ run.console with world := stage.world }, stage.sink⟩
  match outcome with
  | .ok value => (.ok value, after)
  | .error fault => (.error (.failed fault), after)

/-- The result of a computation, or the fault that stopped it. -/
def attempt {α : Type} (action : Eval α) : Eval (Except Fault α) := fun run =>
  match action run with
  | (.ok value, after) => (.ok (.ok value), after)
  | (.error (.failed fault), after) => (.ok (.error fault), after)
  | (.error .exhausted, after) => (.error .exhausted, after)

/-- A computation after which the console is changed, with a result or without. -/
def thenRestore {α : Type} (action : Eval α) (change : Console → Console) : Eval α := fun run =>
  let (outcome, after) := action run
  (outcome, { after with console := change after.console })

/-- A computation one level deeper. -/
def deeper {α : Type} (action : Eval α) : Eval α := do
  updateConsole Console.descend
  action.thenRestore Console.ascend

/-- A computation that writes to an empty sink of its own, with that sink. -/
def onOwnSink {α : Type} (action : Eval α) : Eval (α × Sink) := fun run =>
  let (outcome, after) := action { run with sink := Sink.empty }
  let restored := { after with sink := run.sink }
  match outcome with
  | .ok value => (.ok (value, after.sink), restored)
  | .error stop => (.error stop, restored)

/-- Prints a fault of a command and enters that into the history. -/
def reportFault (command : String) (fault : Fault) : Eval Unit :=
  modify fun run =>
    ⟨run.console.record (.reported command fault), run.sink.writeErrors (fault.report command)⟩

/-- Reports a fault of a command and goes on, or stops when the fault is not recoverable and is not
to be consumed. -/
def handleFailure (command : String) (fault : Fault) : Eval Bool := do
  if fault.isRecoverable || (← session).consumeExceptions then
    reportFault command fault
    return false
  else fail fault

end Eval

end MachineConsole
