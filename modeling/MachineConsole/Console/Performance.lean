import MachineConsole.Console.Sink
import MachineConsole.World.Basic

/-!
Contract: what extensions of a console may do when they are run.

Owns:
- `Perform`, an action with a sink and the world around the console that may fail;
- `ScriptHost`, an engine that runs scripts of another language and offers builtins of its own.

What was written or changed before a failure stays.
-/

namespace MachineConsole

/-- The sink and the world around the console. -/
structure Stage where
  world : World
  sink : Sink

/-- An action of an extension. -/
abbrev Perform := ExceptT Fault (StateM Stage)

namespace Perform

def writeLine (text : String) : Perform Unit :=
  modify fun stage => { stage with sink := stage.sink.writeLine text }

def writeError (text : String) : Perform Unit :=
  modify fun stage => { stage with sink := stage.sink.writeError text }

def readLine : Perform (Option String) := do
  let (line?, sink) := (← get).sink.readLine
  modify fun stage => { stage with sink := sink }
  return line?

/-- Adds an entry to the journal. -/
def record (event : Event) : Perform Unit :=
  modify fun stage => { stage with world := stage.world.record event }

end Perform

/-- An engine for scripts of another language. -/
structure ScriptHost where
  /-- The extension of the files it runs, without the dot. -/
  extension : String
  builtinNames : List String
  /-- Runs source text. -/
  runSource : String → Perform Unit
  /-- Runs a builtin; `none` when there is none of this name. -/
  runBuiltin : String → List Value → Perform (Option Bool)

/-- Runs a file. -/
def ScriptHost.runFile (host : ScriptHost) (path : String) : Perform Unit := do
  match (← get).world.files.read path with
  | .error cause => throw (.storage cause)
  | .ok source => host.runSource source

end MachineConsole
