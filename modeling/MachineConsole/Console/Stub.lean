import MachineConsole.Command.Table

/-!
Contract: stub commands and a stub engine for scripts, which do as they were told to.

Owns:
- `Stub.Behaviour` and `Stub.command`, a command that prints its form and arguments;
- `Stub.host`, an engine that records what it is asked to run. Source text that begins with a word
  for failure fails, and so does the builtin of that name.
-/

namespace MachineConsole.Stub

/-- What a stub command does after it printed its form and arguments. -/
structure Behaviour where
  /-- It reads a line and prints it. -/
  reads : Bool
  errorLine? : Option String
  failure? : Option Fault
  succeeds : Bool

/-- Runs a form of a stub command. -/
def Behaviour.run (behaviour : Behaviour) (form : String) (arguments : List Token) :
    Perform Bool := do
  Perform.writeLine (form ++ "(" ++ Text.join "," (arguments.map Token.raw) ++ ")")
  if behaviour.reads then
    match ← Perform.readLine with
    | some line => Perform.writeLine ("read " ++ line)
    | none => Perform.writeLine "end of input"
  match behaviour.errorLine? with
  | some line => Perform.writeError line
  | none => pure ()
  match behaviour.failure? with
  | some fault => throw fault
  | none => return behaviour.succeeds

/-- A stub command, which completes its arguments from a list of words. -/
def command (name : String) (aliases : List String) (description : String)
    (signatures : List (Signature String)) (words : List String) (behaviour : Behaviour) :
    AddedCommand :=
  { name := name
    aliases := aliases
    description := description
    signatures := signatures
    run := behaviour.run
    complete := fun typed => words.filter fun word => Text.beginsWith word typed }

/-- Runs source text. -/
def runSource (source : String) : Perform Unit := do
  Perform.record (.scripted source)
  if Text.beginsWith source "fail" then throw (.refused (.stated "script failed"))
  else if Text.beginsWith source "crash" then throw (.device (.stated "script crashed"))
  else Perform.writeLine "ran"

/-- Runs a builtin, which reports a failure when its first argument is false. -/
def runBuiltin (names : List String) (name : String) (arguments : List Value) :
    Perform (Option Bool) := do
  if !names.contains name then return none
  Perform.record (.hosted name arguments)
  if name = "explode" then throw (.device (.stated "builtin exploded"))
  Perform.writeLine ("builtin " ++ name)
  match arguments with
  | .bool false :: _ => return some false
  | _ => return some true

/-- A stub engine for files of an extension that offers some builtins. -/
def host (extension : String) (names : List String) : ScriptHost :=
  { extension := extension
    builtinNames := names
    runSource := runSource
    runBuiltin := runBuiltin names }

end MachineConsole.Stub
