import MachineConsole.Console.Capture
import MachineConsole.Console.Eval
import MachineConsole.Session.Script

/-!
Contract: what the evaluator can be asked to run.

Owns:
- `Job` and `Nested`, the evaluator as its own parts see it;
- running a line again after expansion, and running scripts.

A job answers `false` when a failure was reported and the rest of what it belongs to is to be left
undone.
-/

namespace MachineConsole

/-- Something to evaluate. -/
inductive Job where
  /-- A line of input, which an active capture may take. -/
  | line (text : String)
  /-- A line that was already read. -/
  | tokens (tokens : List Token)
  /-- A text of several lines. -/
  | lines (text : String)
deriving DecidableEq, Repr

/-- The evaluator as its parts call it. -/
abbrev Nested := Job → Eval Bool

namespace Eval

/-- The tokens of a line; a line that cannot be read is reported. -/
def readTokens (line : String) : Eval (Option (List Token)) := do
  match (← console).tokensOf line with
  | .ok tokens => return some tokens
  | .error result =>
    writeErrors (result.report line)
    return none

/-- Reads a line again, one level deeper; no capture takes it. -/
def replay (nested : Nested) (line : String) : Eval Bool :=
  deeper do
    match ← readTokens line with
    | some tokens => nested (.tokens tokens)
    | none => return false

/-- Evaluates lines on the level that is current; the bound on nesting does not count them. -/
def reenter (nested : Nested) (text : String) : Eval Bool := do
  record .reentered
  nested (.lines text)

/-- Runs a script file with the variable for its directory bound, and binds that variable as before
afterwards. -/
def runScript (nested : Nested) (path : String) : Eval Bool := do
  let state ← console
  match state.world.files.read path with
  | .error cause => refuse (.unreadableScript path cause)
  | .ok text =>
    let directory := Path.directoryOf state.workingDirectory path
    let previous? := state.session.variableStore.get? Session.originName
    updateSession fun session => session.bindOrigin (some (Token.path directory))
    (reenter nested text).thenRestore fun console =>
      console.updateSession fun session => session.bindOrigin previous?

/-- Finds a file on the search path and runs it; the scripting host runs files of its language. -/
def includeFile (nested : Nested) (file : String) : Eval Bool := do
  let state ← console
  match state.path.find? state.world.files file with
  | none => refuse (.fileNotFound file)
  | some path =>
    let extension := Path.extension path
    match state.host?.filter fun host => host.extension == extension with
    | some host =>
      perform (host.runFile path)
      return true
    | none =>
      if extension = "py" then refuse (.noHostForFile file) else runScript nested path

end Eval

end MachineConsole
