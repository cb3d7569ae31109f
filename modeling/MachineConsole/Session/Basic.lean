import MachineConsole.Config.Settings
import MachineConsole.Session.Store
import MachineConsole.Value.ObjectRef

/-!
Contract: what a console remembers between lines.

Owns:
- `Session` and its reset when the emulation is replaced;
- `Capture`, the progress of a value that is given over several lines.
-/

namespace MachineConsole

/-- The progress of a value given over several lines. -/
inductive Capture where
  | off
  /-- A name was given without a value; the next line has to open the block. -/
  | awaiting (name : String) (store : StoreKind)
  /-- The block is open. -/
  | body (name : String) (store : StoreKind) (lines : List String)
deriving DecidableEq, Repr

def Capture.isActive : Capture → Bool
  | .off => false
  | _ => true

/-- The state of a session. -/
structure Session where
  currentMachine? : Option MachineHandle
  /-- Beginnings tried in front of device names, each with a dot at its end. -/
  usings : List String
  numberMode : NumberMode
  verbose : Bool
  consumeExceptions : Bool
  breakOnException : Bool
  capture : Capture
  quitRequested : Bool
  variableStore : VariableStore
  macroStore : VariableStore

namespace Session

/-- The variable that holds the directory of the running script. -/
def originName : String := Scopes.global "ORIGIN"

/-- The variable that holds the working directory. -/
def workingDirectoryName : String := Scopes.global "CWD"

/-- The variables of a session in which nothing was set. -/
def initialVariables (workingDirectory : String) : VariableStore :=
  VariableStore.empty.insert workingDirectoryName (Token.path workingDirectory)

def create (settings : Settings) (workingDirectory : String) : Session :=
  { currentMachine? := none
    usings := []
    numberMode := settings.numberMode
    verbose := false
    consumeExceptions := settings.consumeExceptions
    breakOnException := settings.breakOnException
    capture := .off
    quitRequested := false
    variableStore := initialVariables workingDirectory
    macroStore := VariableStore.empty }

/-- Forgets everything about the emulation; the directory of the running script stays known. -/
def reset (session : Session) (workingDirectory : String) : Session :=
  let kept := match session.variableStore.get? originName with
    | some origin => VariableStore.empty.insert originName origin
    | none => VariableStore.empty
  { session with
    currentMachine? := none
    usings := []
    capture := .off
    variableStore := kept.insert workingDirectoryName (Token.path workingDirectory)
    macroStore := VariableStore.empty }

def store (session : Session) : StoreKind → VariableStore
  | .variables => session.variableStore
  | .macros => session.macroStore

/-- Changes one of the stores. -/
def updateStore (session : Session) (kind : StoreKind)
    (change : VariableStore → VariableStore) : Session :=
  match kind with
  | .variables => { session with variableStore := change session.variableStore }
  | .macros => { session with macroStore := change session.macroStore }

/-- Binds the variable for the directory of the running script; without one it is unbound. -/
def bindOrigin (session : Session) (origin? : Option Token) : Session :=
  session.updateStore .variables fun store =>
    match origin? with
    | some origin => store.insert originName origin
    | none => store.erase originName

/-- The prompt for the next line. -/
def prompt (session : Session) : String :=
  if session.capture.isActive then "> "
  else
    match session.currentMachine? with
    | some machine => "(" ++ machine.name ++ ") "
    | none => "(monitor) "

end Session

end MachineConsole
