import MachineConsole.Command.Table
import MachineConsole.Console.Resolver
import MachineConsole.Device.Builtin
import MachineConsole.Member.Action
import MachineConsole.Path.SearchPath
import MachineConsole.Session.Basic
import MachineConsole.Token.Invocation
import MachineConsole.Token.Lexer

/-!
Contract: the state of a console.

Owns:
- `Console`, which ties a session to its commands, types, bindings and the world around it;
- the scopes, surroundings and conversions that follow from the state;
- the tokens of a line in a session, with variables expanded where the line cannot be read
  otherwise;
- changes that do not run anything.
-/

namespace MachineConsole

/-- A console and everything it works on. -/
structure Console where
  world : World
  /-- The manager of emulations, by its place in the world. -/
  manager : Nat
  session : Session
  commands : CommandTable
  types : Registry
  bindings : Bindings
  host? : Option ScriptHost
  path : SearchPath
  /-- How often the emulation had been replaced when this was last looked at. -/
  generation : Nat
  /-- How deeply the evaluation going on is nested. -/
  depth : Nat
  /-- What the console did by itself so far. -/
  history : List Event

namespace Console

/-- The depth of nesting at which invocations are refused. -/
def nestingBound : Nat := 64

/-- A console for a manager that exists in the world. -/
def create (settings : Settings) (world : World) (manager : Nat) : Console :=
  let workingDirectory := world.files.workingDirectory
  { world := world
    manager := manager
    session := Session.create settings workingDirectory
    commands := CommandTable.builtin
    types := Registry.builtin
    bindings := Bindings.standard
    host? := none
    path := SearchPath.ofDefaults (workingDirectory :: settings.path)
    generation := (world.manager manager).generation
    depth := 0
    history := [] }

def workingDirectory (console : Console) : String :=
  console.world.files.workingDirectory

/-- The place of the current emulation in the world. -/
def emulationIndex (console : Console) : Nat :=
  (console.world.manager console.manager).current

def emulation (console : Console) : Emulation :=
  console.world.emulation console.emulationIndex

/-- The scopes of names. -/
def scopes (console : Console) : Scopes :=
  { current? := console.session.currentMachine?.map fun machine => scopeName machine.name
    machines := console.emulation.scopeNames }

/-- What names of objects are looked up in. -/
def surroundings (console : Console) : Surroundings :=
  Surroundings.ofWorld console.world console.bindings console.manager
    console.session.currentMachine? console.session.usings

/-- What conversion of arguments depends on. -/
def conversion (console : Console) : ConversionContext :=
  { registry := console.types
    labels := console.world.label
    find? := console.surroundings.findObject? }

/-- The value of a variable. -/
def variableValue? (console : Console) (name : String) : Option Token :=
  (console.session.variableStore.lookup? console.scopes name).map Prod.snd

/-- A token with a variable replaced by its value. -/
def expand (console : Console) (token : Token) : Except Fault Token :=
  console.session.variableStore.expand console.scopes token

/-- Tokens with all variables replaced by their values. -/
def expandAll (console : Console) (tokens : List Token) : Except Fault (List Token) :=
  console.session.variableStore.expandAll console.scopes tokens

/-- The text of a line that was read in part, with its variables expanded: its tokens with single
spaces between them, and what was left over. -/
def expandedText (console : Console) (result : Tokenization) : String :=
  let expanded := console.session.variableStore.expandKnown console.scopes result.tokens
  Token.joinRaw expanded ++ String.ofList result.rest

/-- The tokens of a line. When reading stops right behind a variable, the line is read again with
its variables expanded; if that fails too, the first outcome is the error. -/
def tokensOf (console : Console) (line : String) : Except Tokenization (List Token) :=
  let result := Tokenization.ofText line
  if result.succeeded then .ok result.tokens
  else if result.tokens.getLast?.any Token.isVariable then
    let second := Tokenization.ofText (console.expandedText result)
    if second.succeeded then .ok second.tokens else .error result
  else .error result

def updateSession (console : Console) (change : Session → Session) : Console :=
  { console with session := change console.session }

/-- Selects a machine, or none. -/
def selectMachine (console : Console) (machine? : Option MachineHandle) : Console :=
  console.updateSession fun session => { session with currentMachine? := machine? }

/-- Adds an entry to the history. -/
def record (console : Console) (event : Event) : Console :=
  { console with history := console.history ++ [event] }

/-- The console with its session to end; no machine is current any more. -/
def withQuit (console : Console) : Console :=
  console.updateSession fun session =>
    { session with currentMachine? := none, quitRequested := true }

/-- Asks the session to end. -/
def requestQuit (console : Console) : Console :=
  console.withQuit.record .quitRequested

/-- The console one level deeper. -/
def descend (console : Console) : Console :=
  let depth := console.depth + 1
  { console with depth := depth }.record (.deepened depth)

/-- The console one level less deep. -/
def ascend (console : Console) : Console :=
  { console with depth := console.depth - 1 }

/-- Selects a machine on account of a reset macro, or none. -/
def switchMachine (console : Console) (machine? : Option MachineHandle) : Console :=
  match machine? with
  | none => console.selectMachine none
  | some machine =>
    (console.selectMachine (some machine)).record
      (.switched machine (console.emulation.machines.contains machine))

/-- Stores a token under the full form of a name. -/
def storeValue (console : Console) (kind : StoreKind) (name : String) (value : Token) :
    Console :=
  console.updateSession fun session =>
    session.updateStore kind fun store => store.set console.scopes name value

/-- Starts the capture of a value over several lines; the block may be open already. -/
def beginCapture (console : Console) (kind : StoreKind) (name : String) (opened : Bool) :
    Console :=
  let fullName := console.scopes.qualify name
  console.updateSession fun session =>
    { session with
      capture := if opened then .body fullName kind [] else .awaiting fullName kind }

/-- Forgets everything about the emulation. -/
def resetSession (console : Console) : Console :=
  console.updateSession fun session => session.reset console.workingDirectory

/-- Replaces the session by a new one. -/
def renewSession (console : Console) (settings : Settings) : Console :=
  console.updateSession fun _ => Session.create settings console.workingDirectory

/-- Notices that the emulation was replaced. -/
def noticeReplacement (console : Console) : Console :=
  let generation := (console.world.manager console.manager).generation
  if generation = console.generation then console
  else { console.resetSession with generation := generation }

end Console

end MachineConsole
