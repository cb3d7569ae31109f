import MachineConsole.Command.Signature
import MachineConsole.Report.NumberMode
import MachineConsole.Session.Store

/-!
Contract: the commands every console has.

Owns:
- `BuiltinCommand` with names, aliases and descriptions;
- `BuiltinForm`, every form in which one of them can be invoked, and `BuiltinCommand.signatures`.

Does not own: what the forms do, which is `MachineConsole.Console.Builtin`.
-/

namespace MachineConsole

/-- The commands every console has. -/
inductive BuiltinCommand where
  | help
  | includeFile
  | store (kind : StoreKind)
  | execute
  | playMacro
  | machine
  | useNames
  | searchPath
  | verbose
  | numbersMode
  | peripherals
  | start
  | pause
  | hostSource
  | quit
deriving DecidableEq, Repr

/-- The forms in which they can be invoked. -/
inductive BuiltinForm where
  | helpList
  | helpTopic
  | includeFile
  | storeAwait (kind : StoreKind)
  | storeOpen (kind : StoreKind)
  | storeValue (kind : StoreKind)
  | executeVariable
  | executeTokens
  | playMacro
  | machineList
  | machineSelect
  | machineSelectAt
  | machineAdd
  | machineRemove
  | machineCreate
  | machineClear
  | useList
  | useAdd
  | pathShow
  | pathReset
  | pathSet
  | pathAdd
  | verboseShow
  | verboseSet
  | numbersShow
  | numbersSet
  | peripheralTree
  | startAll
  | startScript
  | pauseAll
  | hostSource
  | quit
deriving DecidableEq, Repr

namespace BuiltinCommand

/-- All commands in the order in which they are registered. -/
def all : List BuiltinCommand :=
  [.help, .includeFile, .store .variables, .store .macros, .execute, .playMacro, .machine,
    .useNames, .searchPath, .verbose, .numbersMode, .peripherals, .start, .pause, .hostSource,
    .quit]

def name : BuiltinCommand → String
  | .help => "help"
  | .includeFile => "include"
  | .store kind => kind.commandName
  | .execute => "execute"
  | .playMacro => "runMacro"
  | .machine => "mach"
  | .useNames => "using"
  | .searchPath => "path"
  | .verbose => "verbose"
  | .numbersMode => "numbersMode"
  | .peripherals => "peripherals"
  | .start => "start"
  | .pause => "pause"
  | .hostSource => "python"
  | .quit => "quit"

def aliases : BuiltinCommand → List String
  | .help => ["?", "h"]
  | .includeFile => ["i"]
  | .hostSource => ["py"]
  | .quit => ["q"]
  | _ => []

def description : BuiltinCommand → String
  | .help => "List commands or show help for one command or device"
  | .includeFile => "Run a monitor script, or a scripting host script"
  | .store .variables => "Set a variable, or capture a multi-line value"
  | .store .macros => "Define a macro, or capture a multi-line macro body"
  | .execute => "Run the commands held by a variable, or the given tokens"
  | .playMacro => "Play back a macro"
  | .machine => "List, select, create and remove machines"
  | .useNames => "Add a prefix tried when resolving device names; '-' clears them"
  | .searchPath => "Show or change the include search path"
  | .verbose => "Echo each invocation before running it"
  | .numbersMode => "Show or change how integer results are printed"
  | .peripherals => "List the peripherals of the current machine"
  | .start => "Start all machines, optionally including a script first"
  | .pause => "Pause all machines"
  | .hostSource => "Run code in the scripting host"
  | .quit => "Leave the monitor"

/-- A form named by a keyword. -/
def keyword (form : BuiltinForm) (word : String) : Signature BuiltinForm :=
  (Signature.create form).oneOf word [word]

/-- The forms of a command. -/
def signatures : BuiltinCommand → List (Signature BuiltinForm)
  | .help =>
    [Signature.create .helpList, (Signature.create .helpTopic).argument "command" .literal]
  | .includeFile =>
    [(Signature.create .includeFile).argument "file" .path,
      (Signature.create .includeFile).argument "file" .string]
  | .store kind =>
    [(Signature.create (.storeAwait kind)).argument "name" .name,
      ((Signature.create (.storeOpen kind)).argument "name" .name).argument "terminator"
        .terminator,
      ((Signature.create (.storeValue kind)).argument "name" .name).argument "value" .any]
  | .execute =>
    [(Signature.create .executeVariable).argument "variable" .variable,
      (Signature.create .executeTokens).rest .any]
  | .playMacro => [(Signature.create .playMacro).argument "macro" .name]
  | .machine =>
    [Signature.create .machineList,
      (keyword .machineSelect "set").argument "name" .string,
      (keyword .machineSelect "set").argument "name" .literal,
      (keyword .machineSelectAt "set").argument "index" .integer,
      (keyword .machineAdd "add").argument "name" .string,
      (keyword .machineRemove "rem").argument "name" .string,
      keyword .machineCreate "create",
      (keyword .machineCreate "create").argument "name" .string,
      keyword .machineClear "clear"]
  | .useNames =>
    [Signature.create .useList, (Signature.create .useAdd).argument "prefix" .literal]
  | .searchPath =>
    [Signature.create .pathShow,
      keyword .pathReset "reset",
      (keyword .pathSet "set").argument "directories" .path,
      (keyword .pathSet "set").argument "directories" .string,
      (keyword .pathAdd "add").argument "directories" .path,
      (keyword .pathAdd "add").argument "directories" .string]
  | .verbose =>
    [Signature.create .verboseShow, (Signature.create .verboseSet).argument "enabled" .boolean]
  | .numbersMode =>
    [Signature.create .numbersShow,
      (Signature.create .numbersSet).oneOf "mode" (NumberMode.all.map NumberMode.name)]
  | .peripherals => [Signature.create .peripheralTree]
  | .start =>
    [Signature.create .startAll, (Signature.create .startScript).argument "file" .path]
  | .pause => [Signature.create .pauseAll]
  | .hostSource =>
    [(Signature.create .hostSource).argument "code" .string,
      (Signature.create .hostSource).argument "code" .variable]
  | .quit => [Signature.create .quit]

end BuiltinCommand

end MachineConsole
