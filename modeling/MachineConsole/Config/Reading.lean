import MachineConsole.Config.Settings
import MachineConsole.Config.Toml.Document
import MachineConsole.Path.FileTree

/-!
Contract: settings from documents.

Owns: `Settings.ofText`, which reads the table `monitor` of a document, and `Settings.ofFile`.

A setting that is missing keeps its default and keys without a meaning are ignored; a setting of the
wrong kind makes the whole document malformed. An array gives the settings by position.
-/

namespace MachineConsole

namespace SettingNode

open Toml (Node)

def bool? : Node → Option Bool
  | .boolean value => some value
  | _ => none

def text? : Node → Option String
  | .text text => some text
  | _ => none

def texts? : Node → Option (List String)
  | .array items => items.mapM text?
  | _ => none

/-- Whether a node is an empty array or table. -/
def isEmpty : Node → Bool
  | .array items => items.isEmpty
  | .table _ entries => entries.isEmpty
  | _ => false

/-- The number mode of exactly this name. -/
def modeNamed? (name : String) : Option NumberMode :=
  NumberMode.all.find? fun mode => mode.name == name

/-- A number mode: its name, or a table with its name as the only key, of nothing. -/
def mode? : Node → Option NumberMode
  | .text name => modeNamed? name
  | .table _ [(name, value)] => if isEmpty value then modeNamed? name else none
  | _ => none

/-- The value of a setting: the default when it is missing. -/
def valueOr {α : Type} (default : α) (read? : Node → Option α) : Option Node → Option α
  | none => some default
  | some node => read? node

end SettingNode

namespace Settings

open SettingNode
open Toml (Node)

/-- Settings from the nodes for each of them, where there is one. -/
def ofNodes? (consume? break? mode? path? : Option Node) : Option Settings := do
  return {
    consumeExceptions := ← valueOr default.consumeExceptions bool? consume?
    breakOnException := ← valueOr default.breakOnException bool? break?
    numberMode := ← valueOr default.numberMode SettingNode.mode? mode?
    path := ← valueOr default.path texts? path? }

/-- Settings from a table by key or from an array by position. A moment counts as a table without
any of the keys. -/
def ofNode? : Node → Option Settings
  | .table _ entries =>
    ofNodes? (entries.lookup "consume-exceptions-from-command")
      (entries.lookup "break-script-on-exception") (entries.lookup "number-format")
      (entries.lookup "path")
  | .array items => ofNodes? items[0]? items[1]? items[2]? items[3]?
  | .moment => some default
  | _ => none

/-- The settings of a document. -/
def ofDocument? (text : String) : Option Settings := do
  match (← Toml.ofText? text).lookup "monitor" with
  | none => return default
  | some node => ofNode? node

/-- The settings of a document, or the fault that it is malformed. -/
def ofText (text : String) : Except Fault Settings :=
  match ofDocument? text with
  | some settings => .ok settings
  | none => .error (.settings .malformed)

/-- The settings of a file. -/
def ofFile (files : FileTree) (path : String) : Except Fault Settings :=
  match files.read path with
  | .error cause => .error (.storage cause)
  | .ok text => ofText text

end Settings

end MachineConsole
