import MachineConsole.Command.Builtin
import MachineConsole.Console.Performance

/-!
Contract: the commands of a console by name and alias.

Owns:
- `Command`, one that every console has or one added to it, with its help;
- `CommandTable`: registration and look-up. An alias leads to the command that was registered with
  it last, even when a command of that name exists.
-/

namespace MachineConsole

/-- A command added to a console. -/
structure AddedCommand where
  name : String
  aliases : List String
  description : String
  signatures : List (Signature String)
  /-- Runs a form with its arguments; `false` stands for a failure that was already reported. -/
  run : String → List Token → Perform Bool
  /-- Completions of the argument being typed. -/
  complete : String → List String

/-- A command. -/
inductive Command where
  | builtin (command : BuiltinCommand)
  | added (command : AddedCommand)

namespace Command

def name : Command → String
  | .builtin command => command.name
  | .added command => command.name

def aliases : Command → List String
  | .builtin command => command.aliases
  | .added command => command.aliases

def description : Command → String
  | .builtin command => command.description
  | .added command => command.description

/-- The usage texts of the forms. -/
def usages : Command → List String
  | .builtin command => command.signatures.map fun signature => signature.usage command.name
  | .added command => command.signatures.map fun signature => signature.usage command.name

/-- The help for a command. -/
def helpLines (command : Command) : List String :=
  [command.name ++ " - " ++ command.description] ++
    (if command.aliases.isEmpty then []
    else ["Aliases: " ++ Text.join ", " command.aliases]) ++
    ["", "Usage:"] ++ command.usages.map fun usage => " " ++ usage

end Command

/-- Commands by name, and names of commands by alias. -/
structure CommandTable where
  commands : Std.TreeMap String Command
  aliases : Std.TreeMap String String

namespace CommandTable

def empty : CommandTable := ⟨∅, ∅⟩

/-- Registers a command in place of any other of its name. -/
def register (table : CommandTable) (command : Command) : CommandTable :=
  { commands := table.commands.insert command.name command
    aliases := command.aliases.foldl
      (fun aliases word => aliases.insert word command.name) table.aliases }

/-- The commands every console has. -/
def builtin : CommandTable :=
  (BuiltinCommand.all.map Command.builtin).foldl register empty

/-- The command that a word means. -/
def get? (table : CommandTable) (word : String) : Option Command :=
  table.commands[table.aliases[word]?.getD word]?

/-- The commands in order of their names. -/
def toList (table : CommandTable) : List Command :=
  table.commands.values

/-- Names and aliases in order. -/
def names (table : CommandTable) : List String :=
  Text.sorted (table.commands.keys ++ table.aliases.keys)

def size (table : CommandTable) : Nat :=
  table.commands.size

end CommandTable

end MachineConsole
