import MachineConsole.Console.Basic
import MachineConsole.Text.LowerCase

/-!
Contract: completions of a partly typed line.

Owns:
- `Completion.lastCommand`, the command that is being typed;
- `Completion.words`, the words of a line, in which an escaped space does not separate;
- `Console.suggestions`, every way to complete the word being typed, each as a whole line, in order.
-/

namespace MachineConsole

namespace Completion

/-- What follows the last separator outside quotation marks, if there is one. -/
def afterSeparator? (quote? : Option Char) : List Char → Option (List Char)
  | [] => none
  | character :: rest =>
    match quote? with
    | some quote => afterSeparator? (if character = quote then none else some quote) rest
    | none =>
      if character = '\x22' || character = '\x27' then afterSeparator? (some character) rest
      else if character = ';' then some ((afterSeparator? none rest).getD rest)
      else afterSeparator? none rest

/-- The text behind the last separator outside quotation marks, without leading blanks. -/
def lastCommand (text : List Char) : List Char :=
  Text.trimStart ((afterSeparator? none text).getD text)

/-- The word of some characters, last first, unless it is empty. -/
def nonEmptyWord (begun : List Char) : List String :=
  if begun = [] then [] else [String.ofList begun.reverse]

/-- The words of a text that continues a word already begun, whose characters are given last
first. -/
def wordsFrom (begun : List Char) : List Char → List String
  | [] => nonEmptyWord begun
  | '\\' :: ' ' :: rest => wordsFrom (' ' :: '\\' :: begun) rest
  | character :: rest =>
    if Text.isBlank character then nonEmptyWord begun ++ wordsFrom [] rest
    else wordsFrom (character :: begun) rest

/-- The words between blanks. -/
def words (text : List Char) : List String :=
  wordsFrom [] text

/-- Words with a space behind each. -/
def spaced (words : List String) : String :=
  String.join (words.map (· ++ " "))

/-- Those of some words that begin with a text. -/
def beginningWith (typed : String) (words : List String) : List String :=
  words.filter fun word => Text.beginsWith word typed

/-- Those of some words that begin with a text, letter case aside. -/
def beginningWithLower (typed : String) (words : List String) : List String :=
  words.filter fun word =>
    (Text.lower typed.toList).isPrefixOf (Text.lower word.toList)

end Completion

namespace Console

open Completion

/-- The names of all members and extensions of an object. -/
def memberNames (console : Console) (object : ObjectRef) : List String :=
  ((console.types.table? object).map MemberTable.memberNames).getD [] ++
    (console.types.extensionsOf object).map Method.name

/-- Completions of a variable name. -/
def variableCompletions (console : Console) (typed : String) : List String :=
  let scope := console.scopes.current?.getD Scopes.globalScope ++ "."
  let names := console.session.variableStore.names ++ console.session.macroStore.names
  let inScope := names.filterMap fun name =>
    (scope.toList.isPrefixOf? name.toList).map String.ofList
  beginningWith typed (names ++ inScope)

/-- The directory part of a path being typed, with its slash, and the part of a name behind it. -/
def splitTypedPath (typed : String) : String × String :=
  match Text.cutLast? '/' typed.toList with
  | some (directory, file) => (String.ofList (directory ++ ['/']), String.ofList file)
  | none => ("", typed)

/-- The directories in which a relative path is completed. -/
def completionRoots (console : Console) (directory : String) : List String :=
  (console.path.entries.filter console.world.files.isDirectory).map fun entry =>
    Path.join entry directory

/-- Completions of a path; directories get a slash. -/
def pathCompletions (console : Console) (written : String) : List String :=
  let typed := String.ofList (Text.unescapeSpaces written.toList)
  let (directory, file) := splitTypedPath typed
  let roots := if Path.isAbsolute typed then [directory] else console.completionRoots directory
  let entries := roots.flatMap console.world.files.list
  (entries.filter fun entry => Text.beginsWith entry.1 file).map fun entry =>
    let completed := directory ++ entry.1 ++ (if entry.2 then "/" else "")
    String.ofList (Text.escapeSpaces completed.toList)

/-- Completions of the word being typed, behind the words before it, by its first character. -/
def sigilCompletions (console : Console) (before word : String) : List String :=
  match word.toList with
  | '@' :: path =>
    (console.pathCompletions (String.ofList path)).map fun completed =>
      before ++ "@" ++ completed
  | '$' :: name =>
    (console.variableCompletions (String.ofList name)).map fun completed =>
      before ++ "$" ++ completed
  | _ => []

/-- Full names as shown, with the sign of variables. -/
def shownVariables (console : Console) (names : List String) : List String :=
  names.map fun name => "$" ++ console.scopes.unqualified name

/-- What a command completes its argument to. -/
def commandCompletions (console : Console) (typed : String) : Command → List String
  | .added command => command.complete typed
  | .builtin command =>
    match command with
    | .help => beginningWith typed console.commands.names
    | .execute => beginningWith typed (console.shownVariables console.session.variableStore.names)
    | .playMacro => beginningWith typed (console.shownVariables console.session.macroStore.names)
    | .machine =>
      beginningWith typed
        (["set", "add", "rem", "create", "clear"] ++ console.emulation.machineNames)
    | .numbersMode => beginningWith typed (NumberMode.all.map NumberMode.name)
    | _ => []

/-- Completions of the only argument of a command or a device. -/
def argumentCompletions (console : Console) (name typed : String) : List String :=
  match console.commands.get? name with
  | some command => console.commandCompletions typed command
  | none =>
    match console.surroundings.resolve name with
    | .ok target => beginningWithLower typed (console.memberNames target.object)
    | .error _ => []

/-- Completions of the name that a command begins with. -/
def nameCompletions (console : Console) (typed : String) : List String :=
  beginningWith typed
    (console.commands.names ++ console.surroundings.availableNames ++
      (console.host?.map ScriptHost.builtinNames).getD [])

/-- Completions of the command being typed, by its words between single spaces. -/
def lineCompletions (console : Console) (head command beforeArgument : String)
    (found : List String) : List String :=
  match (Text.pieces ' ' command.toList).map String.ofList with
  | [name] =>
    match found ++ (console.nameCompletions name).map (head ++ ·) with
    | [] => beginningWithLower command (console.memberNames (.manager console.manager))
    | completions => completions
  | [name, typed] =>
    found ++ (console.argumentCompletions name typed).map (beforeArgument ++ ·)
  | _ => found

/-- The completions of a line, in order. -/
def suggestions (console : Console) (line : String) : List String :=
  let text := line.toList
  let command := lastCommand text
  let head := String.ofList (text.take (text.length - command.length))
  let words := Completion.words text
  let trailing := text.getLast? == some ' '
  let beforeWord := spaced words.dropLast
  let word := if trailing then "" else words.getLast?.getD ""
  let beforeArgument := if trailing then spaced words else beforeWord
  Text.sortedDistinct
    (console.lineCompletions head (String.ofList command) beforeArgument
      (console.sigilCompletions beforeWord word))

end Console

end MachineConsole
