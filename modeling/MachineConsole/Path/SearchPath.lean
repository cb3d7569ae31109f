import MachineConsole.Path.FileTree

/-!
Contract: the directories searched for scripts.

Owns: `SearchPath`, its changes from `;`-separated lists, and finding a file on it.
-/

namespace MachineConsole

/-- Directories in the order in which they are searched, and those to return to. -/
structure SearchPath where
  defaults : List String
  entries : List String
deriving DecidableEq, Repr

namespace SearchPath

/-- The separator of directories in a list. -/
def separator : Char := ';'

def ofDefaults (defaults : List String) : SearchPath :=
  ⟨defaults, defaults⟩

/-- The directories of a list, without blanks around them; blank ones are left out. -/
def directories (list : String) : List String :=
  ((Text.pieces separator list.toList).map fun piece => String.ofList (Text.trim piece)).filter
    (· != "")

/-- Searches exactly the directories of a list. -/
def set (path : SearchPath) (list : String) : SearchPath :=
  { path with entries := directories list }

/-- Searches the directories of a list first; those already present keep their place. -/
def add (path : SearchPath) (list : String) : SearchPath :=
  let added := (directories list).filter fun directory => !path.entries.any (Path.same directory)
  { path with entries := added ++ path.entries }

/-- Searches the default directories again. -/
def reset (path : SearchPath) : SearchPath :=
  { path with entries := path.defaults }

/-- The directories as a list. -/
def text (path : SearchPath) : String :=
  Text.join (String.singleton separator) path.entries

/-- Finds a file: as given when it exists, otherwise, unless it is absolute, in the first directory
that holds it. -/
def find? (path : SearchPath) (tree : FileTree) (file : String) : Option String :=
  if tree.contains file then some file
  else if Path.isAbsolute file then none
  else (path.entries.map fun directory => Path.join directory file).find? tree.contains

end SearchPath

end MachineConsole
