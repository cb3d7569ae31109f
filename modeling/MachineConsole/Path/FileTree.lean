import MachineConsole.Fault
import MachineConsole.Path.Basic
import Std.Data.TreeMap

/-!
Contract: the files that scripts are read from, as a value.

Owns:
- `FileTree`: a working directory and the entries below the root, by absolute path;
- following a path segment by segment, and the causes for which this fails;
- reading a file and listing a directory.
-/

namespace MachineConsole

/-- What stands under a name. A file whose bytes are no text has no content. -/
inductive FileEntry where
  | directory
  | file (content : Option String)
deriving DecidableEq, Repr

/-- Files and directories by absolute path; the root needs no entry. -/
structure FileTree where
  workingDirectory : String
  entries : Std.TreeMap String FileEntry

namespace FileTree

/-- The absolute path of a position, given by its names from the innermost outwards. -/
def keyOf (position : List String) : String :=
  "/" ++ Text.join "/" position.reverse

/-- The entry at a position. -/
def entryAt? (tree : FileTree) (position : List String) : Option FileEntry :=
  if position = [] then some .directory else tree.entries[keyOf position]?

/-- Follows segments from a position. A segment can only be followed out of a directory. -/
def walk (tree : FileTree) :
    List String → List String → Except StorageCause (List String)
  | position, [] => .ok position
  | position, segment :: rest =>
    if tree.entryAt? position != some .directory then .error .notDirectory
    else if segment = "" || segment = "." then walk tree position rest
    else if segment = ".." then walk tree (position.drop 1) rest
    else if 255 < segment.utf8ByteSize then .error .nameTooLong
    else if (tree.entryAt? (segment :: position)).isNone then .error .notFound
    else walk tree (segment :: position) rest

/-- The position of the working directory. -/
def workingPosition (tree : FileTree) : List String :=
  (Path.namedSegments (Path.rawSegments tree.workingDirectory)).reverse

/-- The position a path leads to. -/
def locate (tree : FileTree) (path : String) : Except StorageCause (List String) :=
  if path = "" then .error .notFound
  else if path.toList.contains '\x00' then
    .error (.stated "file name contained an unexpected NUL byte")
  else if 4096 ≤ path.utf8ByteSize then .error .nameTooLong
  else if Path.isAbsolute path then tree.walk [] (Path.rawSegments path)
  else tree.walk tree.workingPosition (Path.rawSegments path)

/-- The entry a path leads to. -/
def entry? (tree : FileTree) (path : String) : Option FileEntry :=
  match tree.locate path with
  | .ok position => tree.entryAt? position
  | .error _ => none

/-- Whether a path leads to anything. -/
def contains (tree : FileTree) (path : String) : Bool :=
  (tree.entry? path).isSome

/-- Whether a path leads to a directory. -/
def isDirectory (tree : FileTree) (path : String) : Bool :=
  tree.entry? path == some .directory

/-- The text of the file a path leads to. -/
def read (tree : FileTree) (path : String) : Except StorageCause String := do
  let position ← tree.locate path
  match tree.entryAt? position with
  | none => .error .notFound
  | some .directory => .error .isDirectory
  | some (.file none) => .error .notText
  | some (.file (some content)) => .ok content

/-- The name of an entry directly below a directory, given both keys. -/
def childName? (directoryKey key : String) : Option String :=
  let lead := if directoryKey = "/" then "/" else directoryKey ++ "/"
  match lead.toList.isPrefixOf? key.toList with
  | some name => if name = [] || name.contains '/' then none else some (String.ofList name)
  | none => none

/-- The names in a directory, each with whether it is a directory itself. -/
def list (tree : FileTree) (path : String) : List (String × Bool) :=
  match tree.locate path with
  | .error _ => []
  | .ok position =>
    if tree.entryAt? position != some .directory then []
    else
      tree.entries.toList.filterMap fun item =>
        (childName? (keyOf position) item.1).map fun name => (name, item.2 == .directory)

/-- The tree with directories at every prefix of a position that has no entry. -/
def makeDirectories (tree : FileTree) : List String → FileTree
  | [] => tree
  | name :: outer =>
    let tree := tree.makeDirectories outer
    match tree.entryAt? (name :: outer) with
    | some _ => tree
    | none => { tree with entries := tree.entries.insert (keyOf (name :: outer)) .directory }

/-- The tree with an entry at a path, and directories above it. -/
def write (tree : FileTree) (path : String) (entry : FileEntry) : FileTree :=
  let segments := (Path.namedSegments (Path.rawSegments path)).reverse
  let position := if Path.isAbsolute path then segments else segments ++ tree.workingPosition
  match position with
  | [] => tree
  | name :: outer =>
    let tree := tree.makeDirectories outer
    { tree with entries := tree.entries.insert (keyOf (name :: outer)) entry }

/-- A tree that holds only its working directory. -/
def empty (workingDirectory : String) : FileTree :=
  let tree : FileTree := ⟨workingDirectory, ∅⟩
  tree.makeDirectories tree.workingPosition

end FileTree

end MachineConsole
