import MachineConsole.Text.Pieces

/-!
Contract: file paths as texts.

Owns:
- the components of a path, under which two spellings of one path agree;
- joining, the directory and the extension of a path.

Does not own: which paths exist, which is `MachineConsole.Path.FileTree`.
-/

namespace MachineConsole.Path

/-- Whether a path begins at the root. -/
def isAbsolute (path : String) : Bool :=
  path.toList.head? == some '/'

/-- The pieces of a path between slashes. -/
def rawSegments (path : String) : List String :=
  (Text.pieces '/' path.toList).map String.ofList

/-- The pieces that name something: empty ones and single dots name the directory they stand in. -/
def namedSegments (segments : List String) : List String :=
  segments.filter fun segment => segment != "" && segment != "."

/-- The components of a path: the root of an absolute one, then its named segments. A single dot
counts only at the beginning of a relative path. -/
def components (path : String) : List String :=
  if isAbsolute path then "/" :: namedSegments (rawSegments path)
  else
    match rawSegments path with
    | "." :: rest => "." :: namedSegments rest
    | segments => namedSegments segments

/-- Whether two paths have the same components. -/
def same (left right : String) : Bool :=
  components left == components right

/-- A path taken relative to a directory. -/
def join (directory path : String) : String :=
  if isAbsolute path then path
  else if directory = "" || directory.toList.getLast? == some '/' then directory ++ path
  else directory ++ "/" ++ path

/-- A path text from its components. -/
def ofComponents : List String → String
  | "/" :: rest => "/" ++ Text.join "/" rest
  | parts => Text.join "/" parts

/-- The absolute path of the directory a file lies in. Two leading slashes are kept, since a host
may give them a meaning of its own. -/
def directoryOf (workingDirectory file : String) : String :=
  let parents := (components file).dropLast
  if isAbsolute file then
    let doubled := ['/', '/'].isPrefixOf file.toList && !(['/', '/', '/'].isPrefixOf file.toList)
    if doubled && 1 < parents.length then "/" ++ ofComponents parents else ofComponents parents
  else
    (parents.filter fun part => part != ".").foldl join workingDirectory

/-- The extension of a file name: what follows its last dot, unless that is its first character. -/
def extensionOfName (name : String) : String :=
  match Text.cutLast? '.' name.toList with
  | none => ""
  | some (before, after) => if before = [] then "" else String.ofList after

/-- The extension of the file a path names. -/
def extension (path : String) : String :=
  match (components path).getLast? with
  | none => ""
  | some name => if name = ".." || name = "." || name = "/" then "" else extensionOfName name

end MachineConsole.Path
