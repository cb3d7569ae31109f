import MachineConsole.Text.Pieces

/-!
Contract: telling remote resources from local paths and naming their local copies.

Owns:
- `Uri.isRemote`: whether a text is a scheme other than `file`, `://` and a non-empty rest;
- `Uri.cacheName`: the file name under which a copy is kept.
-/

namespace MachineConsole.Uri

/-- Whether a text can be the scheme of a URI. -/
def isScheme : List Char → Bool
  | [] => false
  | first :: rest =>
    first.isAlpha && rest.all fun character =>
      character.isAlphanum || character == '+' || character == '-' || character == '.'

/-- Whether a text names a resource that is not a local file. -/
def isRemote (text : String) : Bool :=
  match Text.cutAt? [':', '/', '/'] text.toList with
  | none => false
  | some (scheme, rest) =>
    isScheme scheme && scheme.map Char.toLower != ['f', 'i', 'l', 'e'] && !rest.isEmpty

/-- A character that may stand in the name of a copy. -/
def isNameCharacter (character : Char) : Bool :=
  character.isAlphanum || character == '.' || character == '-' || character == '_'

/-- The last non-empty segment in front of any query or fragment, with every doubtful character
replaced by an underscore. -/
def cacheName (uri : String) : String :=
  let resource := uri.toList.takeWhile fun character => character != '?' && character != '#'
  let last := (((Text.pieces '/' resource).reverse).find? fun piece => !piece.isEmpty).getD
    ['d', 'o', 'w', 'n', 'l', 'o', 'a', 'd']
  String.ofList (last.map fun character => if isNameCharacter character then character else '_')

end MachineConsole.Uri
