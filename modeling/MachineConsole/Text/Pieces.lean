import MachineConsole.Text.Blank

/-!
Contract: taking texts apart and putting them together.

Owns:
- joining strings with a separator;
- cutting at a character or at a pattern;
- physical lines;
- padding, repetition and the escaping of spaces.

Does not own: tokens and quoting.
-/

namespace MachineConsole.Text

/-- Strings with a separator between neighbours. -/
def join (separator : String) : List String → String
  | [] => ""
  | [only] => only
  | first :: second :: rest => first ++ separator ++ join separator (second :: rest)

/-- A string repeated. -/
def repeated (text : String) : Nat → String
  | 0 => ""
  | count + 1 => text ++ repeated text count

/-- A string followed by spaces up to a width. -/
def padRight (width : Nat) (text : String) : String :=
  text ++ repeated " " (width - text.length)

/-- The parts before and after the first occurrence of a character. -/
def cut? (mark : Char) : List Char → Option (List Char × List Char)
  | [] => none
  | character :: rest =>
    if character = mark then some ([], rest)
    else (cut? mark rest).map fun parts => (character :: parts.1, parts.2)

/-- The parts before and after the last occurrence of a character. -/
def cutLast? (mark : Char) (text : List Char) : Option (List Char × List Char) :=
  (cut? mark text.reverse).map fun parts => (parts.2.reverse, parts.1.reverse)

/-- The parts before and after the first occurrence of a pattern. -/
def cutAt? (pattern : List Char) : List Char → Option (List Char × List Char)
  | [] => if pattern = [] then some ([], []) else none
  | character :: rest =>
    match pattern.isPrefixOf? (character :: rest) with
    | some after => some ([], after)
    | none => (cutAt? pattern rest).map fun parts => (character :: parts.1, parts.2)

/-- The pieces between occurrences of a character; there is always at least one. -/
def pieces (mark : Char) : List Char → List (List Char)
  | [] => [[]]
  | character :: rest =>
    if character = mark then [] :: pieces mark rest
    else
      match pieces mark rest with
      | [] => [[character]]
      | first :: more => (character :: first) :: more

/-- The dotted segments of a name. -/
def segments (name : String) : List String :=
  (pieces '.' name.toList).map String.ofList

/-- A text without the given characters at its end. -/
def dropEndWhile (dropped : Char → Bool) (text : List Char) : List Char :=
  (text.reverse.dropWhile dropped).reverse

/-- A line without one carriage return at its end. -/
def dropCarriageReturn (line : List Char) : List Char :=
  match line.reverse with
  | '\r' :: before => before.reverse
  | _ => line

/-- Lines from the pieces between line feeds: every piece but the last was ended by a line feed,
which may have had a carriage return in front of it; an empty last piece is no line. -/
def linesOfPieces : List (List Char) → List (List Char)
  | [] => []
  | [last] => if last = [] then [] else [last]
  | piece :: second :: rest => dropCarriageReturn piece :: linesOfPieces (second :: rest)

/-- The physical lines of a text. -/
def lines (text : String) : List String :=
  (linesOfPieces (pieces '\n' text.toList)).map String.ofList

/-- A text with a backslash in front of every space. -/
def escapeSpaces (text : List Char) : List Char :=
  text.flatMap fun character => if character = ' ' then ['\\', ' '] else [character]

/-- A text with every escaped space turned into a plain one. -/
def unescapeSpaces : List Char → List Char
  | [] => []
  | '\\' :: ' ' :: rest => ' ' :: unescapeSpaces rest
  | character :: rest => character :: unescapeSpaces rest

/-- Whether two strings differ at most in the case of ASCII letters. -/
def sameIgnoringCase (left right : String) : Bool :=
  left.toList.map Char.toLower == right.toList.map Char.toLower

/-- Whether a string begins with another. -/
def beginsWith (text start : String) : Bool :=
  start.toList.isPrefixOf text.toList

/-- Strings in ascending order. -/
def sorted (texts : List String) : List String :=
  texts.mergeSort fun left right => decide (left ≤ right)

/-- Ascending order without neighbours that are equal. -/
def sortedDistinct (texts : List String) : List String :=
  (sorted texts).eraseReps

end MachineConsole.Text
