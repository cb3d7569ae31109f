import MachineConsole.Config.Toml.Scalar

/-!
Contract: reading TOML documents.

Owns:
- values, with a bound on how deeply arrays and inline tables nest;
- `Toml.ofText?`: the tree of a document, or `none` when the text is no document or defines
  something twice.
-/

namespace MachineConsole.Toml

/-- Arrays and inline tables nest less deeply than this, and keys have fewer segments. -/
def nestingBound : Nat := 80

/-- A key, as the segments in front of the last and the last. -/
def readPath (text : List Char) : Option (List String × String × List Char) := do
  let (segments, rest) ← readKey nestingBound text
  let last ← segments.getLast?
  if segments.length < nestingBound then some (segments.dropLast, last, rest) else none

/-- The items of an array up to its closing bracket, given a reader of items and a bound on their
number. -/
def readItems (readValue : Reader Node) : Nat → Reader (List Node)
  | 0, _ => none
  | bound + 1, text =>
    match skipSpace text with
    | ']' :: rest => some ([], rest)
    | start => do
      let (item, after) ← readValue start
      match skipSpace after with
      | ']' :: rest => return ([item], rest)
      | ',' :: rest =>
        let (items, rest) ← readItems readValue bound rest
        return (item :: items, rest)
      | _ => none

/-- A key with its value. -/
structure Pair where
  path : List String
  key : String
  value : Node

/-- A key, an equality sign and a value. -/
def readPair (readValue : Reader Node) : Reader Pair := fun text => do
  let (path, key, rest) ← readPath text
  let (value, rest) ← readValue (skipBlanks (← afterMark? '=' rest))
  return (⟨path, key, value⟩, rest)

/-- The pairs of an inline table up to its closing brace, given a bound on their number. -/
def readPairs (readValue : Reader Node) : Nat → Entries → Reader Entries
  | 0, _, _ => none
  | bound + 1, entries, text => do
    let (pair, rest) ← readPair readValue text
    let entries ← defineDotted .inlineDotted pair.key pair.value pair.path entries
    match skipBlanks rest with
    | '\x7d' :: rest => return (entries, rest)
    | ',' :: rest => readPairs readValue bound entries rest
    | _ => none

/-- A value with fewer than so many levels of arrays and inline tables. -/
def readValue : Nat → Reader Node
  | 0, _ => none
  | depth + 1, text =>
    match text with
    | '\x22' :: _ | '\x27' :: _ =>
      (readText text).map fun result => (.text (String.ofList result.1), result.2)
    | '[' :: rest =>
      if depth = 0 then none
      else
        (readItems (readValue depth) (text.length + 1) rest).map fun result =>
          (.array result.1, result.2)
    | '\x7b' :: rest =>
      if depth = 0 then none
      else
        match skipBlanks rest with
        | '\x7d' :: after => some (.table .inline [], after)
        | start =>
          (readPairs (readValue depth) (text.length + 1) [] start).map fun result =>
            (.table .inline result.1, result.2)
    | 't' :: 'r' :: 'u' :: 'e' :: rest => some (.boolean true, rest)
    | 'f' :: 'a' :: 'l' :: 's' :: 'e' :: rest => some (.boolean false, rest)
    | _ =>
      match afterDateTime? text with
      | some rest => some (.moment, rest)
      | none => (afterNumber? text).map fun rest => (.number, rest)

/-- A document in the making: its tree and the path of the header in effect. -/
structure Draft where
  entries : Entries
  header : List String

/-- The draft after a header, behind its opening brackets. -/
def Draft.addHeader (draft : Draft) (ofArray : Bool) (text : List Char) :
    Option (Draft × List Char) := do
  let (path, key, rest) ← readPath text
  let rest ← afterMark? ']' rest
  let rest ← if ofArray then afterMark? ']' rest else some rest
  let rest ← afterLine? rest
  let opened := if ofArray then openNextTable key else openTable key
  return (⟨← changeAt opened path draft.entries, path ++ [key]⟩, rest)

/-- The draft after a pair. -/
def Draft.addPair (draft : Draft) (text : List Char) : Option (Draft × List Char) := do
  let (pair, rest) ← readPair (readValue nestingBound) text
  let rest ← afterLine? rest
  let entries ← changeAt (defineDotted .dotted pair.key pair.value pair.path) draft.header
    draft.entries
  return (⟨entries, draft.header⟩, rest)

/-- The tree of a document that continues a draft, given a bound on its lines. -/
def readLines : Nat → Draft → List Char → Option Entries
  | 0, _, _ => none
  | bound + 1, draft, text =>
    match skipBlanks text with
    | [] => some draft.entries
    | '\n' :: rest => readLines bound draft rest
    | '\r' :: rest => do readLines bound draft (← afterMark? '\n' rest)
    | '#' :: rest => do readLines bound draft (← afterLine? ('#' :: rest))
    | '[' :: '[' :: rest => do
      let (draft, rest) ← draft.addHeader true rest
      readLines bound draft rest
    | '[' :: rest => do
      let (draft, rest) ← draft.addHeader false rest
      readLines bound draft rest
    | start => do
      let (draft, rest) ← draft.addPair start
      readLines bound draft rest

/-- The tree of a document. A byte order mark at its beginning is no part of it. -/
def ofText? (text : String) : Option Entries :=
  let characters := match text.toList with
    | '\ufeff' :: rest => rest
    | characters => characters
  readLines (characters.length + 1) ⟨[], []⟩ characters

end MachineConsole.Toml
