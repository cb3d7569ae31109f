/-!
Contract: the tree of a TOML document.

Owns:
- `Node`, the values and tables of a document, as far as settings are made of them;
- the rules by which a key or a header may define something at a path.

A key defines its value once. A header may name a table that so far only stood on the way to
another one, and never a table made by dotted keys; dotted keys extend only tables made by them.
-/

namespace MachineConsole.Toml

/-- What made a table. -/
inductive Origin where
  /-- A header of its own, or the document itself. -/
  | header
  /-- A header of a table below it. -/
  | path
  /-- A dotted key. -/
  | dotted
  /-- Braces. -/
  | inline
  /-- A dotted key between braces. -/
  | inlineDotted
deriving DecidableEq, Repr

/-- A value or a table. -/
inductive Node where
  | boolean (value : Bool)
  | text (text : String)
  | number
  /-- A date, a time of day, or both. -/
  | moment
  | array (items : List Node)
  | table (origin : Origin) (entries : List (String × Node))
  /-- An array of tables, each under a header of its own. -/
  | tables (items : List (List (String × Node)))

/-- The entries of a table in the order of their keys' first appearance. -/
abbrev Entries := List (String × Node)

namespace Entries

/-- The entries with the value of a key replaced, or a new one at the end. -/
def put (key : String) (node : Node) : Entries → Entries
  | [] => [(key, node)]
  | (other, value) :: rest =>
    if other = key then (key, node) :: rest else (other, value) :: put key node rest

end Entries

/-- All tables but the last changed by nothing, and the last by a function. -/
def changeLast (change : Entries → Option Entries) : List Entries → Option (List Entries)
  | [] => none
  | [last] => (change last).map fun changed => [changed]
  | first :: second :: rest => (changeLast change (second :: rest)).map (first :: ·)

/-- Defines a key that is not defined yet. -/
def define (key : String) (node : Node) (entries : Entries) : Option Entries :=
  match entries.lookup key with
  | some _ => none
  | none => some (entries ++ [(key, node)])

/-- Defines a dotted key; tables on its way get the origin `made`. -/
def defineDotted (made : Origin) (key : String) (node : Node) :
    List String → Entries → Option Entries
  | [], entries => define key node entries
  | first :: rest, entries =>
    match entries.lookup first with
    | none =>
      (defineDotted made key node rest []).map fun inner =>
        entries ++ [(first, .table made inner)]
    | some (.table origin inner) =>
      if origin = made || (made = .dotted && origin = .path && rest != []) then
        (defineDotted made key node rest inner).map fun extended =>
          Entries.put first (.table origin extended) entries
      else none
    | some (.tables items) =>
      if made = .dotted && rest != [] then
        (changeLast (defineDotted made key node rest) items).map fun changed =>
          Entries.put first (.tables changed) entries
      else none
    | some _ => none

/-- Changes the table that a header path leads to. Missing tables are made; an array of tables
stands for the last of them. -/
def changeAt (change : Entries → Option Entries) : List String → Entries → Option Entries
  | [], entries => change entries
  | first :: rest, entries =>
    match entries.lookup first with
    | none =>
      (changeAt change rest []).map fun inner => entries ++ [(first, .table .path inner)]
    | some (.table origin inner) =>
      if origin = .inline || origin = .inlineDotted then none
      else
        (changeAt change rest inner).map fun changed =>
          Entries.put first (.table origin changed) entries
    | some (.tables items) =>
      (changeLast (changeAt change rest) items).map fun changed =>
        Entries.put first (.tables changed) entries
    | some _ => none

/-- Opens the table of a header. -/
def openTable (key : String) (entries : Entries) : Option Entries :=
  match entries.lookup key with
  | none => some (entries ++ [(key, .table .header [])])
  | some (.table .path inner) => some (Entries.put key (.table .header inner) entries)
  | some _ => none

/-- Adds a table to the array of a header. -/
def openNextTable (key : String) (entries : Entries) : Option Entries :=
  match entries.lookup key with
  | none => some (entries ++ [(key, .tables [[]])])
  | some (.tables items) => some (Entries.put key (.tables (items ++ [[]])) entries)
  | some _ => none

end MachineConsole.Toml
