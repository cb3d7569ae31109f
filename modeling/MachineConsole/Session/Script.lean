import MachineConsole.Text.Pieces

/-!
Contract: the lines of a script.

Owns: `Script.logicalLines`, which joins physical lines into the lines that are run one by one.

A physical line with an odd number of triple quotation marks opens a block, and the next such line
closes it; the block is one logical line. A block whose opening line begins with the mark belongs
to the line in front of it.
-/

namespace MachineConsole.Script

/-- How many times the triple quotation mark occurs, read from the left without overlap. -/
def terminators : List Char → Nat
  | [] => 0
  | '\x22' :: '\x22' :: '\x22' :: rest => terminators rest + 1
  | _ :: rest => terminators rest

/-- Whether a physical line opens or closes a block. -/
def turnsBlock (line : String) : Bool :=
  terminators line.toList % 2 == 1

/-- Whether a line begins with the triple quotation mark, blanks aside. -/
def beginsWithTerminator (line : String) : Bool :=
  ['\x22', '\x22', '\x22'].isPrefixOf (Text.trimStart line.toList)

/-- The logical lines finished so far, latest first, and the block that is open. -/
structure Assembly where
  finished : List String
  open? : Option String
deriving DecidableEq, Repr

namespace Assembly

/-- The assembly after one more physical line. -/
def add (assembly : Assembly) (line : String) : Assembly :=
  match assembly.open? with
  | some block =>
    let extended := block ++ "\n" ++ line
    if turnsBlock line then ⟨extended :: assembly.finished, none⟩
    else ⟨assembly.finished, some extended⟩
  | none =>
    if !turnsBlock line then ⟨line :: assembly.finished, none⟩
    else if beginsWithTerminator line then
      match assembly.finished with
      | [] => ⟨[], some line⟩
      | previous :: earlier => ⟨earlier, some (previous ++ "\n" ++ line)⟩
    else ⟨assembly.finished, some line⟩

/-- The logical lines; a block that was never closed is the last one. -/
def lines (assembly : Assembly) : List String :=
  assembly.finished.reverse ++ assembly.open?.toList

end Assembly

/-- The logical lines of a script. -/
def logicalLines (text : String) : List String :=
  ((Text.lines text).foldl Assembly.add ⟨[], none⟩).lines

end MachineConsole.Script
