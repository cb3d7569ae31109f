import MachineConsole.Text.Pieces

/-!
Contract: where commands write and read.

Owns: `Sink`, recorded output and error output, and the lines of input still to be read.
-/

namespace MachineConsole

/-- Recorded output and pending input. -/
structure Sink where
  output : String
  errors : String
  input : List String
deriving DecidableEq, Repr

namespace Sink

def empty : Sink := ⟨"", "", []⟩

/-- A sink with lines to read. -/
def ofInput (lines : List String) : Sink :=
  { empty with input := lines }

def write (sink : Sink) (text : String) : Sink :=
  { sink with output := sink.output ++ text }

def writeLine (sink : Sink) (text : String) : Sink :=
  { sink with output := sink.output ++ text ++ "\n" }

def writeLines (sink : Sink) (lines : List String) : Sink :=
  lines.foldl writeLine sink

def writeError (sink : Sink) (text : String) : Sink :=
  { sink with errors := sink.errors ++ text ++ "\n" }

def writeErrors (sink : Sink) (lines : List String) : Sink :=
  lines.foldl writeError sink

/-- The next line of input, if there is one, and the sink after it. -/
def readLine (sink : Sink) : Option String × Sink :=
  match sink.input with
  | [] => (none, sink)
  | line :: rest => (some line, { sink with input := rest })

def hasErrors (sink : Sink) : Bool :=
  sink.errors != ""

/-- The sink without what was written so far. -/
def clear (sink : Sink) : Sink :=
  { sink with output := "", errors := "" }

/-- The output without one line break at its end. -/
def outputText (sink : Sink) : String :=
  match sink.output.toList.reverse with
  | '\n' :: '\r' :: before => String.ofList before.reverse
  | '\n' :: before => String.ofList before.reverse
  | _ => sink.output

end Sink

end MachineConsole
