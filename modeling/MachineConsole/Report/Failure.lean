import MachineConsole.Token.Lexer

/-!
Contract: how failures are reported.

Owns:
- `Fault.report`: a name that is not known is reported by its message alone, any other fault under
  a heading with its parts indented by their depth;
- `Tokenization.report`: the line with a caret under the first character that was not consumed.
-/

namespace MachineConsole

namespace Fault

mutual

/-- The lines for a fault and its parts at a depth. -/
def details (depth : Nat) : Fault → List String
  | .aggregate faults => allDetails depth faults
  | .wrapped none inner => details depth inner
  | .wrapped (some context) inner =>
    (Text.repeated "\t" depth ++ context) :: details (depth + 1) inner
  | fault => [Text.repeated "\t" depth ++ fault.message]

/-- The lines for faults at the same depth. -/
def allDetails (depth : Nat) : List Fault → List String
  | [] => []
  | fault :: rest => details depth fault ++ allDetails depth rest

end

/-- The report of a fault of a command. -/
def report (command : String) (fault : Fault) : List String :=
  match fault with
  | .noSuchName _ _ | .noSuchVariable _ => [fault.message]
  | _ => ("There was an error executing command '" ++ command ++ "'") :: details 0 fault

end Fault

/-- The report of a line that could not be tokenized as a whole. -/
def Tokenization.report (line : String) (result : Tokenization) : List String :=
  ["Could not tokenize here:", line,
    Text.repeated " " (line.length - result.unmatched) ++ "^"] ++
      (result.fault.map Fault.message).toList

end MachineConsole
