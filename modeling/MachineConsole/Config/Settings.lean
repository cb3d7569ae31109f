import MachineConsole.Report.NumberMode

/-!
Contract: what a console can be set up with.

Owns: `Settings` and its defaults.
-/

namespace MachineConsole

/-- The settings of a console. -/
structure Settings where
  /-- Print failures of every kind instead of handing some of them to the caller. -/
  consumeExceptions : Bool
  /-- Leave the rest of a line or script undone after a failure. -/
  breakOnException : Bool
  numberMode : NumberMode
  /-- Directories searched for scripts after the working directory. -/
  path : List String
deriving DecidableEq, Repr

def Settings.default : Settings :=
  { consumeExceptions := true
    breakOnException := true
    numberMode := .hexadecimal
    path := [] }

end MachineConsole
