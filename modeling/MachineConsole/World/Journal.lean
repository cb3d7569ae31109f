import MachineConsole.Fault
import MachineConsole.Token.Basic
import MachineConsole.Value.ObjectRef

/-!
Contract: the record of what was done, in order.

Owns: `Event`, and `Receiver`, whom tokens of an invocation are handed to. Effects on devices, hosts
and downloads are entered by whoever causes them into the journal of the world; what the console does
by itself it enters into a history of its own, which extensions cannot reach.
-/

namespace MachineConsole

/-- Whom tokens of an invocation are handed to. -/
inductive Receiver where
  | object (object : ObjectRef)
  | host
deriving DecidableEq, Repr

/-- One thing that was done. -/
inductive Event where
  /-- The evaluation of the invocations of a line, or of a text that was read again, was begun. -/
  | begun (invocations : List (List Token))
  /-- An invocation was handed to a command, a device or a host. -/
  | dispatched (invocation : List Token)
  /-- The command text of a substitution was run. -/
  | substituted (command : String)
  /-- The evaluation went one level deeper, to this depth. -/
  | deepened (depth : Nat)
  /-- A command had lines evaluated on its own level of nesting. -/
  | reentered
  /-- An object or the scripting host was handed tokens. -/
  | received (receiver : Receiver) (arguments : List Token)
  /-- The session was asked to end. -/
  | quitRequested
  /-- A fault was printed for a command. -/
  | reported (command : String) (fault : Fault)
  /-- A machine was selected to play its reset macro, or again after one was played; `present` tells
  whether it was in the emulation at that time. -/
  | switched (machine : MachineHandle) (present : Bool)
  /-- A remote resource was asked for. -/
  | fetched (uri : String)
  /-- A member of a stub device was called. -/
  | called (object member : String) (arguments : List Value)
  /-- Source text was run by a scripting host. -/
  | scripted (source : String)
  /-- A builtin of a scripting host was run. -/
  | hosted (name : String) (arguments : List Value)
deriving Repr

end MachineConsole
