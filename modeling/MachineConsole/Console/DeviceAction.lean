import MachineConsole.Console.Eval
import MachineConsole.Member.Listing
import MachineConsole.Report.Result

/-!
Contract: what an invocation of an object prints.

Owns: `Eval.deviceAction`. Without arguments the members of the object are listed; otherwise the
action is performed and its result printed, and arguments that no overload accepts make the
overloads be shown.
-/

namespace MachineConsole.Eval

/-- Lists the members of an object. -/
def listMembers (target : Resolved) : Eval Unit := do
  let state ← console
  writeLines (Listing.memberListing state.world.label target.name
    (state.types.table? target.object) (state.types.extensionsOf target.object))

/-- Shows how a member of an object is used. -/
def showMemberHelp (target : Resolved) (member : String) : Eval Unit := do
  let state ← console
  writeLines (Listing.memberHelp state.world.label target.name member
    (state.types.table? target.object) (state.types.extensionsOf target.object))

/-- Performs the action that arguments ask of an object and prints its result. -/
def performAction (target : Resolved) (arguments : List Token) : Eval Unit := do
  let request : ActionRequest := ⟨target.object, target.name, arguments⟩
  record (.received (.object target.object) arguments)
  match ← attempt (act (request.invoke (← console).conversion)) with
  | .ok result =>
    let state ← console
    writeLines (result.lines state.session.numberMode state.world.label)
  | .error (.parametersMismatch member) =>
    showMemberHelp target member
    fail (.parametersMismatch member)
  | .error fault => fail fault

/-- Lists the members of an object or acts upon it. -/
def deviceAction (target : Resolved) (arguments : List Token) : Eval Unit :=
  if arguments.isEmpty then listMembers target else performAction target arguments

end MachineConsole.Eval
