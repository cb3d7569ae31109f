import MachineConsole.Console.Builtin
import MachineConsole.Uri

/-!
Contract: evaluation of input.

Owns:
- substitutions and remote files in an invocation;
- dispatch of an invocation to a command, a device, the manager or the scripting host;
- what follows every dispatched invocation: noticing a replaced emulation and playing the reset
  macros of machines that were reset;
- `Eval.step`, one level of the evaluator over the next, and `Eval.run`, the evaluator.

Evaluation nests through `Nested`, so a property that `step` carries over from its argument holds of
every `run`.
-/

namespace MachineConsole.Eval

/-! ### Substitutions and remote files -/

/-- What stands in an invocation in the place of one of its tokens. -/
structure Replacement where
  token : Token
  /-- Whether this is the result of a substitution or a download. -/
  isNew : Bool
deriving DecidableEq, Repr

/-- Runs the command of a substitution. Its output becomes a text; without success its errors are
reported and there is none. -/
def substitute (nested : Nested) (command : String) : Eval (Option Replacement) := do
  record (.substituted command)
  let (succeeded, sink) ← onOwnSink (deeper (nested (.line command)))
  if succeeded && !sink.hasErrors then return some ⟨Token.string sink.outputText, true⟩
  else
    writeErrors (Text.lines sink.errors)
    return none

/-- Fetches a remote file. The path of its local copy replaces the token; after a failure the token
stays, unless the rest is to be left undone. -/
def fetchFile (token : Token) (uri : String) : Eval (Option Replacement) := do
  match ← attempt (act (World.fetch uri)) with
  | .ok copy => return some ⟨Token.path copy, true⟩
  | .error _ =>
    writeErrors ["Failed to download " ++ uri ++ ", see log for details."]
    if (← session).breakOnException then return none else return some ⟨token, false⟩

/-- What takes the place of a token in an invocation; `none` ends the invocation. -/
def replaceToken (nested : Nested) (token : Token) : Eval (Option Replacement) := do
  match token.kind with
  | .substitution command => substitute nested command
  | .path path =>
    if !(← console).world.files.contains path && Uri.isRemote path then fetchFile token path
    else return some ⟨token, false⟩
  | _ => return some ⟨token, false⟩

/-- What takes the places of tokens, from the left up to the first that ends the invocation. -/
def replaceTokens (nested : Nested) : List Token → Eval (Option (List Replacement))
  | [] => return some []
  | token :: rest => do
    match ← replaceToken nested token with
    | none => return none
    | some replacement =>
      match ← replaceTokens nested rest with
      | none => return none
      | some others => return some (replacement :: others)

/-! ### Commands -/

/-- The form of a command that arguments are given in, with the arguments. When none accepts them as
they are, variables among them are expanded. -/
def chooseForm {Form : Type} (command : String) (signatures : List (Signature Form))
    (arguments : List Token) : Eval (Option Form × List Token) := do
  match ← ofExcept (Signature.choose? command signatures arguments) with
  | some form => return (some form, arguments)
  | none =>
    if arguments.any Token.isVariable then
      let expanded ← ofExcept ((← console).expandAll arguments)
      return (← ofExcept (Signature.choose? command signatures expanded), expanded)
    else return (none, arguments)

/-- Runs the form that accepts the arguments; without one the help is shown. -/
def runChosen {Form : Type} (command : Command) (signatures : List (Signature Form))
    (run : Form → List Token → Eval Bool) (arguments : List Token) : Eval Bool := do
  match ← chooseForm command.name signatures arguments with
  | (some form, arguments) => run form arguments
  | (none, _) =>
    writeLines command.helpLines
    fail (.parametersMismatch command.name)

/-- Runs a command. -/
def runCommand (nested : Nested) (command : Command) (arguments : List Token) : Eval Bool :=
  match command with
  | .builtin builtin =>
    runChosen command builtin.signatures (Builtin.runForm nested) arguments
  | .added added =>
    runChosen command added.signatures (fun form arguments => perform (added.run form arguments))
      arguments

/-! ### Dispatch -/

/-- The name and the value of an assignment. -/
structure Assignment where
  name : String
  value : Token
  /-- Whether a variable that has a value keeps it. -/
  conditional : Bool
deriving DecidableEq, Repr

/-- The assignment that an invocation of three tokens is. -/
def assignment? : List Token → Option Assignment
  | [name, operator, value] =>
    if name.isLiteral || name.isVariable then
      match operator.kind with
      | .equality => some ⟨name.text?.getD "", value, false⟩
      | .conditionalEquality => some ⟨name.text?.getD "", value, true⟩
      | _ => none
    else none
  | _ => none

/-- Assigns by way of the command that stores variables. -/
def assign (nested : Nested) (assignment : Assignment) : Eval Bool := do
  let state ← console
  if assignment.conditional && state.session.variableStore.contains state.scopes assignment.name then
    return true
  else
    let value ← ofExcept (state.expand assignment.value)
    match state.commands.get? StoreKind.variables.commandName with
    | none => refuse .storeCommandMissing
    | some command => runCommand nested command [Token.literal assignment.name, value]

/-- The text that an invocation stands for when its first token is a variable of this value. -/
def replayText (value : Token) (arguments : List Token) : String :=
  if arguments.isEmpty then value.sourceText
  else value.sourceText ++ " " ++ Token.joinRaw arguments

/-- Runs a builtin of the scripting host; without one, the name is unknown for the given cause. -/
def dispatchToHost (name : String) (arguments : List Token) (unknown : Fault) : Eval Bool := do
  let state ← console
  match state.host? with
  | none => fail unknown
  | some host =>
    let expanded ← ofExcept (state.expandAll arguments)
    record (.received .host expanded)
    match ← perform (host.runBuiltin name (expanded.map Token.argumentValue)) with
    | some succeeded => return succeeded
    | none => fail unknown

/-- Dispatches a name to the command, the object, the member of the manager or the builtin of the
scripting host that has it. -/
def dispatchName (nested : Nested) (name : String) (first : Token) (arguments : List Token) :
    Eval Bool := do
  let state ← console
  match state.commands.get? name with
  | some command => runCommand nested command arguments
  | none =>
    match state.surroundings.resolve name with
    | .ok target =>
      deviceAction target (← ofExcept (state.expandAll arguments))
      return true
    | .error unknown =>
      let manager := ObjectRef.manager state.manager
      if (state.types.table? manager).any fun table => table.hasMember name then
        deviceAction ⟨manager, "EmulationManager"⟩
          (← ofExcept (state.expandAll (first :: arguments)))
        return true
      else dispatchToHost name arguments unknown

/-- Hands an invocation to what it begins with, unless it is an assignment. -/
def handOver (nested : Nested) (invocation : List Token) : Eval Bool := do
  match assignment? invocation with
  | some assignment => assign nested assignment
  | none =>
    match invocation with
    | [] => return true
    | first :: arguments =>
      match first.kind with
      | .variable _ =>
        let value ← ofExcept ((← console).expand first)
        replay nested (replayText value arguments)
      | .literal name => dispatchName nested name first arguments
      | _ => fail (.noSuchName first.raw none)

/-- Dispatches an invocation. -/
def dispatch (nested : Nested) (invocation : List Token) : Eval Bool := do
  record (.dispatched invocation)
  if (← session).verbose then writeLine ("Executing: " ++ Token.joinRaw invocation)
  handOver nested invocation

/-! ### After an invocation -/

/-- Plays the reset macro of a machine, if it has one, with that machine selected. -/
def playResetMacro (nested : Nested) (machine : MachineHandle) : Eval Unit := do
  let state ← session
  match state.macroStore.get? (Scopes.inScope (scopeName machine.name) "reset") with
  | none => return ()
  | some body =>
    updateConsole fun console => console.switchMachine (some machine)
    let _ ← (deeper (nested (.lines body.sourceText))).thenRestore fun console =>
      console.switchMachine state.currentMachine?
    return ()

/-- Whether a reset of a machine was requested; the request is taken. -/
def takeResetRequest (machine : MachineHandle) : Eval Bool := do
  let requested := ((← console).world.machine machine).resetRequested
  updateWorld fun world => world.updateMachine machine fun state =>
    { state with resetRequested := false }
  return requested

/-- Plays the reset macros of those machines that were reset. -/
def playResetMacros (nested : Nested) : List MachineHandle → Eval Unit
  | [] => return ()
  | machine :: rest => do
    if ← takeResetRequest machine then playResetMacro nested machine
    playResetMacros nested rest

/-- Notices a replaced emulation and plays reset macros. -/
def afterInvocation (nested : Nested) : Eval Unit := do
  updateConsole Console.noticeReplacement
  playResetMacros nested (← console).emulation.machines

/-! ### The evaluator -/

/-- Dispatches an invocation and handles its failure. -/
def dispatchReporting (nested : Nested) (invocation : List Token) : Eval Bool := do
  match ← attempt (dispatch nested invocation) with
  | .ok succeeded => return succeeded
  | .error fault => handleFailure (Token.joinRaw invocation) fault

/-- Dispatches an invocation and does what follows; a failure of the latter comes first. -/
def dispatchAndFollow (nested : Nested) (invocation : List Token) : Eval Bool := do
  let outcome ← attempt (dispatchReporting nested invocation)
  afterInvocation nested
  ofExcept outcome

/-- Evaluates one invocation. With substitutions or fetched files replaced it is read again. -/
def evaluateInvocation (nested : Nested) (invocation : List Token) : Eval Bool := do
  if Console.nestingBound ≤ (← console).depth then
    handleFailure (Token.joinRaw invocation) (.refused (.nestingTooDeep Console.nestingBound))
  else
    match ← replaceTokens nested invocation with
    | none => return false
    | some replacements =>
      if replacements.any Replacement.isNew then
        replay nested (Token.joinRaw (replacements.map Replacement.token))
      else dispatchAndFollow nested invocation

/-- Evaluates invocations until one fails and the rest is to be left undone, or the session is to
end. -/
def evaluateInvocations (nested : Nested) : List (List Token) → Eval Bool
  | [] => return true
  | invocation :: rest => do
    let succeeded ← evaluateInvocation nested invocation
    let state ← session
    if !succeeded && state.breakOnException then return false
    else if state.quitRequested then return true
    else evaluateInvocations nested rest

/-- Evaluates the invocations that tokens make up. -/
def evaluateTokens (nested : Nested) (tokens : List Token) : Eval Bool := do
  let invocations := Token.invocations tokens
  record (.begun invocations)
  evaluateInvocations nested invocations

/-- Evaluates a text as commands, whether a capture is active or not. -/
def evaluateCommands (nested : Nested) (text : String) : Eval Bool := do
  match ← readTokens text with
  | none => return false
  | some tokens => evaluateTokens nested tokens

/-- Evaluates lines up to the first that reports a failure. -/
def evaluateLines (nested : Nested) : List String → Eval Bool
  | [] => return true
  | line :: rest => do
    if ← nested (.line line) then evaluateLines nested rest else return false

/-- Evaluates a line, unless a capture takes it. -/
def evaluateLine (nested : Nested) (line : String) : Eval Bool := do
  let (line?, fed) := (← session).feed line
  updateSession fun _ => fed
  match line? with
  | none => return true
  | some line => evaluateCommands nested line

/-- One level of the evaluator over the next. -/
def step (nested : Nested) : Job → Eval Bool
  | .line line => evaluateLine nested line
  | .tokens tokens => evaluateTokens nested tokens
  | .lines text => evaluateLines nested (Script.logicalLines text)

/-- The evaluator with a bound on the levels that it may nest. -/
def run : Nat → Job → Eval Bool
  | 0, _ => throw .exhausted
  | bound + 1, job => step (run bound) job

end MachineConsole.Eval
