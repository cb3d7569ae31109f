import MachineConsole.Config.Reading
import MachineConsole.Console.Entry
import MachineConsole.Shell.Arguments

/-!
Contract: a run of the console from its command line.

Owns:
- `Shell.start`, everything up to the first line of input;
- `Shell.feed`, one line of input;
- `Shell.complete`, a whole run on given input, with its exit code and what it wrote.
-/

namespace MachineConsole.Shell

/-- A failure that ends the run, in the context in which it arose. -/
structure Abort where
  context : String
  fault : Fault

/-- A fault with the fault behind it that has a message of its own. -/
def causes (fault : Fault) : List String :=
  match fault with
  | .storage cause => [fault.message, cause.message]
  | _ => [fault.message]

/-- A text with further lines indented. -/
def indented (indentation text : String) : String :=
  Text.join ("\n" ++ indentation) ((Text.pieces '\n' text.toList).map String.ofList)

/-- The lines for causes, which are numbered when there are several. -/
def causeLines : List String → List String
  | [only] => ["    " ++ indented "    " only]
  | several => several.zipIdx.map fun item =>
    "    " ++ toString item.2 ++ ": " ++ indented "       " item.1

/-- The report of a failure that ends the run. -/
def Abort.lines (abort : Abort) : List String :=
  ["Error: " ++ abort.context, "", "Caused by:"] ++ causeLines (causes abort.fault)

/-- The fault that a reason to stop amounts to. -/
def faultOfStop : Stop → Fault
  | .failed fault => fault
  | .exhausted => .refused (.nestingTooDeep Eval.recursionBound)

/-- What comes next. -/
inductive Next where
  /-- More lines of input are read. -/
  | reading
  | finished (code : Nat)
deriving DecidableEq, Repr

/-- A run between two lines of input. -/
structure State where
  run : Run
  next : Next

namespace State

def quitRequested (run : Run) : Bool :=
  run.console.session.quitRequested

/-- Ends the run with a report. -/
def abort (run : Run) (failure : Abort) : State :=
  ⟨{ run with sink := run.sink.writeErrors failure.lines }, .finished 1⟩

/-- Writes the prompt, unless there is to be none. -/
def prompted (plain : Bool) (run : Run) : Run :=
  if plain then run
  else { run with sink := run.sink.write run.console.session.prompt }

end State

/-- Evaluates a command and reports a failure that was handed back. -/
def runCommand (command : String) (run : Run) : Run :=
  match Eval.evaluate (.line command) run with
  | (.ok _, after) => after
  | (.error stop, after) =>
    { after with sink := after.sink.writeErrors ((faultOfStop stop).report command) }

/-- Runs commands until one asks to quit. -/
def runCommands : List String → Run → Run
  | [], run => run
  | command :: rest, run =>
    let after := runCommand command run
    if State.quitRequested after then after else runCommands rest after

/-- Runs scripts until one asks to quit or fails for good. -/
def runScripts : List String → Run → Except (Abort × Run) Run
  | [], run => .ok run
  | script :: rest, run =>
    match Eval.includeByName script run with
    | (.error stop, after) => .error (⟨"script " ++ script ++ " aborted", faultOfStop stop⟩, after)
    | (.ok _, after) => if State.quitRequested after then .ok after else runScripts rest after

/-- The settings that options ask for. -/
def settings (files : FileTree) (options : Options) : Except Abort Settings :=
  match options.config? with
  | none => .ok Settings.default
  | some path =>
    (Settings.ofFile files path).mapError fun fault =>
      ⟨"failed to load config from " ++ path, fault⟩

/-- A console with nothing run yet. -/
def freshRun (world : World) (settings : Settings) : Run :=
  let (manager, world) := world.createManager
  ⟨Console.create settings world manager, Sink.empty⟩

/-- Sets up the demo machine when it is asked for. -/
def setUpDemo (options : Options) (run : Run) : Except (Abort × Run) Run :=
  if options.demo then
    match Eval.installDemo run with
    | (.ok _, after) => .ok after
    | (.error stop, after) => .error (⟨"failed to create the demo machine", faultOfStop stop⟩, after)
  else .ok run

/-- Everything up to the first line of input. -/
def start (world : World) (options : Options) : State :=
  match settings world.files options with
  | .error failure => State.abort (freshRun world Settings.default) failure
  | .ok settings =>
    match setUpDemo options (freshRun world settings) >>= runScripts options.scripts with
    | .error (failure, run) => State.abort run failure
    | .ok run =>
      if State.quitRequested run then ⟨run, .finished 0⟩
      else
        let run := runCommands options.commands run
        if State.quitRequested run || options.batch then ⟨run, .finished 0⟩
        else ⟨State.prompted options.plain run, .reading⟩

/-- One line of input; `none` is the end of it. -/
def feed (plain : Bool) (run : Run) : Option String → State
  | none => ⟨run, .finished 0⟩
  | some line =>
    let after := runCommand (String.ofList
      (Text.dropEndWhile (fun character => character = '\r' || character = '\n') line.toList)) run
    if State.quitRequested after then ⟨after, .finished 0⟩
    else ⟨State.prompted plain after, .reading⟩

/-- What a run leaves behind. -/
structure Outcome where
  code : Nat
  output : String
  errors : String
deriving DecidableEq, Repr

/-- Feeds lines until the run is finished; it is at the latest when they end. -/
def feedAll (plain : Bool) : List String → Run → Run
  | [], run => (feed plain run none).run
  | line :: rest, run =>
    let state := feed plain run (some line)
    match state.next with
    | .finished _ => state.run
    | .reading => feedAll plain rest state.run

/-- The outcome of a run with what was written. -/
def outcome (code : Nat) (run : Run) : Outcome :=
  ⟨code, run.sink.output, run.sink.errors⟩

/-- The lines of a text, each without its line break. -/
def inputLines (input : String) : List String :=
  (match (Text.pieces '\n' input.toList).reverse with
  | [] :: before => before.reverse
  | pieces => pieces.reverse).map String.ofList

/-- A whole run. -/
def complete (world : World) (arguments : List String) (input : String) : Outcome :=
  match Request.ofArguments arguments with
  | .help => ⟨0, String.join (helpLines.map (· ++ "\n")), ""⟩
  | .version => ⟨0, "monitor " ++ Builtin.version ++ "\n", ""⟩
  | .misuse => ⟨2, "", "error: invalid arguments\n"⟩
  | .run options =>
    let state := start world options
    match state.next with
    | .finished code => outcome code state.run
    | .reading => outcome 0 (feedAll options.plain (inputLines input) state.run)

end MachineConsole.Shell
