import MachineConsole.Shell.Session

/-!
Contract: the console as a program.

Owns:
- the files below the working directory, read when the program starts;
- standard input, line by line, and standard output and error;
- the exit code.

Does not own: what is done with a line, which is `MachineConsole.Shell.Session`. There is no network:
every request for a remote resource fails.
-/

namespace MachineConsole.Program

/-- The content of a file; none when it is no text. -/
def readContent (path : String) : IO (Option String) := do
  return String.fromUTF8? (← IO.FS.readBinFile path)

/-- Adds everything below a directory to the files known. What cannot be read is left out. -/
partial def collect (tree : FileTree) (directory : String) : IO FileTree := do
  let path := (← IO.FS.realPath directory)
  let mut tree := tree.write directory .directory
  for entry in ← path.readDir do
    let below := Path.join directory entry.fileName
    try
      if ← entry.path.isDir then tree ← collect tree below
      else tree := tree.write below (.file (← readContent below))
    catch _ => pure ()
  return tree

/-- The world a run begins in. -/
def initialWorld : IO World := do
  let workingDirectory := (← IO.currentDir).toString
  let files ← collect (FileTree.empty workingDirectory) workingDirectory
  return World.create files fun uri => .error (.fetch (uri ++ ": no network"))

/-- Writes out what a run has recorded, and forgets it. -/
def flush (run : Run) : IO Run := do
  let output ← IO.getStdout
  output.putStr run.sink.output
  output.flush
  (← IO.getStderr).putStr run.sink.errors
  return { run with sink := run.sink.clear }

/-- Feeds standard input to a run until it is finished. -/
partial def serve (plain : Bool) (state : Shell.State) : IO UInt32 := do
  let run ← flush state.run
  match state.next with
  | .finished code => return code.toUInt32
  | .reading =>
    let line ← (← IO.getStdin).getLine
    serve plain (Shell.feed plain run (if line.isEmpty then none else some line))

end MachineConsole.Program

open MachineConsole

/-- Runs the console on its command line. -/
def main (arguments : List String) : IO UInt32 := do
  match Shell.Request.ofArguments arguments with
  | .run options => Program.serve options.plain (Shell.start (← Program.initialWorld) options)
  | _ =>
    let outcome := Shell.complete (World.create (FileTree.empty "/") fun uri => .error (.fetch uri))
      arguments ""
    IO.print outcome.output
    IO.eprint outcome.errors
    return outcome.code.toUInt32
