import MachineConsole.Config.Reading
import MachineConsole.Console.Entry
import MachineConsole.Console.Stub
import MachineConsole.Device.Stub
import MachineConsole.Main
import MachineConsole.Member.Accessors
import MachineConsole.Proofs.Command.Registration
import MachineConsole.Proofs.Completion.Candidates
import MachineConsole.Proofs.Emulation.BusMemory
import MachineConsole.Proofs.Emulation.MachineNames
import MachineConsole.Proofs.Evaluation.Arguments
import MachineConsole.Proofs.Evaluation.Assignments
import MachineConsole.Proofs.Evaluation.BreakPolicy
import MachineConsole.Proofs.Evaluation.NestedText
import MachineConsole.Proofs.Evaluation.Nesting
import MachineConsole.Proofs.Evaluation.Quitting
import MachineConsole.Proofs.Evaluation.Repetition
import MachineConsole.Proofs.Evaluation.Replacement
import MachineConsole.Proofs.Evaluation.Rereading
import MachineConsole.Proofs.Evaluation.ScriptOrigin
import MachineConsole.Proofs.Lexing.Comments
import MachineConsole.Proofs.Lexing.LogicalLines
import MachineConsole.Proofs.Lexing.Paths
import MachineConsole.Proofs.Lexing.Substitution
import MachineConsole.Proofs.Member.IntegerArguments
import MachineConsole.Proofs.Member.Overloads
import MachineConsole.Proofs.Member.Sharing
import MachineConsole.Proofs.Member.ShownIntegers
import MachineConsole.Proofs.Naming.PartialMatch
import MachineConsole.Proofs.Path.Copies
import MachineConsole.Proofs.Report.Ranges
import MachineConsole.Proofs.Report.Tables
import MachineConsole.Proofs.Value.Flags
import MachineConsole.Shell.Session
