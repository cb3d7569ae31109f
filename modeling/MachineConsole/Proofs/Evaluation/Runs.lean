import MachineConsole.Proofs.Evaluation.Dispatch

/-!
Contract: every run of the evaluator leaves a trace.

Owns:
- `TracesFrom`: a computation begun with a run leaves a trace;
- the traces of dispatch, for any evaluator of nested jobs that leaves traces itself;
- `run_traces`, for the evaluator.

With `Trace` in hand, a property of consoles needs no further look at the evaluator.
-/

namespace MachineConsole.Eval

variable {nested : Nested}

/-- Leaving a trace, as a relation between consoles. -/
def LeavesTrace (before : Console) (_ : Option Stop) (after : Console) : Prop :=
  Trace before after

/-- The computation, begun with this run, leaves a trace. -/
def TracesFrom {α : Type} (run : Run) (action : Eval α) : Prop :=
  EndsBy LeavesTrace run action

theorem LeavesTrace.lawful : Lawful LeavesTrace LeavesTrace where
  refl := Trace.refl
  sequence := Trace.trans
  deeper := Trace.deeper
  failed console _ := Trace.refl console
  change changes _ := Trace.step changes
  reentered := Trace.trans (Trace.step (Change.reentered _))
  script := Trace.script
  effect := Trace.step
  recovered := id

theorem LeavesTrace.compositional : Compositional LeavesTrace LeavesTrace :=
  LeavesTrace.lawful.compositional Trace.resetMacro

theorem dispatch_traces (nestedTraces : ∀ job run, TracesFrom run (nested job))
    (invocation : List Token) (run : Run) : TracesFrom run (dispatch nested invocation) :=
  dispatch_endsBy LeavesTrace.lawful LeavesTrace.lawful.toSequential nestedTraces
    LeavesTrace.lawful.following (Trace.dispatched · invocation) run

theorem dispatchReporting_traces (nestedTraces : ∀ job run, TracesFrom run (nested job))
    (invocation : List Token) (run : Run) :
    TracesFrom run (dispatchReporting nested invocation) :=
  dispatchReporting_endsBy LeavesTrace.lawful LeavesTrace.compositional
    LeavesTrace.lawful.toSequential nestedTraces LeavesTrace.lawful.following
    (Trace.dispatched · invocation) run

theorem dispatchAndFollow_traces (nestedTraces : ∀ job run, TracesFrom run (nested job))
    (invocation : List Token) (run : Run) :
    TracesFrom run (dispatchAndFollow nested invocation) :=
  dispatchAndFollow_endsBy LeavesTrace.lawful LeavesTrace.compositional
    LeavesTrace.lawful.toSequential nestedTraces LeavesTrace.lawful.following
    (Trace.dispatched · invocation) run

theorem evaluateInvocation_traces (nestedTraces : ∀ job run, TracesFrom run (nested job))
    {invocation : List Token} (isInvocation : Token.IsInvocation invocation) (run : Run) :
    TracesFrom run (evaluateInvocation nested invocation) :=
  evaluateInvocation_endsBy LeavesTrace.compositional LeavesTrace.lawful.toSequential nestedTraces
    (fun invocation _ => dispatchAndFollow_traces nestedTraces invocation) isInvocation run

/-- Whatever the evaluator does to a console, and however it ends, is a trace. -/
theorem run_traces (bound : Nat) (job : Job) (start : Run) : TracesFrom start (run bound job) :=
  run_endsBy LeavesTrace.compositional Trace.refl
    (fun _ nestedTraces invocation _ => dispatchAndFollow_traces nestedTraces invocation) bound job
    start

end MachineConsole.Eval
