import MachineConsole.Console.Stub
import MachineConsole.Proofs.Evaluation.Runs
import MachineConsole.Shell.Session

/-!
Contract: what becomes of failures.

Owns:
- along a trace, the policy for failures stays as it is, the history only grows, and only faults
  that the policy lets be handled are reported;
- a failure that an evaluation hands back is one that the policy does not let be handled.

Does not own: which failures arise.
-/

namespace MachineConsole

/-! ### Along a trace -/

/-- Whether failures of any sort are reported and not handed back. -/
def Console.consumesFailures (console : Console) : Bool :=
  console.session.consumeExceptions

/-- Whether a fault may be reported where failures of some sort are consumed. -/
def Fault.mayBeReported (fault : Fault) (consumed : Bool) : Bool :=
  fault.isRecoverable || consumed

/-- The later console has the policy of the earlier one, and what was entered into its history since
then reports only such faults as that policy lets be reported. -/
structure ReportsByPolicy (before after : Console) : Prop where
  policy : after.consumesFailures = before.consumesFailures
  reports : ∃ events, after.history = before.history ++ events ∧
    ∀ command fault, Event.reported command fault ∈ events →
      fault.mayBeReported before.consumesFailures

namespace ReportsByPolicy

theorem of_unreported {before after : Console}
    (policy : after.consumesFailures = before.consumesFailures)
    (history : after.history = before.history) : ReportsByPolicy before after :=
  ⟨policy, [], by rw [history, List.append_nil], fun _ _ reported => nomatch reported⟩

theorem of_record (console : Console) {event : Event}
    (mayBeReported : ∀ command fault, event = .reported command fault →
      fault.mayBeReported console.consumesFailures) :
    ReportsByPolicy console (console.record event) := by
  refine ⟨rfl, [event], rfl, ?_⟩
  intro command fault reported
  exact mayBeReported command fault (List.mem_singleton.mp reported).symm

theorem trans {before between after : Console} (first : ReportsByPolicy before between)
    (second : ReportsByPolicy between after) : ReportsByPolicy before after := by
  obtain ⟨firstEvents, firstHistory, firstReports⟩ := first.reports
  obtain ⟨secondEvents, secondHistory, secondReports⟩ := second.reports
  refine ⟨second.policy.trans first.policy, firstEvents ++ secondEvents, ?_, ?_⟩
  · rw [secondHistory, firstHistory, List.append_assoc]
  · intro command fault reported
    cases List.mem_append.mp reported with
    | inl early => exact firstReports command fault early
    | inr late =>
        rw [← first.policy]
        exact secondReports command fault late

theorem switched (console : Console) (machine? : Option MachineHandle) :
    ReportsByPolicy console (console.switchMachine machine?) := by
  cases machine? with
  | none => exact of_unreported rfl rfl
  | some machine =>
      apply trans (of_unreported rfl rfl : ReportsByPolicy console (console.selectMachine machine))
      exact of_record _ fun _ _ other => nomatch other

theorem change {before after : Console} (change : Change before after) :
    ReportsByPolicy before after := by
  obtain ⟨event, enters, rfl⟩ | rfl | same := change.course
  · apply of_record before
    rintro command fault rfl
    cases enters with
    | reported _ handled => exact handled
  · have asked : ReportsByPolicy before before.withQuit := of_unreported rfl rfl
    have entered : ReportsByPolicy before.withQuit before.requestQuit :=
      of_record before.withQuit fun _ _ other => nomatch other
    exact asked.trans entered
  · exact of_unreported same.consumes same.history

theorem carried : Carried ReportsByPolicy where
  refl _ := of_unreported rfl rfl
  trans := trans
  change := change
  dispatched console _ := of_record console fun _ _ other => nomatch other
  depth _ _ := of_unreported rfl rfl
  origin _ _ := of_unreported rfl rfl
  switched := switched

end ReportsByPolicy

/-! ### What is handed back -/

/-- The policy for failures stays as it is, and a failure that is handed back is one that it does not
let be reported. -/
structure HandsBackByPolicy (before : Console) (stop? : Option Stop) (after : Console) : Prop where
  policy : after.consumesFailures = before.consumesFailures
  handsBack : ∀ fault, stop? = some (.failed fault) →
    fault.mayBeReported before.consumesFailures = false

namespace Eval

namespace HandsBackByPolicy

theorem of_change {before after : Console} (change : Change before after) :
    HandsBackByPolicy before none after :=
  ⟨(ReportsByPolicy.change change).policy, nofun⟩

theorem compositional : Compositional HandsBackByPolicy HandsBackByPolicy where
  refl _ := ⟨rfl, nofun⟩
  sequence first second := by
    refine ⟨second.policy.trans first.policy, ?_⟩
    rw [← first.policy]
    exact second.handsBack
  begun console invocations := of_change (Change.begun console invocations)
  substituted console command := of_change (Change.substituted console command)
  fetched console uri := of_change (Change.fetched console uri)
  fed console line := of_change (Change.fed console line)
  noticed console := of_change (Change.noticed console)
  resetTaken console machine := of_change (Change.resetTaken console machine)
  reported _ command _ handled := of_change (Change.reported command handled)
  handedBack console fault unhandled := by
    refine ⟨rfl, ?_⟩
    rintro _ ⟨⟩
    exact unhandled
  deeper inside := ⟨inside.policy, inside.handsBack⟩
  resetMacro := by
    intro start before after machine stop? earlier _ inside
    have entered : (before.switchMachine (some machine)).consumesFailures =
        start.consumesFailures :=
      (ReportsByPolicy.switched before (some machine)).policy.trans earlier.policy
    have left := (ReportsByPolicy.switched after before.session.currentMachine?).policy
    refine ⟨left.trans (inside.policy.trans entered), ?_⟩
    rw [← entered]
    exact inside.handsBack

end HandsBackByPolicy

variable {nested : Nested}

theorem attempt_handsBack {α : Type} {action : Eval α} {run : Run}
    (traces : TracesFrom run action) : EndsBy HandsBackByPolicy run (attempt action) := by
  have attempted := EndsBy.attempt LeavesTrace.lawful.recovered traces
  refine ⟨(attempted.carried ReportsByPolicy.carried).policy, ?_⟩
  intro fault failed
  cases outcome : attempt action run with
  | mk result after =>
      rw [outcome] at failed
      cases result with
      | ok value => cases failed
      | error stop =>
          cases attempt_stops outcome
          cases failed

theorem dispatchReporting_handsBack (nestedTraces : ∀ job run, TracesFrom run (nested job))
    (invocation : List Token) (run : Run) :
    EndsBy HandsBackByPolicy run (dispatchReporting nested invocation) := by
  apply EndsBy.bind HandsBackByPolicy.compositional.toSequential
    (attempt_handsBack (dispatch_traces nestedTraces invocation run))
  intro result after _
  cases result with
  | ok succeeded => exact EndsBy.pure HandsBackByPolicy.compositional.toSequential succeeded
  | error fault => exact EndsBy.handleFailure HandsBackByPolicy.compositional _ fault

/-- The failure of an invocation is handed back after what follows the invocation. -/
theorem dispatchAndFollow_handsBack (nestedTraces : ∀ job run, TracesFrom run (nested job))
    (nestedEnds : ∀ job run, EndsBy HandsBackByPolicy run (nested job)) (invocation : List Token)
    (run : Run) : EndsBy HandsBackByPolicy run (dispatchAndFollow nested invocation) := by
  have dispatchEnds := dispatchReporting_handsBack nestedTraces invocation run
  apply EndsBy.bind HandsBackByPolicy.compositional.toSequential
    (attempt_handsBack (dispatchReporting_traces nestedTraces invocation run))
  intro result dispatched attempted
  have followEnds :=
    afterInvocation_endsBy HandsBackByPolicy.compositional nestedEnds dispatched
  apply EndsBy.bind HandsBackByPolicy.compositional.toSequential followEnds
  intro _ after following
  cases result with
  | ok succeeded => exact EndsBy.pure HandsBackByPolicy.compositional.toSequential succeeded
  | error fault =>
      unfold EndsBy at dispatchEnds followEnds
      rw [of_attempt_run attempted] at dispatchEnds
      rw [following] at followEnds
      -- The fault was judged before what followed, and the policy is still the same.
      refine ⟨rfl, ?_⟩
      rintro _ ⟨⟩
      rw [followEnds.policy, dispatchEnds.policy]
      exact dispatchEnds.handsBack fault rfl

theorem run_handsBack (bound : Nat) (job : Job) (start : Run) :
    EndsBy HandsBackByPolicy start (run bound job) :=
  run_endsBy HandsBackByPolicy.compositional (fun _ => ⟨rfl, nofun⟩)
    (fun bound nestedEnds invocation _ =>
      dispatchAndFollow_handsBack (run_traces bound) nestedEnds invocation) bound job start

/-- The policy for failures stays in force while a line is evaluated. Where it consumes failures
none is handed back, and elsewhere only a fault that is not recoverable. A fault that is handed back
was not reported before, at whatever depth it arose. -/
theorem line_handsBack_by_policy (bound : Nat) (line : String) (before : Run) :
    let ended := run bound (.line line) before
    ended.2.console.consumesFailures = before.console.consumesFailures ∧
    (before.console.consumesFailures = true →
      (∃ succeeded, ended.1 = .ok succeeded) ∨ ended.1 = .error .exhausted) ∧
    (before.console.consumesFailures = false → ∀ fault, ended.1 = .error (.failed fault) →
      fault.isRecoverable = false) ∧
    ∃ events, ended.2.console.history = before.console.history ++ events ∧
      ∀ fault, ended.1 = .error (.failed fault) →
        ∀ command, Event.reported command fault ∉ events := by
  intro ended
  obtain ⟨policy, handsBack⟩ := run_handsBack bound (.line line) before
  obtain ⟨_, events, history, reports⟩ :=
    (run_traces bound (.line line) before).carried ReportsByPolicy.carried
  refine ⟨policy, ?_, ?_, events, history, ?_⟩
  · intro consumed
    cases outcome : ended.1 with
    | ok succeeded => exact Or.inl ⟨succeeded, rfl⟩
    | error stop =>
        cases stop with
        | exhausted => exact Or.inr rfl
        | failed fault =>
            have unreportable := handsBack fault (congrArg stop? outcome)
            unfold Fault.mayBeReported at unreportable
            rw [consumed, Bool.or_true] at unreportable
            cases unreportable
  · intro unconsumed fault failed
    have unreportable := handsBack fault (congrArg stop? failed)
    unfold Fault.mayBeReported at unreportable
    rw [unconsumed, Bool.or_false] at unreportable
    exact unreportable
  · intro fault failed command reported
    have reportable := reports command fault reported
    rw [handsBack fault (congrArg stop? failed)] at reportable
    cases reportable

/-- A console that hands failures back, with an engine for scripts that crashes when told to. -/
def crashingRun : Run :=
  let world := World.create (FileTree.empty "/work") fun uri => .error (.fetch uri)
  let fresh := Shell.freshRun world { Settings.default with consumeExceptions := false }
  { fresh with console := { fresh.console with host? := some (Stub.host "py" []) } }

/-- The fault that an evaluation hands back. -/
def handedBack? : Except Stop Bool → Option Fault
  | .error (.failed fault) => some fault
  | _ => none

theorem line_handsBack_crash :
    ∃ fault, (run 3 (.line "python \"crash\"") crashingRun).1 = .error (.failed fault) ∧
      fault.isRecoverable = false := by
  have handsBack := line_handsBack_by_policy 3 "python \"crash\"" crashingRun
  have crashes : (handedBack? (run 3 (.line "python \"crash\"") crashingRun).1).isSome := by
    decide +kernel
  cases outcome : (run 3 (.line "python \"crash\"") crashingRun).1 with
  | ok succeeded =>
      rw [outcome] at crashes
      cases crashes
  | error stop =>
      cases stop with
      | exhausted =>
          rw [outcome] at crashes
          cases crashes
      | failed fault => exact ⟨fault, rfl, handsBack.2.2.1 rfl fault outcome⟩

end Eval

end MachineConsole
