import MachineConsole.Proofs.Evaluation.CurrentMachine

/-!
Contract: what is evaluated after a failure was reported.

Owns:
- `Course`: things done one after the other, with what each of them reports;
- `TokensCourse` and `LineCourse`: the invocations of a line, as the policy for failures has it, and
  what becomes of a line of a text;
- `lines_follow_policy`: what is evaluated of a line and of a text, with the policy that breaks off
  and with the one that goes on; and a text in which the latter does not reach a line.

The policy is asked between the invocations of a line. A line that cannot be read ends a text under
both policies.
-/

namespace MachineConsole

/-! ### What evaluations keep -/

/-- The policy for failures stays as it is, and a session that is asked to end stays so. -/
structure KeepsFlags (before after : Console) : Prop where
  breaks : after.session.breakOnException = before.session.breakOnException
  quits : before.session.quitRequested = true → after.session.quitRequested = true

theorem KeepsFlags.carried : Carried KeepsFlags where
  refl _ := ⟨rfl, id⟩
  trans first second :=
    ⟨second.breaks.trans first.breaks, fun asked => second.quits (first.quits asked)⟩
  change changes := by
    obtain ⟨event, _, rfl⟩ | rfl | same := changes.course
    · exact ⟨rfl, id⟩
    · exact ⟨rfl, fun _ => rfl⟩
    · exact ⟨same.breaks, fun asked => same.quits.trans asked⟩
  dispatched _ _ := ⟨rfl, id⟩
  depth _ _ := ⟨rfl, id⟩
  origin _ _ := ⟨rfl, id⟩
  switched _ machine? := by
    cases machine? with
    | none => exact ⟨rfl, id⟩
    | some machine => exact ⟨rfl, id⟩

/-- What was not asked to end later was not asked to end before. -/
theorem KeepsFlags.unasked {before after : Console} (keeps : KeepsFlags before after)
    (unasked : after.session.quitRequested = false) : before.session.quitRequested = false := by
  cases asked : before.session.quitRequested with
  | false => rfl
  | true =>
      rw [keeps.quits asked] at unasked
      cases unasked

/-! ### One thing after the other -/

/-- Things done in order, with what each of them reports. -/
inductive Course {α : Type} (Step : α → Run → Bool → Run → Prop) :
    List α → Run → List Bool → Run → Prop where
  | nil (run : Run) : Course Step [] run [] run
  | cons {item : α} {rest : List α} {before between after : Run} {report : Bool}
      {reports : List Bool} (first : Step item before report between)
      (others : Course Step rest between reports after) :
      Course Step (item :: rest) before (report :: reports) after

/-- At most the last report is that of a failure, and it is one when something was left undone. -/
structure EndsAtFailure {α : Type} (reports : List Bool) (undone : List α) : Prop where
  earlier : ∀ report ∈ reports.dropLast, report = true
  last : undone ≠ [] → reports.getLast? = some false

namespace EndsAtFailure

variable {α : Type} {reports : List Bool} {undone : List α}

theorem nil : EndsAtFailure [] ([] : List α) :=
  ⟨fun _ member => (nomatch member), fun nonempty => absurd rfl nonempty⟩

theorem failed (undone : List α) : EndsAtFailure [false] undone :=
  ⟨fun _ member => (nomatch member), fun _ => rfl⟩

theorem succeeded (ends : EndsAtFailure reports undone) :
    EndsAtFailure (true :: reports) undone := by
  cases reports with
  | nil =>
      exact ⟨fun _ member => (nomatch member), fun nonempty => (nomatch ends.last nonempty)⟩
  | cons report rest =>
      refine ⟨?_, fun nonempty => ends.last nonempty⟩
      intro other member
      cases List.mem_cons.mp member with
      | inl first => exact first
      | inr later => exact ends.earlier other later

end EndsAtFailure

namespace Eval

variable {nested : Nested} {breaks : Bool}

theorem keepsFlags_of_traces {α : Type} {action : Eval α} {before after : Run}
    {outcome : Except Stop α} (traces : TracesFrom before action)
    (ended : action before = (outcome, after)) : KeepsFlags before.console after.console := by
  unfold TracesFrom EndsBy at traces
  rw [ended] at traces
  exact Trace.carried KeepsFlags.carried traces

/-! ### Invocations -/

/-- What becomes of the invocations of a line. Where failures break off, they are evaluated up to
the first that reports one; elsewhere all of them are, and nothing is reported. -/
def InvocationsCourse (nested : Nested) (breaks : Bool) (invocations : List (List Token))
    (start : Run) (answer : Bool) (finish : Run) : Prop :=
  ∃ done undone reports, invocations = done ++ undone ∧
    Course (fun invocation before report after =>
        evaluateInvocation nested invocation before = (.ok report, after))
      done start reports finish ∧
    (breaks = true → EndsAtFailure reports undone ∧ answer = reports.all id) ∧
    (breaks = false → undone = [] ∧ answer = true)

namespace InvocationsCourse

variable {invocation : List Token} {rest : List (List Token)} {before between after : Run}

theorem nil (run : Run) : InvocationsCourse nested breaks [] run true run :=
  ⟨[], [], [], rfl, .nil run, fun _ => ⟨.nil, rfl⟩, fun _ => ⟨rfl, rfl⟩⟩

theorem broken (evaluated : evaluateInvocation nested invocation before = (.ok false, after)) :
    InvocationsCourse nested true (invocation :: rest) before false after :=
  ⟨[invocation], rest, [false], rfl, .cons evaluated (.nil after), fun _ => ⟨.failed rest, rfl⟩,
    nofun⟩

theorem cons {report answer : Bool}
    (evaluated : evaluateInvocation nested invocation before = (.ok report, between))
    (goesOn : breaks = true → report = true)
    (others : InvocationsCourse nested breaks rest between answer after) :
    InvocationsCourse nested breaks (invocation :: rest) before answer after := by
  obtain ⟨done, undone, reports, rfl, course, broken, unbroken⟩ := others
  refine ⟨invocation :: done, undone, report :: reports, rfl, .cons evaluated course, ?_, unbroken⟩
  intro breaksOff
  obtain ⟨ends, answered⟩ := broken breaksOff
  rw [goesOn breaksOff]
  exact ⟨ends.succeeded, answered⟩

end InvocationsCourse

theorem evaluateInvocations_course (nestedTraces : ∀ job run, TracesFrom run (nested job))
    {invocations : List (List Token)}
    (areInvocations : ∀ invocation ∈ invocations, Token.IsInvocation invocation)
    {before after : Run} {answer : Bool}
    (ended : evaluateInvocations nested invocations before = (.ok answer, after))
    (unasked : after.console.session.quitRequested = false) :
    InvocationsCourse nested before.console.session.breakOnException invocations before answer
      after := by
  induction invocations generalizing before with
  | nil =>
      cases ended
      exact .nil _
  | cons invocation rest inductionHypothesis =>
      obtain ⟨report, between, evaluated, ended⟩ := of_bind_run ended
      have traces := evaluateInvocation_traces nestedTraces
        (areInvocations invocation List.mem_cons_self) before
      have breaks := (keepsFlags_of_traces traces evaluated).breaks
      rw [session_bind_run, breaks] at ended
      split at ended
      · next breaksOff =>
          cases ended
          obtain ⟨failed, isOn⟩ := Bool.and_eq_true_iff.mp breaksOff
          rw [isOn]
          rw [(Bool.not_eq_true' report).mp failed] at evaluated
          exact .broken evaluated
      · next goesOn =>
          split at ended
          · next asked =>
              cases ended
              rw [unasked] at asked
              cases asked
          · have others := inductionHypothesis
              (fun other member => areInvocations other (List.mem_cons_of_mem _ member)) ended
            rw [breaks] at others
            refine .cons evaluated ?_ others
            intro isOn
            rw [isOn, Bool.and_true] at goesOn
            exact Bool.not_eq_false _ |>.mp fun failed => goesOn (failed ▸ rfl)

/-! ### Lines -/

/-- What becomes of a line: a capture takes it, or it cannot be read, or its invocations are
evaluated. Where failures do not break off, it reports one only if it cannot be read. -/
inductive LineCourse (nested : Nested) (breaks : Bool) (line : String) (start : Run) :
    Bool → Run → Prop where
  | taken {session : Session} (taken : start.console.session.feed line = (none, session)) :
      LineCourse nested breaks line start true (offered session start)
  | unreadable {text : String} {session : Session} {result : Tokenization} {sink : Sink}
      (passed : start.console.session.feed line = (some text, session))
      (fails : (offered session start).console.tokensOf text = .error result) :
      LineCourse nested breaks line start false ⟨(offered session start).console, sink⟩
  | read {text : String} {session : Session} {tokens : List Token} {report : Bool} {finish : Run}
      (passed : start.console.session.feed line = (some text, session))
      (reads : (offered session start).console.tokensOf text = .ok tokens)
      (course : InvocationsCourse nested breaks (Token.invocations tokens)
        (begun (Token.invocations tokens) (offered session start)) report finish) :
      LineCourse nested breaks line start report finish

/-- What becomes of lines: they are evaluated up to the first that reports a failure. -/
def LinesCourse (nested : Nested) (breaks : Bool) (lines : List String) (start : Run)
    (answer : Bool) (finish : Run) : Prop :=
  ∃ done undone reports, lines = done ++ undone ∧
    Course (LineCourse nested breaks) done start reports finish ∧
    EndsAtFailure reports undone ∧ answer = reports.all id

theorem evaluateTokens_course (nestedTraces : ∀ job run, TracesFrom run (nested job))
    {tokens : List Token} {before after : Run} {answer : Bool}
    (ended : evaluateTokens nested tokens before = (.ok answer, after))
    (unasked : after.console.session.quitRequested = false) :
    InvocationsCourse nested before.console.session.breakOnException (Token.invocations tokens)
      (begun (Token.invocations tokens) before) answer after := by
  rw [evaluateTokens_run] at ended
  exact evaluateInvocations_course nestedTraces
    (fun _ => Token.isInvocation_of_mem_invocations) ended unasked

theorem evaluateLine_course (nestedTraces : ∀ job run, TracesFrom run (nested job))
    {line : String} {before after : Run} {report : Bool}
    (ended : evaluateLine nested line before = (.ok report, after))
    (unasked : after.console.session.quitRequested = false) :
    LineCourse nested before.console.session.breakOnException line before report after := by
  cases fed : before.console.session.feed line with
  | mk text? session =>
      cases text? with
      | none =>
          rw [evaluateLine_of_taken fed] at ended
          cases ended
          exact .taken fed
      | some text =>
          rw [evaluateLine_of_passed fed] at ended
          cases read : (offered session before).console.tokensOf text with
          | error result =>
              obtain ⟨sink, reported⟩ := evaluateCommands_of_error read
              rw [reported] at ended
              cases ended
              exact .unreadable fed read
          | ok tokens =>
              rw [evaluateCommands_of_ok read] at ended
              have course := evaluateTokens_course nestedTraces ended unasked
              have breaks : (offered session before).console.session.breakOnException =
                  before.console.session.breakOnException := by
                obtain ⟨capture, values, macros, same⟩ :=
                  Session.feed_eq before.console.session line
                rw [fed] at same
                exact (congrArg Session.breakOnException same :)
              rw [breaks] at course
              exact .read fed read course

theorem evaluateLines_course (bound : Nat) {lines : List String} {before after : Run}
    {answer : Bool}
    (ended : evaluateLines (run (bound + 1)) lines before = (.ok answer, after))
    (unasked : after.console.session.quitRequested = false) :
    LinesCourse (run bound) before.console.session.breakOnException lines before answer after := by
  induction lines generalizing before with
  | nil =>
      cases ended
      exact ⟨[], [], [], rfl, .nil _, .nil, rfl⟩
  | cons line rest inductionHypothesis =>
      obtain ⟨report, between, evaluated, ended⟩ := of_bind_run ended
      have breaks :=
        (keepsFlags_of_traces (run_traces (bound + 1) (.line line) before) evaluated).breaks
      cases report with
      | false =>
          cases ended
          have course := evaluateLine_course (run_traces bound) evaluated unasked
          exact ⟨[line], rest, [false], rfl, .cons course (.nil _), .failed rest, rfl⟩
      | true =>
          have ended : evaluateLines (run (bound + 1)) rest between = (.ok answer, after) := ended
          have restTraces : TracesFrom between (evaluateLines (run (bound + 1)) rest) :=
            evaluateLines_endsBy LeavesTrace.lawful.toSequential
              (fun line => run_traces (bound + 1) (.line line)) rest between
          have stillUnasked := (keepsFlags_of_traces restTraces ended).unasked unasked
          have course := evaluateLine_course (run_traces bound) evaluated stillUnasked
          obtain ⟨done, undone, reports, rfl, others, ends, answered⟩ := inductionHypothesis ended
          rw [breaks] at others
          exact ⟨line :: done, undone, true :: reports, rfl, .cons course others, ends.succeeded,
            answered⟩

/-- What is evaluated of a line that was read and of a text, when the session is not asked to end
and no failure is handed back. -/
theorem lines_follow_policy (bound : Nat) :
    (∀ tokens start answer finish,
      run (bound + 1) (.tokens tokens) start = (.ok answer, finish) →
      finish.console.session.quitRequested = false →
        InvocationsCourse (run bound) start.console.session.breakOnException
          (Token.invocations tokens) (begun (Token.invocations tokens) start) answer finish) ∧
    ∀ text start answer finish,
      run (bound + 2) (.lines text) start = (.ok answer, finish) →
      finish.console.session.quitRequested = false →
        LinesCourse (run bound) start.console.session.breakOnException (Script.logicalLines text)
          start answer finish :=
  ⟨fun _ _ _ _ ended unasked => evaluateTokens_course (run_traces bound) ended unasked,
    fun _ _ _ _ ended unasked => evaluateLines_course bound ended unasked⟩

/-- A console whose failures do not break off. -/
@[irreducible]
def unbrokenRun : Run :=
  Shell.freshRun emptyWorld { Settings.default with breakOnException := false }

/-- A line that goes on after a failure, and another line. -/
def failingText : String := "foo; mach create \"a\"\nmach create \"b\""

theorem lines_follow_policy_unbroken :
    (run 4 (.lines failingText) unbrokenRun).2.console.emulation.machines = [⟨0, "a"⟩, ⟨1, "b"⟩] ∧
      LinesCourse (run 2) false (Script.logicalLines failingText) unbrokenRun true
        (run 4 (.lines failingText) unbrokenRun).2 := by
  have succeeded : (run 4 (.lines failingText) unbrokenRun).1.toOption = some true := by
    decide +kernel
  have unasked :
      (run 4 (.lines failingText) unbrokenRun).2.console.session.quitRequested = false := by
    decide +kernel
  have unbroken : unbrokenRun.console.session.breakOnException = false := by decide +kernel
  refine ⟨by decide +kernel, ?_⟩
  cases ended : run 4 (.lines failingText) unbrokenRun with
  | mk outcome finish =>
      rw [ended] at succeeded unasked
      cases outcome with
      | error stop => cases succeeded
      | ok answer =>
          have course :=
            (lines_follow_policy 2).2 failingText unbrokenRun answer finish ended unasked
          rw [unbroken] at course
          cases succeeded
          exact course

/-- A line that cannot be read, and one that can. -/
def unreadableText : String := "<5,-6>\nmach create \"a\""

/-- Failures do not break off, and still nothing is evaluated after a line that cannot be read. -/
theorem unreadable_line_ends_text :
    ¬ ∀ (start finish : Run) (text : String) (answer : Bool),
      start.console.session.capture = .off →
      start.console.session.breakOnException = false →
      evaluate (.lines text) start = (.ok answer, finish) →
      finish.console.session.capture = .off →
      finish.console.session.quitRequested = false →
      ∀ line ∈ Script.logicalLines text, ∀ tokens, start.console.tokensOf line = .ok tokens →
        Event.begun (Token.invocations tokens) ∈ finish.console.history := by
  intro always
  have isLine : "mach create \"a\"" ∈ Script.logicalLines unreadableText := by decide +kernel
  have isReadable : (unbrokenRun.console.tokensOf "mach create \"a\"").toOption.isSome := by
    decide +kernel
  have answered : (evaluate (.lines unreadableText) unbrokenRun).1.toOption = some false := by
    decide +kernel
  have nothing : (evaluate (.lines unreadableText) unbrokenRun).2.console.history.isEmpty := by
    decide +kernel
  have off : unbrokenRun.console.session.capture = .off := by decide +kernel
  have stillOff :
      (evaluate (.lines unreadableText) unbrokenRun).2.console.session.capture = .off := by
    decide +kernel
  have unasked :
      (evaluate (.lines unreadableText) unbrokenRun).2.console.session.quitRequested = false := by
    decide +kernel
  have unbroken : unbrokenRun.console.session.breakOnException = false := by decide +kernel
  cases reads : unbrokenRun.console.tokensOf "mach create \"a\"" with
  | error result =>
      rw [reads] at isReadable
      cases isReadable
  | ok tokens =>
      cases ended : evaluate (.lines unreadableText) unbrokenRun with
      | mk outcome finish =>
          rw [ended] at answered nothing stillOff unasked
          cases outcome with
          | error stop => cases answered
          | ok answer =>
              have entered := always unbrokenRun finish unreadableText answer off unbroken ended
                stillOff unasked _ isLine tokens reads
              rw [List.isEmpty_iff.mp nothing] at entered
              cases entered

end Eval

end MachineConsole
