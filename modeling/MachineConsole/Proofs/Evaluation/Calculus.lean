import MachineConsole.Console.Eval
import MachineConsole.Proofs.Sequencing

/-!
Contract: computations of a console, run step by step.

Owns:
- what reading the console and attempting a computation amount to on a run;
- `Silent` and `Quiet`: computations that leave the run, or at least the console, as it was.

Does not own: what computations do to the console, which is `MachineConsole.Proofs.Evaluation.Trace`.
-/

namespace MachineConsole.Eval

variable {α β : Type}

/-! ### Parts of computations -/

theorem console_bind_run (next : Console → Eval β) (run : Run) :
    (console >>= next) run = next run.console run :=
  rfl

theorem session_bind_run (next : Session → Eval β) (run : Run) :
    (session >>= next) run = next run.console.session run :=
  rfl

theorem attempt_run (action : Eval α) (run : Run) :
    attempt action run =
      match action run with
      | (.ok value, after) => (.ok (.ok value), after)
      | (.error (.failed fault), after) => (.ok (.error fault), after)
      | (.error .exhausted, after) => (.error .exhausted, after) :=
  rfl

/-- An attempt that has a result tells how the computation ended. -/
theorem of_attempt_run {action : Eval α} {run after : Run} {result : Except Fault α}
    (attempted : attempt action run = (.ok result, after)) :
    action run = (result.mapError Stop.failed, after) := by
  rw [attempt_run] at attempted
  cases outcome : action run with
  | mk ended reached =>
      rw [outcome] at attempted
      cases ended with
      | ok value =>
          cases attempted
          rfl
      | error stop =>
          cases stop with
          | failed fault =>
              cases attempted
              rfl
          | exhausted => cases attempted

/-- An attempt stops only at the end of the recursion bound. -/
theorem attempt_stops {action : Eval α} {run after : Run} {stop : Stop}
    (attempted : attempt action run = (.error stop, after)) : stop = .exhausted := by
  rw [attempt_run] at attempted
  cases outcome : action run with
  | mk ended reached =>
      rw [outcome] at attempted
      cases ended with
      | ok value => cases attempted
      | error reason =>
          cases reason with
          | failed fault => cases attempted
          | exhausted =>
              cases attempted
              rfl

/-- An attempt at a computation that does not exhaust the recursion bound keeps its outcome. -/
theorem attempt_run_of_answers {action : Eval α} {run : Run}
    (answers : (action run).1 ≠ .error .exhausted) :
    ∃ result, attempt action run = (.ok result, (action run).2) ∧
      ∀ after, ofExcept result after = ((action run).1, after) := by
  rw [attempt_run]
  cases outcome : action run with
  | mk ended reached =>
      rw [outcome] at answers
      cases ended with
      | ok value => exact ⟨.ok value, rfl, fun _ => rfl⟩
      | error stop =>
          cases stop with
          | failed fault => exact ⟨.error fault, rfl, fun _ => rfl⟩
          | exhausted => exact absurd rfl answers

/-! ### Computations that change nothing, or only what is written -/

/-- A computation after which the run is what it was before. Its outcome does not depend on what was
written, and it does not nest. -/
structure Silent (action : Eval α) : Prop where
  outcome : ∀ console, ∃ result, result ≠ .error .exhausted ∧
    ∀ sink, action ⟨console, sink⟩ = (result, ⟨console, sink⟩)

/-- A computation after which the console is what it was before, and which does not nest. -/
structure Quiet (action : Eval α) : Prop where
  console : ∀ run, (action run).2.console = run.console
  answers : ∀ run, (action run).1 ≠ .error .exhausted

namespace Silent

theorem run {action : Eval α} (silent : Silent action) (run : Run) : (action run).2 = run := by
  obtain ⟨result, _, ends⟩ := silent.outcome run.console
  exact congrArg Prod.snd (ends run.sink)

theorem answers {action : Eval α} (silent : Silent action) (run : Run) :
    (action run).1 ≠ .error .exhausted := by
  obtain ⟨result, answered, ends⟩ := silent.outcome run.console
  have outcome : action run = (result, run) := ends run.sink
  rw [outcome]
  exact answered

theorem pure (value : α) : Silent (Pure.pure value) :=
  ⟨fun _ => ⟨.ok value, nofun, fun _ => rfl⟩⟩

theorem fail (fault : Fault) : Silent (Eval.fail fault : Eval α) :=
  ⟨fun _ => ⟨.error (.failed fault), nofun, fun _ => rfl⟩⟩

theorem refuse (cause : Refusal) : Silent (Eval.refuse cause : Eval α) :=
  fail _

theorem console : Silent Eval.console :=
  ⟨fun console => ⟨.ok console, nofun, fun _ => rfl⟩⟩

theorem session : Silent Eval.session :=
  ⟨fun console => ⟨.ok console.session, nofun, fun _ => rfl⟩⟩

theorem ofExcept (result : Except Fault α) : Silent (Eval.ofExcept result) := by
  cases result with
  | ok value => exact pure value
  | error fault => exact fail fault

theorem bind {action : Eval α} {next : α → Eval β} (first : Silent action)
    (rest : ∀ value, Silent (next value)) : Silent (action >>= next) := by
  constructor
  intro console
  obtain ⟨firstResult, answered, firstEnds⟩ := first.outcome console
  cases firstResult with
  | ok value =>
      obtain ⟨result, restAnswered, restEnds⟩ := (rest value).outcome console
      exact ⟨result, restAnswered, fun sink =>
        (bind_run_of_ok (firstEnds sink) next).trans (restEnds sink)⟩
  | error stop =>
      refine ⟨.error stop, ?_, fun sink => bind_run_of_error (firstEnds sink) next⟩
      rintro ⟨⟩
      exact answered rfl

theorem quiet {action : Eval α} (silent : Silent action) : Quiet action :=
  ⟨fun run => by rw [silent.run run], silent.answers⟩

end Silent

namespace Quiet

theorem writeLine (text : String) : Quiet (Eval.writeLine text) :=
  ⟨fun _ => rfl, fun _ => nofun⟩

theorem writeLines (lines : List String) : Quiet (Eval.writeLines lines) :=
  ⟨fun _ => rfl, fun _ => nofun⟩

theorem bind {action : Eval α} {next : α → Eval β} (first : Quiet action)
    (rest : ∀ value, Quiet (next value)) : Quiet (action >>= next) := by
  have together (run : Run) : ((action >>= next) run).2.console = run.console ∧
      ((action >>= next) run).1 ≠ .error .exhausted := by
    have unchanged := first.console run
    have answered := first.answers run
    rw [bind_run]
    cases outcome : action run with
    | mk result after =>
        rw [outcome] at unchanged answered
        cases result with
        | ok value =>
            exact ⟨((rest value).console after).trans unchanged, (rest value).answers after⟩
        | error stop =>
            refine ⟨unchanged, ?_⟩
            rintro ⟨⟩
            exact answered rfl
  exact ⟨fun run => (together run).1, fun run => (together run).2⟩

end Quiet

end MachineConsole.Eval
