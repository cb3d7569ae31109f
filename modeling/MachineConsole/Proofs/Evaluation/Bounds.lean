import MachineConsole.Console.Evaluation
import MachineConsole.Proofs.Evaluation.Calculus

/-!
Contract: the recursion bound of the evaluator has no say in what it does.

Owns:
- `Approximates`: one computation does what another does unless it exhausts the bound;
- `run_eq_of_le`: an evaluation that did not exhaust its bound is the same with any larger one.

Does not own: which bound is enough for an evaluation, which is
`MachineConsole.Proofs.Evaluation.Nesting`.
-/

namespace MachineConsole

namespace Eval

variable {α β : Type}

/-- The first computation exhausts the recursion bound or does what the second does. -/
def Approximates (short long : Eval α) : Prop :=
  ∀ run, (∃ after, short run = (.error .exhausted, after)) ∨ short run = long run

/-! ### Rules -/

namespace Approximates

variable {short long : Eval α}

theorem refl (action : Eval α) : Approximates action action :=
  fun _ => Or.inr rfl

theorem bind {shortNext longNext : α → Eval β} (first : Approximates short long)
    (rest : ∀ value, Approximates (shortNext value) (longNext value)) :
    Approximates (short >>= shortNext) (long >>= longNext) := by
  intro run
  rw [bind_run, bind_run]
  cases first run with
  | inl exhausted =>
      obtain ⟨after, exhausted⟩ := exhausted
      rw [exhausted]
      exact Or.inl ⟨after, rfl⟩
  | inr same =>
      rw [← same]
      cases short run with
      | mk result after =>
          cases result with
          | ok value => exact rest value after
          | error stop => exact Or.inr rfl

/-- The first part is the same on both sides. -/
theorem after (action : Eval α) {shortNext longNext : α → Eval β}
    (rest : ∀ value, Approximates (shortNext value) (longNext value)) :
    Approximates (action >>= shortNext) (action >>= longNext) :=
  bind (refl action) rest

theorem discard (first : Approximates short long) (next : α → Eval β) :
    Approximates (short >>= next) (long >>= next) :=
  bind first fun value => refl (next value)

theorem attempt (approximates : Approximates short long) :
    Approximates (Eval.attempt short) (Eval.attempt long) := by
  intro run
  rw [attempt_run, attempt_run]
  cases approximates run with
  | inl exhausted =>
      obtain ⟨after, exhausted⟩ := exhausted
      rw [exhausted]
      exact Or.inl ⟨after, rfl⟩
  | inr same => exact Or.inr (by rw [same])

theorem thenRestore (approximates : Approximates short long) (change : Console → Console) :
    Approximates (short.thenRestore change) (long.thenRestore change) := by
  intro run
  unfold Eval.thenRestore
  cases approximates run with
  | inl exhausted =>
      obtain ⟨after, exhausted⟩ := exhausted
      rw [exhausted]
      exact Or.inl ⟨_, rfl⟩
  | inr same => exact Or.inr (by rw [same])

theorem deeper (approximates : Approximates short long) :
    Approximates (Eval.deeper short) (Eval.deeper long) :=
  after _ fun _ => approximates.thenRestore Console.ascend

theorem onOwnSink (approximates : Approximates short long) :
    Approximates (Eval.onOwnSink short) (Eval.onOwnSink long) := by
  intro run
  unfold Eval.onOwnSink
  cases approximates { run with sink := Sink.empty } with
  | inl exhausted =>
      obtain ⟨after, exhausted⟩ := exhausted
      rw [exhausted]
      exact Or.inl ⟨_, rfl⟩
  | inr same => exact Or.inr (by rw [same])

end Approximates

/-! ### Parts of the evaluator -/

section

variable {short long : Nested} (approximates : ∀ job, Approximates (short job) (long job))

include approximates

theorem reenter_approximates (text : String) :
    Approximates (reenter short text) (reenter long text) :=
  Approximates.after _ fun _ => approximates (.lines text)

theorem replay_approximates (line : String) :
    Approximates (replay short line) (replay long line) := by
  apply Approximates.deeper
  apply Approximates.after
  intro tokens?
  cases tokens? with
  | some tokens => exact approximates (.tokens tokens)
  | none => exact Approximates.refl _

theorem substitute_approximates (command : String) :
    Approximates (substitute short command) (substitute long command) := by
  apply Approximates.after
  intro _
  exact Approximates.discard (Approximates.onOwnSink (approximates (.line command)).deeper) _

theorem replaceToken_approximates (token : Token) :
    Approximates (replaceToken short token) (replaceToken long token) := by
  unfold replaceToken
  split
  · exact substitute_approximates approximates _
  · exact Approximates.refl _
  · exact Approximates.refl _

theorem replaceTokens_approximates (tokens : List Token) :
    Approximates (replaceTokens short tokens) (replaceTokens long tokens) := by
  induction tokens with
  | nil => exact Approximates.refl _
  | cons token rest inductionHypothesis =>
      apply Approximates.bind (replaceToken_approximates approximates token)
      intro replacement?
      cases replacement? with
      | none => exact Approximates.refl _
      | some replacement => exact Approximates.discard inductionHypothesis _

theorem runScript_approximates (path : String) :
    Approximates (runScript short path) (runScript long path) := by
  apply Approximates.after
  intro state
  split
  · exact Approximates.refl _
  · next text _ =>
      apply Approximates.after
      exact fun _ => (reenter_approximates approximates text).thenRestore _

theorem includeFile_approximates (file : String) :
    Approximates (includeFile short file) (includeFile long file) := by
  apply Approximates.after
  intro state
  split
  · exact Approximates.refl _
  · next path _ =>
      dsimp only
      split
      · exact Approximates.refl _
      · split
        · exact Approximates.refl _
        · exact runScript_approximates approximates path

theorem executeVariable_approximates (arguments : List Token) :
    Approximates (Builtin.executeVariable short arguments)
      (Builtin.executeVariable long arguments) := by
  apply Approximates.after
  intro state
  apply Approximates.after
  intro token
  exact Approximates.after _ fun value => reenter_approximates approximates value.sourceText

theorem playMacro_approximates (arguments : List Token) :
    Approximates (Builtin.playMacro short arguments) (Builtin.playMacro long arguments) := by
  apply Approximates.after
  intro name
  apply Approximates.after
  intro state
  split
  · exact Approximates.refl _
  · exact reenter_approximates approximates _

theorem runForm_approximates (form : BuiltinForm) (arguments : List Token) :
    Approximates (Builtin.runForm short form arguments)
      (Builtin.runForm long form arguments) := by
  have includes (file : String) := includeFile_approximates approximates file
  cases form with
  | includeFile => exact Approximates.after _ includes
  | executeVariable => exact executeVariable_approximates approximates arguments
  | executeTokens => exact reenter_approximates approximates (Token.joinRaw arguments)
  | playMacro => exact playMacro_approximates approximates arguments
  | startScript => exact Approximates.after _ fun file => Approximates.discard (includes file) _
  | _ => exact Approximates.refl _

theorem runCommand_approximates (command : Command) (arguments : List Token) :
    Approximates (runCommand short command arguments) (runCommand long command arguments) := by
  cases command with
  | added added => exact Approximates.refl _
  | builtin builtin =>
      apply Approximates.after
      rintro ⟨form?, chosen⟩
      cases form? with
      | none => exact Approximates.refl _
      | some form => exact runForm_approximates approximates form chosen

theorem assign_approximates (assignment : Assignment) :
    Approximates (assign short assignment) (assign long assignment) := by
  apply Approximates.after
  intro state
  split
  · exact Approximates.refl _
  · apply Approximates.after
    intro value
    split
    · exact Approximates.refl _
    · exact runCommand_approximates approximates _ _

theorem dispatchName_approximates (name : String) (first : Token) (arguments : List Token) :
    Approximates (dispatchName short name first arguments)
      (dispatchName long name first arguments) := by
  apply Approximates.after
  intro state
  split
  · exact runCommand_approximates approximates _ arguments
  · exact Approximates.refl _

theorem handOver_approximates (invocation : List Token) :
    Approximates (handOver short invocation) (handOver long invocation) := by
  unfold handOver
  split
  · next assignment _ => exact assign_approximates approximates assignment
  · split
    · exact Approximates.refl _
    · next first arguments _ =>
        split
        · apply Approximates.after
          intro state
          exact Approximates.after _ fun value => replay_approximates approximates _
        · next name _ => exact dispatchName_approximates approximates name first arguments
        · exact Approximates.refl _

theorem dispatch_approximates (invocation : List Token) :
    Approximates (dispatch short invocation) (dispatch long invocation) := by
  have handed := handOver_approximates approximates invocation
  apply Approximates.after
  intro _
  apply Approximates.after
  intro state
  dsimp only
  split
  · exact Approximates.after _ fun _ => handed
  · exact handed

theorem playResetMacro_approximates (machine : MachineHandle) :
    Approximates (playResetMacro short machine) (playResetMacro long machine) := by
  apply Approximates.after
  intro state
  split
  · exact Approximates.refl _
  · next body _ =>
      apply Approximates.after
      intro _
      exact Approximates.discard ((approximates (.lines body.sourceText)).deeper.thenRestore _) _

theorem playResetMacros_approximates (machines : List MachineHandle) :
    Approximates (playResetMacros short machines) (playResetMacros long machines) := by
  induction machines with
  | nil => exact Approximates.refl _
  | cons machine rest inductionHypothesis =>
      apply Approximates.after
      intro requested
      dsimp only
      split
      · exact Approximates.bind (playResetMacro_approximates approximates machine)
          fun _ => inductionHypothesis
      · exact inductionHypothesis

theorem dispatchAndFollow_approximates (invocation : List Token) :
    Approximates (dispatchAndFollow short invocation) (dispatchAndFollow long invocation) := by
  have dispatched : Approximates (dispatchReporting short invocation)
      (dispatchReporting long invocation) :=
    Approximates.discard (dispatch_approximates approximates invocation).attempt _
  apply Approximates.bind dispatched.attempt
  intro outcome
  apply Approximates.discard
  apply Approximates.after
  intro _
  exact Approximates.after _ fun state => playResetMacros_approximates approximates _

theorem evaluateInvocation_approximates (invocation : List Token) :
    Approximates (evaluateInvocation short invocation) (evaluateInvocation long invocation) := by
  apply Approximates.after
  intro state
  split
  · exact Approximates.refl _
  · apply Approximates.bind (replaceTokens_approximates approximates invocation)
    intro replacements?
    cases replacements? with
    | none => exact Approximates.refl _
    | some replacements =>
        dsimp only
        split
        · exact replay_approximates approximates _
        · exact dispatchAndFollow_approximates approximates invocation

theorem evaluateInvocations_approximates (invocations : List (List Token)) :
    Approximates (evaluateInvocations short invocations)
      (evaluateInvocations long invocations) := by
  induction invocations with
  | nil => exact Approximates.refl _
  | cons invocation rest inductionHypothesis =>
      apply Approximates.bind (evaluateInvocation_approximates approximates invocation)
      intro succeeded
      apply Approximates.after
      intro state
      split
      · exact Approximates.refl _
      · split
        · exact Approximates.refl _
        · exact inductionHypothesis

theorem evaluateTokens_approximates (tokens : List Token) :
    Approximates (evaluateTokens short tokens) (evaluateTokens long tokens) :=
  Approximates.after _ fun _ => evaluateInvocations_approximates approximates _

theorem evaluateCommands_approximates (text : String) :
    Approximates (evaluateCommands short text) (evaluateCommands long text) := by
  apply Approximates.after
  intro tokens?
  cases tokens? with
  | none => exact Approximates.refl _
  | some tokens => exact evaluateTokens_approximates approximates tokens

theorem evaluateLines_approximates (lines : List String) :
    Approximates (evaluateLines short lines) (evaluateLines long lines) := by
  induction lines with
  | nil => exact Approximates.refl _
  | cons line rest inductionHypothesis =>
      apply Approximates.bind (approximates (.line line))
      intro succeeded
      split
      · exact inductionHypothesis
      · exact Approximates.refl _

theorem evaluateLine_approximates (line : String) :
    Approximates (evaluateLine short line) (evaluateLine long line) := by
  apply Approximates.after
  intro state
  apply Approximates.after
  intro _
  split
  · exact Approximates.refl _
  · exact evaluateCommands_approximates approximates _

theorem step_approximates (job : Job) : Approximates (step short job) (step long job) := by
  cases job with
  | line line => exact evaluateLine_approximates approximates line
  | tokens tokens => exact evaluateTokens_approximates approximates tokens
  | lines text => exact evaluateLines_approximates approximates _

end

/-! ### The evaluator -/

/-- With a larger bound the evaluator goes on only where it would have exhausted the smaller one. -/
theorem run_approximates {bound larger : Nat} (more : bound ≤ larger) (job : Job) :
    Approximates (run bound job) (run larger job) := by
  induction bound generalizing larger job with
  | zero => exact fun start => Or.inl ⟨start, rfl⟩
  | succ bound inductionHypothesis =>
      cases larger with
      | zero => cases more
      | succ larger =>
          exact step_approximates (inductionHypothesis (Nat.le_of_succ_le_succ more)) job

/-- An evaluation that did not exhaust its bound is the same with every larger bound. -/
theorem run_eq_of_le {bound larger : Nat} (more : bound ≤ larger) {job : Job} {start : Run}
    (finished : (run bound job start).1 ≠ .error .exhausted) :
    run larger job start = run bound job start := by
  cases run_approximates more job start with
  | inl exhausted =>
      obtain ⟨after, exhausted⟩ := exhausted
      rw [exhausted] at finished
      exact absurd rfl finished
  | inr same => exact same.symm

end Eval

end MachineConsole
