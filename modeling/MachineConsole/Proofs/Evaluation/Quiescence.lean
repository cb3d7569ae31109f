import MachineConsole.Proofs.Evaluation.Dispatch
import MachineConsole.Proofs.Evaluation.Selection
import MachineConsole.Proofs.Lexing.Invocations
import MachineConsole.Proofs.Session

/-!
Contract: invocations around which nothing happens.

Owns:
- plain tokens, which stay as they are in an invocation;
- `Console.Quiescent`: nothing has gone unnoticed and no reset was requested, so that nothing follows
  an invocation;
- what is left of the evaluation of an invocation then, or of a line that is one: its dispatch.
-/

namespace MachineConsole

namespace Console

/-- Whether a token stays as it is in an invocation: it is no substitution and no remote file. -/
def isPlain (console : Console) (token : Token) : Bool :=
  match token.kind with
  | .substitution _ => false
  | .path path => console.world.files.contains path || !Uri.isRemote path
  | _ => true

/-- Nothing is left to do after an invocation. -/
structure Quiescent (console : Console) : Prop where
  settled : console.selection.Settled
  unrequested : ∀ machine ∈ console.emulation.machines,
    (console.world.machine machine).resetRequested = false

instance (console : Console) : Decidable console.Quiescent :=
  decidable_of_iff
    (console.generation = (console.world.manager console.manager).generation ∧
      ∀ machine ∈ console.emulation.machines,
        (console.world.machine machine).resetRequested = false)
    ⟨fun both => ⟨both.1, both.2⟩, fun quiescent => ⟨quiescent.settled, quiescent.unrequested⟩⟩

end Console

namespace Eval

variable {nested : Nested} {run : Run}

/-! ### Before dispatch -/

theorem replaceToken_of_isPlain (nested : Nested) {token : Token}
    (plain : run.console.isPlain token = true) :
    replaceToken nested token run = (.ok (some ⟨token, false⟩), run) := by
  unfold Console.isPlain at plain
  unfold replaceToken
  cases isKind : token.kind with
  | substitution command =>
      rw [isKind] at plain
      cases plain
  | path path =>
      rw [isKind] at plain
      dsimp only at plain ⊢
      have stays : ¬(!run.console.world.files.contains path && Uri.isRemote path) = true := by
        intro isFetched
        cases present : run.console.world.files.contains path with
        | true =>
            rw [present] at isFetched
            cases isFetched
        | false =>
            rw [present] at plain isFetched
            rw [show Uri.isRemote path = true from isFetched] at plain
            cases plain
      rw [console_bind_run, if_neg stays]
      rfl
  | _ => rfl

theorem replaceTokens_of_isPlain {tokens : List Token}
    (plain : ∀ token ∈ tokens, run.console.isPlain token = true) :
    replaceTokens nested tokens run =
      (.ok (some (tokens.map fun token => ⟨token, false⟩)), run) := by
  induction tokens with
  | nil => rfl
  | cons token rest inductionHypothesis =>
      have replaced := replaceToken_of_isPlain nested (plain token List.mem_cons_self)
      have others := inductionHypothesis fun other member =>
        plain other (List.mem_cons_of_mem token member)
      unfold replaceTokens
      rw [bind_run_of_ok replaced]
      dsimp only
      rw [bind_run_of_ok others]
      rfl

/-- A plain invocation is dispatched as it is. -/
theorem evaluateInvocation_of_isPlain {invocation : List Token}
    (plain : ∀ token ∈ invocation, run.console.isPlain token = true)
    (shallow : run.console.depth < Console.nestingBound) :
    evaluateInvocation nested invocation run = dispatchAndFollow nested invocation run := by
  have unreplaced : ¬((invocation.map fun token => (⟨token, false⟩ : Replacement)).any
      Replacement.isNew) = true := by
    rw [List.any_map, List.any_eq_true]
    rintro ⟨token, _, isNew⟩
    cases isNew
  unfold evaluateInvocation
  rw [console_bind_run, if_neg (Nat.not_le_of_lt shallow),
    bind_run_of_ok (replaceTokens_of_isPlain plain)]
  dsimp only
  rw [if_neg unreplaced]

/-! ### After dispatch -/

/-- Without a request for a reset there is nothing to take. -/
theorem withoutRequest_of_unrequested {machine : MachineHandle}
    (unrequested : (run.console.world.machine machine).resetRequested = false) :
    withoutRequest run machine = run := by
  have same : (run.console.world.updateMachine machine fun state =>
      { state with resetRequested := false }) = run.console.world := by
    have machines : (run.console.world.machines.modify machine.index fun state =>
        { state with resetRequested := false }) = run.console.world.machines := by
      apply Array.ext
      · exact Array.size_modify ..
      · intro position inside within
        rw [Array.getElem_modify]
        split
        · next isMachine =>
            unfold World.machine at unrequested
            rw [isMachine, Array.getElem?_eq_getElem within, Option.getD_some] at unrequested
            generalize run.console.world.machines[position] = state at unrequested ⊢
            cases state
            cases unrequested
            rfl
        · rfl
    unfold World.updateMachine
    rw [machines]
  unfold withoutRequest
  rw [same]
  rfl

theorem playResetMacros_of_unrequested {machines : List MachineHandle}
    (unrequested : ∀ machine ∈ machines,
      (run.console.world.machine machine).resetRequested = false) :
    playResetMacros nested machines run = (.ok (), run) := by
  induction machines with
  | nil => rfl
  | cons machine rest inductionHypothesis =>
      have absent := unrequested machine List.mem_cons_self
      have taken := takeResetRequest_run machine run
      rw [absent, withoutRequest_of_unrequested absent] at taken
      unfold playResetMacros
      rw [bind_run_of_ok taken]
      exact inductionHypothesis fun other member =>
        unrequested other (List.mem_cons_of_mem machine member)

theorem afterInvocation_of_quiescent (quiescent : run.console.Quiescent) :
    afterInvocation nested run = (.ok (), run) := by
  have unreplaced : run.console.noticeReplacement = run.console :=
    if_pos (Eq.symm quiescent.settled)
  rw [afterInvocation_run, unreplaced]
  exact playResetMacros_of_unrequested quiescent.unrequested

theorem dispatchAndFollow_of_quiescent {invocation : List Token} {succeeded : Bool} {after : Run}
    (reported : dispatchReporting nested invocation run = (.ok succeeded, after))
    (quiescent : after.console.Quiescent) :
    dispatchAndFollow nested invocation run = (.ok succeeded, after) := by
  have attempted : attempt (dispatchReporting nested invocation) run =
      (.ok (.ok succeeded), after) := by
    rw [attempt_run, reported]
  unfold dispatchAndFollow
  rw [bind_run_of_ok attempted, bind_run_of_ok (afterInvocation_of_quiescent quiescent)]
  rfl

/-! ### A line that is one invocation -/

theorem tokensOf_of_reads {console : Console} {line : String} {tokens : List Token}
    (reads : Tokenization.Reads line.toList tokens) : console.tokensOf line = .ok tokens := by
  obtain ⟨succeeded, rfl⟩ := Tokenization.succeeded_iff_reads.mpr reads
  exact if_pos succeeded

theorem evaluateInvocations_single {invocation : List Token} {after : Run}
    (evaluated : evaluateInvocation nested invocation run = (.ok true, after)) :
    evaluateInvocations nested [invocation] run = (.ok true, after) := by
  unfold evaluateInvocations
  rw [bind_run_of_ok evaluated, session_bind_run, Bool.not_true, Bool.false_and,
    if_neg Bool.false_ne_true]
  -- Whether the session is to end or not, there is nothing left.
  split
  · rfl
  · rfl

/-- Without a capture, a line is evaluated as commands. -/
theorem evaluateLine_of_off {line : String} (off : run.console.session.capture = .off) :
    evaluateLine nested line run = evaluateCommands nested line run :=
  evaluateLine_of_passed (run.console.session.feed_off off line)

/-- A line that is one plain invocation leads to the console that the invocation is handed over to
lead to. -/
theorem evaluateLine_of_handOver {line : String} {invocation : List Token} {after : Console}
    (off : run.console.session.capture = .off)
    (reads : Tokenization.Reads line.toList invocation)
    (isInvocation : Token.IsInvocation invocation)
    (plain : ∀ token ∈ invocation, run.console.isPlain token = true)
    (shallow : run.console.depth < Console.nestingBound)
    (handed : ∀ sink, handOver nested invocation
      ⟨(begun [invocation] run).console.record (.dispatched invocation), sink⟩ =
        (.ok true, ⟨after, sink⟩))
    (quiescent : after.Quiescent) :
    ∃ sink, evaluateLine nested line run = (.ok true, ⟨after, sink⟩) := by
  obtain ⟨sink, dispatched⟩ := dispatch_run nested invocation (begun [invocation] run)
  rw [handed sink] at dispatched
  have attempted : attempt (dispatch nested invocation) (begun [invocation] run) =
      (.ok (.ok true), ⟨after, sink⟩) := by
    rw [attempt_run, dispatched]
  have reported : dispatchReporting nested invocation (begun [invocation] run) =
      (.ok true, ⟨after, sink⟩) := by
    unfold dispatchReporting
    rw [bind_run_of_ok attempted]
    rfl
  have evaluated : evaluateInvocation nested invocation (begun [invocation] run) =
      (.ok true, ⟨after, sink⟩) := by
    have stillPlain : ∀ token ∈ invocation,
        (begun [invocation] run).console.isPlain token = true := plain
    rw [evaluateInvocation_of_isPlain stillPlain shallow]
    exact dispatchAndFollow_of_quiescent reported quiescent
  refine ⟨sink, ?_⟩
  rw [evaluateLine_of_off off, evaluateCommands_of_ok (tokensOf_of_reads reads),
    evaluateTokens_run, isInvocation.invocations_eq]
  exact evaluateInvocations_single evaluated

end Eval

end MachineConsole
