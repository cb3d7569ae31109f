import MachineConsole.Console.Evaluation
import MachineConsole.Proofs.Evaluation.Endings
import MachineConsole.Proofs.Lexing.Invocations

/-!
Contract: how one level of the evaluator ends, whatever dispatch does.

Owns:
- the rules for substitutions and remote files, for what follows an invocation, and for invocations
  and lines in order;
- `replaceTokens_of_old`: an invocation that is left as it is has no substitution, and finding that
  out does nothing to the console;
- `run_endsBy_of_tokens`: a relation holds of the evaluator when it holds of the evaluation of tokens;
- `run_endsBy`: a compositional relation holds of the evaluator when it holds of dispatch together
  with what follows it.

Does not own: any one relation, or dispatch.
-/

namespace MachineConsole.Eval

variable {ending inner outer : Ending} {nested : Nested}

/-! ### Substitutions and remote files -/

theorem readTokens_endsBy (laws : Sequential ending) (line : String) (run : Run) :
    EndsBy ending run (readTokens line) := by
  apply EndsBy.console_bind
  split
  · exact laws.refl run.console
  · exact laws.refl run.console

theorem replay_endsBy (laws : Nesting inner outer) (innerLaws : Sequential inner)
    (nestedEnds : ∀ job run, EndsBy inner run (nested job)) (line : String) (run : Run) :
    EndsBy outer run (replay nested line) := by
  apply EndsBy.deeper laws
  apply EndsBy.bind innerLaws (readTokens_endsBy innerLaws line _)
  intro tokens? after _
  cases tokens? with
  | some tokens => exact nestedEnds (.tokens tokens) after
  | none => exact EndsBy.pure innerLaws false

theorem substitute_endsBy (laws : Compositional inner outer)
    (nestedEnds : ∀ job run, EndsBy inner run (nested job)) (command : String) (run : Run) :
    EndsBy outer run (substitute nested command) := by
  have recorded : EndsBy outer run (record (.substituted command)) :=
    laws.substituted run.console command
  apply EndsBy.bind laws.toSequential recorded
  intro _ after _
  apply EndsBy.bind laws.toSequential
    (EndsBy.onOwnSink (EndsBy.deeper laws.toNesting (nestedEnds (.line command) _)))
  rintro ⟨succeeded, sink⟩ written _
  dsimp only
  split
  · exact EndsBy.pure laws.toSequential _
  · exact laws.refl written.console

theorem fetchFile_endsBy (laws : Compositional inner outer) (token : Token) (uri : String)
    (run : Run) : EndsBy outer run (fetchFile token uri) := by
  have attempted : EndsBy outer run (attempt (act (World.fetch uri))) := by
    have fetched := laws.fetched run.console uri
    unfold EndsBy
    rw [attempt_run]
    unfold act
    cases outcome : World.fetch uri run.console.world with
    | mk result world =>
        rw [outcome] at fetched
        cases result with
        | ok copy => exact fetched
        | error fault => exact fetched
  apply EndsBy.bind laws.toSequential attempted
  intro result after _
  cases result with
  | ok copy => exact EndsBy.pure laws.toSequential _
  | error fault =>
      have written : EndsBy outer after
          (writeErrors ["Failed to download " ++ uri ++ ", see log for details."]) :=
        laws.refl after.console
      apply EndsBy.bind laws.toSequential written
      intro _ reported _
      apply EndsBy.session_bind
      split
      · exact EndsBy.pure laws.toSequential _
      · exact EndsBy.pure laws.toSequential _

theorem replaceToken_endsBy (laws : Compositional inner outer)
    (nestedEnds : ∀ job run, EndsBy inner run (nested job)) (token : Token) (run : Run) :
    EndsBy outer run (replaceToken nested token) := by
  unfold replaceToken
  split
  · next command _ => exact substitute_endsBy laws nestedEnds command run
  · next path _ =>
      apply EndsBy.console_bind
      split
      · exact fetchFile_endsBy laws token path run
      · exact EndsBy.pure laws.toSequential _
  · exact EndsBy.pure laws.toSequential _

theorem replaceTokens_endsBy (laws : Compositional inner outer)
    (nestedEnds : ∀ job run, EndsBy inner run (nested job)) (tokens : List Token) (run : Run) :
    EndsBy outer run (replaceTokens nested tokens) := by
  induction tokens generalizing run with
  | nil => exact EndsBy.pure laws.toSequential _
  | cons token rest inductionHypothesis =>
      apply EndsBy.bind laws.toSequential (replaceToken_endsBy laws nestedEnds token run)
      intro replacement? after _
      cases replacement? with
      | none => exact EndsBy.pure laws.toSequential _
      | some replacement =>
          apply EndsBy.bind laws.toSequential (inductionHypothesis after)
          intro others? _ _
          cases others? with
          | none => exact EndsBy.pure laws.toSequential _
          | some others => exact EndsBy.pure laws.toSequential _

/-! ### Invocations that are left as they are -/

theorem substitute_isNew {command : String} {run after : Run} {replacement : Replacement}
    (substituted : substitute nested command run = (.ok (some replacement), after)) :
    replacement.isNew = true := by
  obtain ⟨_, recorded, _, ended⟩ := of_bind_run substituted
  obtain ⟨⟨succeeded, sink⟩, written, _, ended⟩ := of_bind_run ended
  dsimp only at ended
  split at ended
  · cases ended
    rfl
  · obtain ⟨_, _, _, ended⟩ := of_bind_run ended
    cases ended

theorem fetchFile_of_old {token : Token} {uri : String} {run after : Run}
    {replacement : Replacement}
    (fetched : fetchFile token uri run = (.ok (some replacement), after))
    (old : replacement.isNew = false) : ∃ world, after.console = run.console.withWorld world := by
  obtain ⟨result, tried, attempted, ended⟩ := of_bind_run fetched
  cases result with
  | ok copy =>
      cases ended
      cases old
  | error fault =>
      obtain ⟨_, written, wrote, ended⟩ := of_bind_run ended
      cases wrote
      have acted := of_attempt_run attempted
      have world : tried.console =
          run.console.withWorld (World.fetch uri run.console.world).2 := by
        unfold act at acted
        cases outcome : World.fetch uri run.console.world with
        | mk result world =>
            rw [outcome] at acted
            cases result with
            | ok copy => cases acted
            | error cause =>
                cases acted
                rfl
      rw [session_bind_run] at ended
      split at ended
      · cases ended
      · cases ended
        exact ⟨_, world⟩

theorem replaceToken_of_old {token : Token} {run after : Run} {replacement : Replacement}
    (replaced : replaceToken nested token run = (.ok (some replacement), after))
    (old : replacement.isNew = false) :
    (∀ command, token.kind ≠ .substitution command) ∧
      ∃ world, after.console = run.console.withWorld world := by
  unfold replaceToken at replaced
  cases isKind : token.kind with
  | substitution command =>
      rw [isKind] at replaced
      rw [substitute_isNew replaced] at old
      cases old
  | path path =>
      rw [isKind] at replaced
      refine ⟨nofun, ?_⟩
      dsimp only at replaced
      rw [console_bind_run] at replaced
      split at replaced
      · exact fetchFile_of_old replaced old
      · cases replaced
        exact ⟨_, rfl⟩
  | _ =>
      rw [isKind] at replaced
      cases replaced
      exact ⟨nofun, _, rfl⟩

/-- When nothing new stands in an invocation, none of its tokens is a substitution, and at most files
were asked for. -/
theorem replaceTokens_of_old {tokens : List Token} {run after : Run}
    {replacements : List Replacement}
    (replaced : replaceTokens nested tokens run = (.ok (some replacements), after))
    (old : ¬ replacements.any Replacement.isNew = true) :
    (∀ token ∈ tokens, ∀ command, token.kind ≠ .substitution command) ∧
      ∃ world, after.console = run.console.withWorld world := by
  induction tokens generalizing run replacements with
  | nil =>
      cases replaced
      exact ⟨nofun, _, rfl⟩
  | cons token rest inductionHypothesis =>
      obtain ⟨first?, between, firstReplaced, ended⟩ := of_bind_run replaced
      cases first? with
      | none => cases ended
      | some first =>
          obtain ⟨others?, last, othersReplaced, ended⟩ := of_bind_run ended
          cases others? with
          | none => cases ended
          | some others =>
              cases ended
              rw [List.any_cons, Bool.or_eq_true, not_or] at old
              obtain ⟨unsubstituted, firstWorld, firstSame⟩ :=
                replaceToken_of_old firstReplaced (Bool.eq_false_iff.mpr old.1)
              obtain ⟨othersUnsubstituted, world, same⟩ :=
                inductionHypothesis othersReplaced old.2
              refine ⟨?_, world, ?_⟩
              · intro other member
                cases List.mem_cons.mp member with
                | inl isFirst => exact isFirst ▸ unsubstituted
                | inr isOther => exact othersUnsubstituted other isOther
              · rw [same, firstSame]
                rfl

/-! ### After an invocation -/

/-- The run after the request for a reset of a machine was taken. -/
def withoutRequest (run : Run) (machine : MachineHandle) : Run :=
  { run with
    console := run.console.withWorld (run.console.world.updateMachine machine fun state =>
      { state with resetRequested := false }) }

theorem takeResetRequest_run (machine : MachineHandle) (run : Run) :
    takeResetRequest machine run =
      (.ok (run.console.world.machine machine).resetRequested, withoutRequest run machine) :=
  rfl

/-- The run in which the reset macro of a machine is played. -/
def withMachine (run : Run) (machine : MachineHandle) : Run :=
  { run with console := run.console.switchMachine (some machine) }

theorem playResetMacro_of_none {machine : MachineHandle} {run : Run}
    (missing : run.console.session.macroStore.get?
      (Scopes.inScope (scopeName machine.name) "reset") = none) :
    playResetMacro nested machine run = (.ok (), run) := by
  unfold playResetMacro
  rw [session_bind_run, missing]
  rfl

theorem playResetMacro_of_some {machine : MachineHandle} {run after : Run} {body : Token}
    {outcome : Except Stop Bool}
    (found : run.console.session.macroStore.get?
      (Scopes.inScope (scopeName machine.name) "reset") = some body)
    (played : deeper (nested (.lines body.sourceText)) (withMachine run machine) =
      (outcome, after)) :
    playResetMacro nested machine run =
      (outcome.map fun _ => (),
        { after with
          console := after.console.switchMachine run.console.session.currentMachine? }) := by
  unfold playResetMacro
  rw [session_bind_run, found]
  dsimp only
  rw [bind_run_of_ok (rfl : updateConsole _ run = (.ok (), withMachine run machine)), bind_run]
  unfold thenRestore
  rw [played]
  cases outcome with
  | ok succeeded => rfl
  | error stop => rfl

/-- Between the beginning and the macro, other macros may have been played. -/
theorem playResetMacro_endsBy (laws : Compositional inner outer)
    (nestedEnds : ∀ job run, EndsBy inner run (nested job)) {start : Console}
    {machine : MachineHandle} {run : Run} (earlier : outer start none run.console)
    (present : machine ∈ start.emulation.machines) :
    outer start (stop? (playResetMacro nested machine run).1)
      (playResetMacro nested machine run).2.console := by
  cases found : run.console.session.macroStore.get?
      (Scopes.inScope (scopeName machine.name) "reset") with
  | none =>
      rw [playResetMacro_of_none found]
      exact earlier
  | some body =>
      have inside : EndsBy outer (withMachine run machine)
          (deeper (nested (.lines body.sourceText))) :=
        EndsBy.deeper laws.toNesting (nestedEnds (.lines body.sourceText) _)
      cases played : deeper (nested (.lines body.sourceText)) (withMachine run machine) with
      | mk outcome after =>
          unfold EndsBy at inside
          rw [played] at inside
          rw [playResetMacro_of_some found played]
          have restored := laws.resetMacro earlier present inside
          cases outcome with
          | ok succeeded => exact restored
          | error stop => exact restored

theorem playResetMacros_endsBy (laws : Compositional inner outer)
    (nestedEnds : ∀ job run, EndsBy inner run (nested job)) {start : Console}
    {machines : List MachineHandle} {run : Run} (earlier : outer start none run.console)
    (present : ∀ machine ∈ machines, machine ∈ start.emulation.machines) :
    outer start (stop? (playResetMacros nested machines run).1)
      (playResetMacros nested machines run).2.console := by
  induction machines generalizing run with
  | nil => exact earlier
  | cons machine rest inductionHypothesis =>
      have restPresent : ∀ other ∈ rest, other ∈ start.emulation.machines :=
        fun other member => present other (List.mem_cons_of_mem machine member)
      have taken : outer start none (withoutRequest run machine).console :=
        laws.sequence earlier (laws.resetTaken run.console machine)
      unfold playResetMacros
      rw [bind_run_of_ok (takeResetRequest_run machine run)]
      dsimp only
      split
      · have played :=
          playResetMacro_endsBy laws nestedEnds taken (present machine List.mem_cons_self)
        cases outcome : playResetMacro nested machine (withoutRequest run machine) with
        | mk result between =>
            rw [outcome] at played
            cases result with
            | ok _ =>
                rw [bind_run_of_ok outcome]
                exact inductionHypothesis played restPresent
            | error stop =>
                rw [bind_run_of_error outcome]
                exact played
      · exact inductionHypothesis taken restPresent

theorem afterInvocation_run (run : Run) :
    afterInvocation nested run =
      playResetMacros nested run.console.noticeReplacement.emulation.machines
        { run with console := run.console.noticeReplacement } := by
  unfold afterInvocation
  rw [bind_run_of_ok (rfl : updateConsole Console.noticeReplacement run =
    (.ok (), { run with console := run.console.noticeReplacement })), console_bind_run]

theorem afterInvocation_endsBy (laws : Compositional inner outer)
    (nestedEnds : ∀ job run, EndsBy inner run (nested job)) (run : Run) :
    EndsBy outer run (afterInvocation nested) := by
  unfold EndsBy
  rw [afterInvocation_run]
  exact laws.sequence (laws.noticed run.console)
    (playResetMacros_endsBy laws nestedEnds (laws.refl _) fun _ present => present)

/-! ### Invocations -/

/-- An invocation below the bound on nesting. One that is dispatched may be judged by a relation of
its own, `ending`. -/
theorem evaluateInvocation_endsBy_of_dispatch (laws : Compositional inner outer)
    (innerLaws : Sequential inner) (nestedEnds : ∀ job run, EndsBy inner run (nested job))
    (ofOuter : ∀ {before stop? after}, outer before stop? after → ending before stop? after)
    {invocation : List Token} {run : Run}
    (dispatchEnds : Token.AreDispatchable invocation → ∀ after,
      outer run.console none after.console →
      (∃ world, after.console = run.console.withWorld world) →
        ending run.console (stop? (dispatchAndFollow nested invocation after).1)
          (dispatchAndFollow nested invocation after).2.console)
    (isInvocation : Token.IsInvocation invocation)
    (shallow : run.console.depth < Console.nestingBound) :
    EndsBy ending run (evaluateInvocation nested invocation) := by
  have replacing := replaceTokens_endsBy laws nestedEnds invocation run
  apply EndsBy.console_bind
  rw [if_neg (Nat.not_le_of_lt shallow)]
  unfold EndsBy at replacing ⊢
  cases replaced : replaceTokens nested invocation run with
  | mk result after =>
      rw [replaced] at replacing
      cases result with
      | error stop =>
          rw [bind_run_of_error replaced]
          exact ofOuter replacing
      | ok replacements? =>
          rw [bind_run_of_ok replaced]
          cases replacements? with
          | none => exact ofOuter replacing
          | some replacements =>
              dsimp only
              split
              · exact ofOuter (laws.sequence replacing
                  (replay_endsBy laws.toNesting innerLaws nestedEnds _ after))
              · next old =>
                  obtain ⟨unsubstituted, around⟩ := replaceTokens_of_old replaced old
                  refine dispatchEnds ?_ after replacing around
                  exact fun token member => Token.isOrdinary_of_isGathered
                    (isInvocation.2 token member) (unsubstituted token member)

theorem evaluateInvocation_endsBy_of_lt (laws : Compositional inner outer)
    (innerLaws : Sequential inner) (nestedEnds : ∀ job run, EndsBy inner run (nested job))
    (followEnds : ∀ invocation, Token.AreDispatchable invocation →
      ∀ run, EndsBy outer run (dispatchAndFollow nested invocation))
    {invocation : List Token} (isInvocation : Token.IsInvocation invocation) {run : Run}
    (shallow : run.console.depth < Console.nestingBound) :
    EndsBy outer run (evaluateInvocation nested invocation) :=
  evaluateInvocation_endsBy_of_dispatch laws innerLaws nestedEnds id
    (fun dispatchable after replaced _ =>
      laws.sequence replaced (followEnds invocation dispatchable after))
    isInvocation shallow

theorem evaluateInvocation_of_le (invocation : List Token) {run : Run}
    (deep : Console.nestingBound ≤ run.console.depth) :
    evaluateInvocation nested invocation run =
      handleFailure (Token.joinRaw invocation)
        (.refused (.nestingTooDeep Console.nestingBound)) run := by
  unfold evaluateInvocation
  rw [console_bind_run, if_pos deep]

theorem evaluateInvocation_endsBy (laws : Compositional inner outer)
    (innerLaws : Sequential inner) (nestedEnds : ∀ job run, EndsBy inner run (nested job))
    (followEnds : ∀ invocation, Token.AreDispatchable invocation →
      ∀ run, EndsBy outer run (dispatchAndFollow nested invocation))
    {invocation : List Token} (isInvocation : Token.IsInvocation invocation) (run : Run) :
    EndsBy outer run (evaluateInvocation nested invocation) := by
  by_cases deep : Console.nestingBound ≤ run.console.depth
  · unfold EndsBy
    rw [evaluateInvocation_of_le invocation deep]
    exact EndsBy.handleFailure laws _ _
  · exact evaluateInvocation_endsBy_of_lt laws innerLaws nestedEnds followEnds isInvocation
      (Nat.lt_of_not_le deep)

theorem evaluateInvocations_endsBy (laws : Sequential ending) {invocations : List (List Token)}
    (invocationEnds : ∀ invocation ∈ invocations,
      ∀ run, EndsBy ending run (evaluateInvocation nested invocation))
    (run : Run) : EndsBy ending run (evaluateInvocations nested invocations) := by
  induction invocations generalizing run with
  | nil => exact EndsBy.pure laws _
  | cons invocation rest inductionHypothesis =>
      apply EndsBy.bind laws (invocationEnds invocation List.mem_cons_self run)
      intro succeeded after _
      apply EndsBy.session_bind
      split
      · exact EndsBy.pure laws _
      · split
        · exact EndsBy.pure laws _
        · exact inductionHypothesis
            (fun other member => invocationEnds other (List.mem_cons_of_mem invocation member)) after

/-- The run in which the invocations of tokens are evaluated. -/
def begun (invocations : List (List Token)) (run : Run) : Run :=
  { run with console := run.console.record (.begun invocations) }

theorem evaluateTokens_run (tokens : List Token) (run : Run) :
    evaluateTokens nested tokens run =
      evaluateInvocations nested (Token.invocations tokens)
        (begun (Token.invocations tokens) run) :=
  rfl

theorem evaluateTokens_endsBy (laws : Sequential ending)
    (entered : ∀ console invocations, ending console none (console.record (.begun invocations)))
    (invocationEnds : ∀ invocation, Token.IsInvocation invocation →
      ∀ run, EndsBy ending run (evaluateInvocation nested invocation))
    (tokens : List Token) (run : Run) : EndsBy ending run (evaluateTokens nested tokens) := by
  have recorded : EndsBy ending run (record (.begun (Token.invocations tokens))) :=
    entered run.console _
  apply EndsBy.bind laws recorded
  intro _ after _
  exact evaluateInvocations_endsBy laws (fun invocation member =>
    invocationEnds invocation (Token.isInvocation_of_mem_invocations member)) after

/-! ### Lines -/

theorem evaluateLines_endsBy (laws : Sequential ending)
    (lineEnds : ∀ line run, EndsBy ending run (nested (.line line))) (lines : List String)
    (run : Run) : EndsBy ending run (evaluateLines nested lines) := by
  induction lines generalizing run with
  | nil => exact EndsBy.pure laws _
  | cons line rest inductionHypothesis =>
      apply EndsBy.bind laws (lineEnds line run)
      intro succeeded after _
      split
      · exact inductionHypothesis after
      · exact EndsBy.pure laws _

theorem evaluateCommands_of_ok {text : String} {tokens : List Token} {run : Run}
    (reads : run.console.tokensOf text = .ok tokens) :
    evaluateCommands nested text run = evaluateTokens nested tokens run := by
  have wasRead : readTokens text run = (.ok (some tokens), run) := by
    unfold readTokens
    rw [console_bind_run, reads]
    rfl
  unfold evaluateCommands
  rw [bind_run_of_ok wasRead]

/-- A text that cannot be read is reported, and nothing else is done. -/
theorem evaluateCommands_of_error {text : String} {result : Tokenization} {run : Run}
    (fails : run.console.tokensOf text = .error result) :
    ∃ sink, evaluateCommands nested text run = (.ok false, ⟨run.console, sink⟩) := by
  have wasReported : ∃ sink, readTokens text run = (.ok none, ⟨run.console, sink⟩) := by
    unfold readTokens
    rw [console_bind_run, fails]
    exact ⟨_, rfl⟩
  obtain ⟨sink, reported⟩ := wasReported
  refine ⟨sink, ?_⟩
  unfold evaluateCommands
  rw [bind_run_of_ok reported]
  rfl

theorem evaluateCommands_endsBy (laws : Sequential ending)
    (tokensEnd : ∀ tokens run, EndsBy ending run (evaluateTokens nested tokens))
    (text : String) (run : Run) : EndsBy ending run (evaluateCommands nested text) := by
  apply EndsBy.bind laws (readTokens_endsBy laws text run)
  intro tokens? read _
  cases tokens? with
  | none => exact EndsBy.pure laws _
  | some tokens => exact tokensEnd tokens read

/-- The run in which a line was offered to a capture. -/
def offered (session : Session) (run : Run) : Run :=
  { run with console := run.console.updateSession fun _ => session }

theorem evaluateLine_of_taken {line : String} {session : Session} {run : Run}
    (taken : run.console.session.feed line = (none, session)) :
    evaluateLine nested line run = (.ok true, offered session run) := by
  unfold evaluateLine
  rw [session_bind_run, taken]
  rfl

theorem evaluateLine_of_passed {line text : String} {session : Session} {run : Run}
    (passed : run.console.session.feed line = (some text, session)) :
    evaluateLine nested line run = evaluateCommands nested text (offered session run) := by
  unfold evaluateLine
  rw [session_bind_run, passed]
  rfl

theorem evaluateLine_endsBy (laws : Sequential ending)
    (fed : ∀ console line,
      ending console none (console.updateSession fun session => (session.feed line).2))
    (tokensEnd : ∀ tokens run, EndsBy ending run (evaluateTokens nested tokens))
    (line : String) (run : Run) : EndsBy ending run (evaluateLine nested line) := by
  have taken : EndsBy ending run (updateSession fun _ => (run.console.session.feed line).2) :=
    fed run.console line
  apply EndsBy.session_bind
  apply EndsBy.bind laws taken
  intro _ after _
  split
  · exact EndsBy.pure laws _
  · exact evaluateCommands_endsBy laws tokensEnd _ after

/-! ### The evaluator -/

theorem step_endsBy (laws : Sequential ending)
    (fed : ∀ console line,
      ending console none (console.updateSession fun session => (session.feed line).2))
    (lineEnds : ∀ line run, EndsBy ending run (nested (.line line)))
    (tokensEnd : ∀ tokens run, EndsBy ending run (evaluateTokens nested tokens))
    (job : Job) (run : Run) : EndsBy ending run (step nested job) := by
  cases job with
  | line line => exact evaluateLine_endsBy laws fed tokensEnd line run
  | tokens tokens => exact tokensEnd tokens run
  | lines text => exact evaluateLines_endsBy laws lineEnds (Script.logicalLines text) run

/-- What holds of the evaluation of tokens, over any bound with which it holds of the evaluator, holds
of the evaluator with every bound. -/
theorem run_endsBy_of_tokens (laws : Sequential ending)
    (fed : ∀ console line,
      ending console none (console.updateSession fun session => (session.feed line).2))
    (exhausted : ∀ console, ending console (some .exhausted) console)
    (tokensEnd : ∀ bound, (∀ job start, EndsBy ending start (run bound job)) →
      ∀ tokens start, EndsBy ending start (evaluateTokens (run bound) tokens))
    (bound : Nat) (job : Job) (start : Run) : EndsBy ending start (run bound job) := by
  induction bound generalizing job start with
  | zero => exact exhausted start.console
  | succ bound inductionHypothesis =>
      exact step_endsBy laws fed (fun line => inductionHypothesis (.line line))
        (tokensEnd bound inductionHypothesis) job start

/-- What holds of dispatch with what follows it, over any bound with which it holds of the evaluator,
holds of the evaluator with every bound. -/
theorem run_endsBy (laws : Compositional ending ending)
    (exhausted : ∀ console, ending console (some .exhausted) console)
    (followEnds : ∀ bound, (∀ job start, EndsBy ending start (run bound job)) →
      ∀ invocation, Token.AreDispatchable invocation →
        ∀ start, EndsBy ending start (dispatchAndFollow (run bound) invocation))
    (bound : Nat) (job : Job) (start : Run) : EndsBy ending start (run bound job) := by
  apply run_endsBy_of_tokens laws.toSequential laws.fed exhausted
  intro bound nestedEnds
  apply evaluateTokens_endsBy laws.toSequential laws.begun
  intro invocation isInvocation
  exact evaluateInvocation_endsBy laws laws.toSequential nestedEnds
    (followEnds bound nestedEnds) isInvocation

end MachineConsole.Eval
