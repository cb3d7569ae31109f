import MachineConsole.Proofs.Evaluation.CurrentMachine
import MachineConsole.Proofs.Evaluation.Failures
import MachineConsole.Proofs.Session

/-!
Contract: what a replaced emulation does to a session.

Owns:
- `Session.IsReset`: one session is what another becomes when the emulation is replaced;
- where a replacement may come from: an invocation leaves the managers alone, dispatches another
  invocation, or does nothing to the console but change the world around it;
- `replacement_noticed`: no replacement outlasts a line unnoticed, and an invocation that replaces
  the emulation itself leaves a reset session behind.
-/

namespace MachineConsole

/-! ### Reset sessions -/

namespace Session

/-- Of the variables only the directory of the running script is left, if it was known, and the
working directory is bound; macros, beginnings, the current machine and a capture are gone. What the
user set otherwise is as before. -/
structure IsReset (before : Session) (workingDirectory : String) (after : Session) : Prop where
  values : ∀ name, after.variableStore.get? name =
    if name = workingDirectoryName then some (Token.path workingDirectory)
    else if name = originName then before.variableStore.get? originName
    else none
  macros : ∀ name, after.macroStore.get? name = none
  usings : after.usings = []
  currentMachine : after.currentMachine? = none
  capture : after.capture = .off
  numberMode : after.numberMode = before.numberMode
  verbose : after.verbose = before.verbose
  consumeExceptions : after.consumeExceptions = before.consumeExceptions
  breakOnException : after.breakOnException = before.breakOnException
  quitRequested : after.quitRequested = before.quitRequested

theorem reset_variables (session : Session) (workingDirectory name : String) :
    (session.reset workingDirectory).variableStore.get? name =
      if name = workingDirectoryName then some (Token.path workingDirectory)
      else if name = originName then session.variableStore.get? originName
      else none := by
  unfold reset
  dsimp only
  rw [VariableStore.get?_insert]
  by_cases isDirectory : name = workingDirectoryName
  · rw [if_pos isDirectory, if_pos isDirectory.symm]
  · rw [if_neg isDirectory, if_neg (Ne.symm isDirectory)]
    cases session.variableStore.get? originName with
    | none =>
        dsimp only
        rw [VariableStore.get?_empty, ite_self]
    | some origin =>
        dsimp only
        rw [VariableStore.get?_insert, VariableStore.get?_empty]
        simp only [eq_comm]

theorem reset_isReset (session : Session) (workingDirectory : String) :
    session.IsReset workingDirectory (session.reset workingDirectory) where
  values := session.reset_variables workingDirectory
  macros := VariableStore.get?_empty
  usings := rfl
  currentMachine := rfl
  capture := rfl
  numberMode := rfl
  verbose := rfl
  consumeExceptions := rfl
  breakOnException := rfl
  quitRequested := rfl

end Session

/-! ### Dispatched invocations -/

namespace Console

/-- How many invocations were dispatched so far. -/
def dispatchCount (console : Console) : Nat :=
  console.history.countP Event.isDispatch

/-- How often the emulation was replaced so far. -/
def replacements (console : Console) : Nat :=
  (console.world.manager console.manager).generation

theorem dispatchCount_record (console : Console) (event : Event) :
    (console.record event).dispatchCount =
      console.dispatchCount + if event.isDispatch then 1 else 0 := by
  unfold dispatchCount record
  rw [List.countP_append, List.countP_singleton]

theorem dispatchCount_of_history {before after : Console}
    (history : after.history = before.history) : after.dispatchCount = before.dispatchCount :=
  congrArg (List.countP Event.isDispatch) history

end Console

theorem Trace.dispatchCount_le {before after : Console} (trace : Trace before after) :
    before.dispatchCount ≤ after.dispatchCount := by
  obtain ⟨_, events, history, _⟩ := trace.carried ReportsByPolicy.carried
  unfold Console.dispatchCount
  rw [history, List.countP_append]
  exact Nat.le_add_right _ _

namespace Eval

/-- Some invocation was dispatched, or none was and the managers of emulations are as before. -/
def DispatchesOrKeeps (before after : Console) : Prop :=
  before.dispatchCount < after.dispatchCount ∨
    after.dispatchCount = before.dispatchCount ∧
      after.world.managers = before.world.managers

namespace DispatchesOrKeeps

theorem of_same {before after : Console} (history : after.history = before.history)
    (managers : after.world.managers = before.world.managers) : DispatchesOrKeeps before after :=
  Or.inr ⟨Console.dispatchCount_of_history history, managers⟩

theorem of_record (console : Console) (event : Event) :
    DispatchesOrKeeps console (console.record event) := by
  unfold DispatchesOrKeeps
  rw [Console.dispatchCount_record]
  cases event.isDispatch with
  | true => exact Or.inl (Nat.lt_succ_self _)
  | false => exact Or.inr ⟨rfl, rfl⟩

theorem trans {before between after : Console} (first : DispatchesOrKeeps before between)
    (second : DispatchesOrKeeps between after) : DispatchesOrKeeps before after := by
  unfold DispatchesOrKeeps at *
  cases first with
  | inl more => exact Or.inl (by omega)
  | inr same =>
      cases second with
      | inl more => exact Or.inl (by omega)
      | inr alsoSame =>
          exact Or.inr ⟨alsoSame.1.trans same.1, alsoSame.2.trans same.2⟩

theorem switched (console : Console) (machine? : Option MachineHandle) :
    DispatchesOrKeeps console (console.switchMachine machine?) := by
  cases machine? with
  | none => exact of_same rfl rfl
  | some machine =>
      have selected : DispatchesOrKeeps console (console.selectMachine machine) :=
        of_same rfl rfl
      exact selected.trans (of_record _ _)

theorem descended (console : Console) : DispatchesOrKeeps console console.descend := by
  have entered : DispatchesOrKeeps console { console with depth := console.depth + 1 } :=
    of_same rfl rfl
  exact entered.trans (of_record _ _)

theorem noticed (console : Console) : DispatchesOrKeeps console console.noticeReplacement := by
  unfold Console.noticeReplacement
  dsimp only
  split
  · exact of_same rfl rfl
  · exact of_same rfl rfl

theorem change {before after : Console} (change : Change before after)
    (managers : after.world.managers = before.world.managers) :
    DispatchesOrKeeps before after := by
  obtain ⟨event, _, rfl⟩ | rfl | same := change.course
  · exact of_record before event
  · have asked : DispatchesOrKeeps before before.withQuit := of_same rfl rfl
    exact asked.trans (of_record before.withQuit _)
  · exact of_same same.history managers

/-- The relation, whatever the reason to stop. -/
def ending : Ending :=
  fun before _ after => DispatchesOrKeeps before after

theorem storing : Storing ending ending where
  refl _ := of_same rfl rfl
  failed _ _ := of_same rfl rfl
  sequence := trans
  deeper {before _ _} inside := ((descended before).trans inside).trans (of_same rfl rfl)
  change := change
  reentered inside := (of_record _ _).trans inside
  script _ inside := inside

theorem compositional : Compositional ending ending where
  toNesting := storing.toNesting
  begun console _ := of_record console _
  substituted console command := of_record console _
  fetched console uri := by
    rw [World.fetch_world]
    exact of_same rfl rfl
  fed console line := of_same rfl rfl
  noticed := noticed
  resetTaken console machine := of_same rfl rfl
  reported console command fault _ := of_record console _
  handedBack console fault _ := of_same rfl rfl
  resetMacro {_ before after machine _} earlier _ inside :=
    ((earlier.trans (switched before (some machine))).trans inside).trans
      (switched after before.session.currentMachine?)

end DispatchesOrKeeps

/-- Nothing but the world around the console and the history is changed, and the recursion bound is
not reached. -/
structure ChangesWorld (before : Console) (stop? : Option Stop) (after : Console) : Prop where
  around : ∃ world history, after = (before.withWorld world).withHistory history
  answers : stop? ≠ some .exhausted

theorem ChangesWorld.effecting : Effecting ChangesWorld where
  refl console := ⟨⟨console.world, console.history, rfl⟩, nofun⟩
  failed console _ := ⟨⟨console.world, console.history, rfl⟩, nofun⟩
  sequence := by
    rintro before _ _ _ ⟨⟨_, _, rfl⟩, _⟩ ⟨⟨world, history, rfl⟩, answers⟩
    exact ⟨⟨world, history, rfl⟩, answers⟩
  received {console _} _ _ := ⟨⟨console.world, _, rfl⟩, nofun⟩
  acted console _ := ⟨⟨_, console.history, rfl⟩, nofun⟩
  extended {console _} _ := ⟨⟨_, console.history, rfl⟩, nofun⟩
  recovered changes := ⟨changes.around, nofun⟩

/-- What an invocation is handed to may do. -/
def HandedOver (before : Console) (stop? : Option Stop) (after : Console) : Prop :=
  DispatchesOrKeeps before after ∨ ChangesWorld before stop? after

theorem HandedOver.dispatching :
    Dispatching DispatchesOrKeeps.ending DispatchesOrKeeps.ending ChangesWorld HandedOver where
  refl _ := Or.inl (DispatchesOrKeeps.of_same rfl rfl)
  failed _ _ := Or.inl (DispatchesOrKeeps.of_same rfl rfl)
  storing := DispatchesOrKeeps.storing
  effecting := ChangesWorld.effecting
  ofWithin := Or.inl
  ofWithout := Or.inr
  started := by
    intro before after paused ended
    cases ended with
    | inl keeps =>
        have started : DispatchesOrKeeps after
            (after.withWorld (after.world.setAllPaused after.emulationIndex paused)) :=
          DispatchesOrKeeps.of_same rfl (Builtin.setAllPaused_managers _ _ paused)
        exact Or.inl (keeps.trans started)
    | inr changes =>
        obtain ⟨⟨world, history, rfl⟩, _⟩ := changes
        exact Or.inr ⟨⟨_, history, rfl⟩, nofun⟩

/-! ### Counting -/

/-- At least one invocation is dispatched. -/
def Dispatches (before : Console) (_ : Option Stop) (after : Console) : Prop :=
  before.dispatchCount < after.dispatchCount

theorem Dispatches.following : Following Dispatches LeavesTrace where
  followed first rest := Nat.lt_of_lt_of_le first (Trace.dispatchCount_le rest)
  recovered := id

theorem dispatchAndFollow_dispatches {nested : Nested}
    (nestedTraces : ∀ job run, TracesFrom run (nested job)) (invocation : List Token)
    (run : Run) : EndsBy Dispatches run (dispatchAndFollow nested invocation) := by
  apply dispatchAndFollow_endsBy LeavesTrace.lawful LeavesTrace.compositional
    LeavesTrace.lawful.toSequential nestedTraces Dispatches.following
  intro console
  unfold Dispatches
  rw [Console.dispatchCount_record]
  exact Nat.lt_succ_self _

theorem run_dispatchesOrKeeps (bound : Nat) (job : Job) (start : Run) :
    EndsBy DispatchesOrKeeps.ending start (run bound job) := by
  apply run_endsBy DispatchesOrKeeps.compositional
    (fun _ => DispatchesOrKeeps.of_same rfl rfl)
  intro bound _ invocation _ start
  exact Or.inl (dispatchAndFollow_dispatches (run_traces bound) invocation start)

/-! ### Dispatch -/

/-- What dispatch may do: have another invocation dispatched as well, leave the managers as they are,
or leave the session as it is. -/
inductive Dispatched (before : Console) (stop? : Option Stop) (after : Console) : Prop where
  | more (count : before.dispatchCount + 1 < after.dispatchCount)
  | kept (managers : after.world.managers = before.world.managers)
  | outside (session : after.session = before.session) (manager : after.manager = before.manager)
      (generation : after.generation = before.generation) (answers : stop? ≠ some .exhausted)

/-- A failure is reported, or nothing is done. -/
structure Handles (before : Console) (stop? : Option Stop) (after : Console) : Prop where
  report : after = before ∨ ∃ command fault, after = before.record (.reported command fault)
  answers : stop? ≠ some .exhausted

theorem handleFailure_handles (command : String) (fault : Fault) (run : Run) :
    EndsBy Handles run (handleFailure command fault) := by
  unfold EndsBy handleFailure
  rw [session_bind_run]
  split
  · exact ⟨Or.inr ⟨command, fault, rfl⟩, nofun⟩
  · exact ⟨Or.inl rfl, nofun⟩

namespace Dispatched

theorem recovered {before after : Console} {fault : Fault}
    (dispatched : Dispatched before (some (.failed fault)) after) : Dispatched before none after := by
  cases dispatched with
  | more count => exact more count
  | kept managers => exact kept managers
  | outside session manager generation _ => exact outside session manager generation nofun

theorem handled {before between after : Console} {stop? : Option Stop}
    (dispatched : Dispatched before none between) (handles : Handles between stop? after) :
    Dispatched before stop? after := by
  have counted : after.dispatchCount = between.dispatchCount := by
    obtain rfl | ⟨command, fault, rfl⟩ := handles.report
    · rfl
    · exact Console.dispatchCount_record between _
  have unchanged : after.session = between.session ∧ after.manager = between.manager ∧
      after.generation = between.generation ∧ after.world = between.world := by
    obtain rfl | ⟨command, fault, rfl⟩ := handles.report
    · exact ⟨rfl, rfl, rfl, rfl⟩
    · exact ⟨rfl, rfl, rfl, rfl⟩
  obtain ⟨sameSession, sameManager, sameGeneration, sameWorld⟩ := unchanged
  cases dispatched with
  | more count => exact more (counted ▸ count)
  | kept managers => exact kept (sameWorld ▸ managers)
  | outside session manager generation _ =>
      exact outside (sameSession.trans session) (sameManager.trans manager)
        (sameGeneration.trans generation) handles.answers

end Dispatched

theorem dispatch_dispatched (bound : Nat) (invocation : List Token) (start : Run) :
    EndsBy Dispatched start (dispatch (run bound) invocation) := by
  obtain ⟨sink, handed⟩ := dispatch_run (run bound) invocation start
  have entered := dispatched_mem_record start.console invocation
  have ends : EndsBy HandedOver ⟨start.console.record (.dispatched invocation), sink⟩
      (handOver (run bound) invocation) :=
    handOver_endsBy HandedOver.dispatching DispatchesOrKeeps.storing.toSequential
      (run_dispatchesOrKeeps bound) entered
  unfold EndsBy at ends ⊢
  rw [handed]
  cases ends with
  | inl keeps =>
      unfold DispatchesOrKeeps at keeps
      rw [Console.dispatchCount_record] at keeps
      cases keeps with
      | inl more => exact Dispatched.more more
      | inr same => exact Dispatched.kept same.2
  | inr changes =>
      obtain ⟨⟨world, history, changed⟩, answers⟩ := changes
      rw [changed]
      exact Dispatched.outside rfl rfl rfl answers

theorem dispatchReporting_dispatched (bound : Nat) (invocation : List Token) (start : Run) :
    EndsBy Dispatched start (dispatchReporting (run bound) invocation) := by
  have attempted : EndsBy Dispatched start (attempt (dispatch (run bound) invocation)) := by
    apply EndsBy.attempt Dispatched.recovered
    exact dispatch_dispatched bound invocation start
  apply EndsBy.follow id Dispatched.handled attempted
  intro result after _
  cases result with
  | ok succeeded => exact ⟨Or.inl rfl, nofun⟩
  | error fault => exact handleFailure_handles (Token.joinRaw invocation) fault after

/-! ### What follows -/

/-- Where no macro is stored, requests for resets are taken and nothing is played. -/
theorem playResetMacros_of_no_macros {nested : Nested} {machines : List MachineHandle} {run : Run}
    (noMacros : ∀ name, run.console.session.macroStore.get? name = none) :
    ∃ after, playResetMacros nested machines run = (.ok (), after) ∧
      after.console.session = run.console.session := by
  induction machines generalizing run with
  | nil => exact ⟨run, rfl, rfl⟩
  | cons machine rest inductionHypothesis =>
      obtain ⟨after, played, session⟩ :=
        @inductionHypothesis (withoutRequest run machine) noMacros
      refine ⟨after, ?_, session⟩
      unfold playResetMacros
      rw [bind_run_of_ok (takeResetRequest_run machine run)]
      dsimp only
      split
      · have unplayed : playResetMacro nested machine (withoutRequest run machine) =
            (.ok (), withoutRequest run machine) :=
          playResetMacro_of_none (noMacros _)
        rw [bind_run_of_ok unplayed]
        exact played
      · exact played

/-- After a replacement the session is reset, and nothing is played. -/
theorem afterInvocation_of_replaced (nested : Nested) {run : Run}
    (replaced : run.console.replacements ≠ run.console.generation) :
    ∃ after, afterInvocation nested run = (.ok (), after) ∧
      after.console.session = run.console.session.reset run.console.workingDirectory := by
  have noticed : run.console.noticeReplacement =
      { run.console.resetSession with generation := run.console.replacements } := by
    unfold Console.noticeReplacement
    dsimp only
    exact if_neg replaced
  rw [afterInvocation_run, noticed]
  exact playResetMacros_of_no_macros VariableStore.get?_empty

/-- An invocation that replaced the emulation ends as its dispatch does, with the session reset. -/
theorem dispatchAndFollow_of_replaced {nested : Nested} {invocation : List Token}
    {start dispatched : Run} {outcome : Except Stop Bool}
    (reported : dispatchReporting nested invocation start = (outcome, dispatched))
    (answers : outcome ≠ .error .exhausted)
    (replaced : dispatched.console.replacements ≠ dispatched.console.generation) :
    ∃ after, dispatchAndFollow nested invocation start = (outcome, after) ∧
      after.console.session =
        dispatched.console.session.reset dispatched.console.workingDirectory := by
  have answered : (dispatchReporting nested invocation start).1 ≠ .error .exhausted := by
    rw [reported]
    exact answers
  obtain ⟨after, following, reset⟩ := afterInvocation_of_replaced nested replaced
  obtain ⟨result, attempted, handedBack⟩ := attempt_run_of_answers answered
  rw [reported] at attempted handedBack
  refine ⟨after, ?_, reset⟩
  unfold dispatchAndFollow
  rw [bind_run_of_ok attempted, bind_run_of_ok following]
  exact handedBack after

/-- No replacement of the emulation is missed. When a line has come to its end, whatever its outcome,
none has gone unnoticed if none had before. And after an invocation that replaced the emulation, and
was the only one dispatched since it began, the session is the one before with everything forgotten
that belonged to the emulation. -/
theorem replacement_noticed (bound : Nat) :
    (∀ line start, start.console.selection.Settled →
      (run bound (.line line) start).1 ≠ .error .exhausted →
        (run bound (.line line) start).2.console.selection.Settled) ∧
    ∀ invocation start,
      let dispatched := dispatchReporting (run bound) invocation start
      let followed := dispatchAndFollow (run bound) invocation start
      start.console.selection.Settled →
      (dispatched.2.console.world.manager start.console.manager).generation ≠
        (start.console.world.manager start.console.manager).generation →
      dispatched.2.console.dispatchCount = start.console.dispatchCount + 1 →
        followed.1 = dispatched.1 ∧ followed.2.console.selection.Settled ∧
        start.console.session.IsReset dispatched.2.console.workingDirectory
          followed.2.console.session := by
  refine ⟨?_, ?_⟩
  · intro line start settled finished
    apply run_settles bound (.line line) start settled
    exact fun exhausted => finished (eq_error_of_stop? exhausted)
  · intro invocation start dispatched followed settled replaced alone
    cases dispatchReporting_dispatched bound invocation start with
    | more count => exact absurd alone (Nat.ne_of_gt count)
    | kept managers =>
        refine absurd ?_ replaced
        unfold World.manager
        rw [managers]
    | outside session manager generation answers =>
        have unnoticed : dispatched.2.console.replacements ≠ dispatched.2.console.generation := by
          unfold Console.replacements
          rw [manager, generation]
          exact fun same => replaced (same.trans settled)
        have reported : dispatchReporting (run bound) invocation start =
            (dispatched.1, dispatched.2) := rfl
        obtain ⟨after, ended, reset⟩ := dispatchAndFollow_of_replaced reported
          (fun exhausted => answers (congrArg stop? exhausted)) unnoticed
        have ended : followed = (dispatched.1, after) := ended
        refine ⟨by rw [ended], ?_, ?_⟩
        · apply dispatchAndFollow_settles (run_settles bound) invocation start settled
          change stop? followed.1 ≠ _
          rw [ended]
          exact answers
        · rw [ended]
          change start.console.session.IsReset _ after.console.session
          rw [reset, ← session]
          exact dispatched.2.console.session.reset_isReset _

/-- A console with a current machine, a variable of that machine, another number mode than the usual
one and a directory of the running script. -/
@[irreducible]
def furnishedRun : Run :=
  afterLines ["set global.ORIGIN \"/scripts\"", "numbersMode Decimal", "set x 5",
    "mach create \"a\""]

example :
    furnishedRun.console.session.currentMachine? = some ⟨0, "a"⟩ ∧
      furnishedRun.console.session.numberMode = .decimal ∧
      ["a.x", Session.originName].map furnishedRun.console.session.variableStore.get? =
        [some (Token.integer 5), some ⟨.string "/scripts", "\"/scripts\""⟩] := by
  decide +kernel

theorem replacement_noticed_clear :
    furnishedRun.console.selection.Settled ∧
      (run 2 (.line "Clear") furnishedRun).2.console.selection.Settled ∧
      furnishedRun.console.session.IsReset "/work"
        (dispatchAndFollow (run 2) [Token.literal "Clear"] furnishedRun).2.console.session := by
  have settled : furnishedRun.console.generation =
      (furnishedRun.console.world.manager furnishedRun.console.manager).generation := by
    decide +kernel
  have finished : isFinished (run 2 (.line "Clear") furnishedRun).1 = true := by decide +kernel
  have replaced :
      ((dispatchReporting (run 2) [Token.literal "Clear"] furnishedRun).2.console.world.manager
        furnishedRun.console.manager).generation ≠
      (furnishedRun.console.world.manager furnishedRun.console.manager).generation := by
    decide +kernel
  have alone :
      (dispatchReporting (run 2) [Token.literal "Clear"] furnishedRun).2.console.dispatchCount =
        furnishedRun.console.dispatchCount + 1 := by
    decide +kernel
  have workingDirectory :
      (dispatchReporting (run 2) [Token.literal "Clear"] furnishedRun).2.console.workingDirectory =
        "/work" := by
    decide +kernel
  obtain ⟨lineSettles, invocationResets⟩ := replacement_noticed 2
  refine ⟨settled, lineSettles "Clear" furnishedRun settled ?_, ?_⟩
  · intro exhausted
    rw [exhausted] at finished
    cases finished
  · obtain ⟨_, _, reset⟩ :=
      invocationResets [Token.literal "Clear"] furnishedRun settled replaced alone
    rw [workingDirectory] at reset
    exact reset

end Eval

end MachineConsole
