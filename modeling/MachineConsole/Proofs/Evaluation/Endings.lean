import MachineConsole.Proofs.Evaluation.Calculus
import MachineConsole.Proofs.Evaluation.Trace

/-!
Contract: properties of how evaluations end.

Owns:
- `EndsBy`: a computation relates the console it begins with to the one it leaves behind and to why
  it stopped, if it did;
- what such a relation has to be compatible with: `Sequential`, `Reflexive` and `Nesting` for any
  computation, `Compositional` for what surrounds dispatch, `Internal` and `Storing` for commands that
  reach nothing outside the console, `Effecting` for what reaches out, `Delivering` for dispatch that
  does not only store something, `Dispatching` or `Lawful` for all of dispatch, and `Following` for
  dispatch with what is entered before it and done after it;
- one rule for each way of putting computations together.

What is known of nested evaluations, `inner`, may differ from what is shown of the computation that
nests them, `outer`. Nested evaluations are begun one level deeper or are entered into the history.
-/

namespace MachineConsole.Eval

variable {α β : Type}

/-- Why a computation ended without a result, if it did. -/
def stop? : Except Stop α → Option Stop
  | .ok _ => none
  | .error stop => some stop

theorem eq_error_of_stop? {result : Except Stop α} {stop : Stop}
    (stopped : stop? result = some stop) : result = .error stop := by
  cases result with
  | ok value => cases stopped
  | error reason =>
      cases stopped
      rfl

/-- A relation between a console, the reason to stop and the console afterwards. -/
abbrev Ending := Console → Option Stop → Console → Prop

/-- The computation, begun with this run, ends according to the relation. -/
def EndsBy (ending : Ending) (run : Run) (action : Eval α) : Prop :=
  ending run.console (stop? (action run).1) (action run).2.console

/-! ### Laws -/

/-- What lets a relation be followed from one part of a computation to the next. -/
structure Sequential (ending : Ending) : Prop where
  refl : ∀ console, ending console none console
  sequence : ∀ {before between after stop?}, ending before none between →
    ending between stop? after → ending before stop? after

/-- What makes a relation hold where nothing was changed. -/
structure Reflexive (ending : Ending) : Prop where
  refl : ∀ console, ending console none console
  failed : ∀ console fault, ending console (some (.failed fault)) console

/-- What lets a relation be followed through nested evaluations. -/
structure Nesting (inner outer : Ending) : Prop extends Sequential outer where
  deeper : ∀ {before after stop?}, inner before.descend stop? after →
    outer before stop? after.ascend

/-- What lets a relation be followed through everything that evaluation does around dispatch. -/
structure Compositional (inner outer : Ending) : Prop extends Nesting inner outer where
  begun : ∀ console invocations, outer console none (console.record (.begun invocations))
  substituted : ∀ console command, outer console none (console.record (.substituted command))
  fetched : ∀ console uri, outer console none (console.withWorld (World.fetch uri console.world).2)
  fed : ∀ console line,
    outer console none (console.updateSession fun session => (session.feed line).2)
  noticed : ∀ console, outer console none console.noticeReplacement
  resetTaken : ∀ console machine,
    outer console none (console.withWorld (console.world.updateMachine machine fun state =>
      { state with resetRequested := false }))
  reported : ∀ console command fault,
    (Fault.isRecoverable fault || console.session.consumeExceptions) = true →
      outer console none (console.record (.reported command fault))
  handedBack : ∀ console fault,
    (Fault.isRecoverable fault || console.session.consumeExceptions) = false →
      outer console (some (.failed fault)) console
  /-- A macro is played for a machine that was present when the macros began to be played. -/
  resetMacro : ∀ {start before after machine stop?}, outer start none before →
    machine ∈ start.emulation.machines →
      outer (before.switchMachine (some machine)) stop? after →
        outer start stop? (after.switchMachine before.session.currentMachine?)

/-- What lets a relation be followed through commands that reach nothing outside the console and store
nothing. -/
structure Internal (inner outer : Ending) : Prop extends Nesting inner outer, Reflexive outer where
  unstored : ∀ {before after}, Change before after →
    after.world.managers = before.world.managers → before.SameStores after →
      outer before none after
  reentered : ∀ {before after stop?}, inner (before.record .reentered) stop? after →
    outer before stop? after
  script : ∀ {before after stop?} (directory : String),
    outer
      (before.updateSession fun session => session.bindOrigin (some (Token.path directory)))
      stop? after →
    outer before stop? (after.updateSession fun session =>
      session.bindOrigin (before.session.variableStore.get? Session.originName))

/-- What lets a relation be followed through commands that reach nothing outside the console, those that
store something among them. -/
structure Storing (inner outer : Ending) : Prop extends Internal inner outer where
  change : ∀ {before after}, Change before after →
    after.world.managers = before.world.managers → outer before none after
  unstored := fun changes managers _ => change changes managers

/-- What lets a relation be followed through actions of objects and of extensions. -/
structure Effecting (ending : Ending) : Prop extends Sequential ending, Reflexive ending where
  received : ∀ {console : Console} {arguments} (receiver : Receiver),
    console.SuppliesExpanded arguments →
      ending console none (console.record (.received receiver arguments))
  acted : ∀ console (request : ActionRequest), ending console none
    (console.withWorld (request.invoke console.conversion console.world).2)
  extended : ∀ {console : Console} {world}, console.ExtensionEffect world →
    ending console none (console.withWorld world)
  recovered : ∀ {before after fault}, ending before (some (.failed fault)) after →
    ending before none after

/-- What lets a relation be followed through whatever an invocation is handed to that does not only
store something, where one relation is known of what stays inside the console and another of what
reaches out. -/
structure Delivering (inner within without outer : Ending) : Prop extends Reflexive outer where
  internal : Internal inner within
  effecting : Effecting without
  ofWithin : ∀ {before stop? after}, within before stop? after → outer before stop? after
  ofWithout : ∀ {before stop? after}, without before stop? after → outer before stop? after
  /-- After a script the machines are set running. -/
  started : ∀ {before after} (paused : Bool), outer before none after →
    outer before none
      (after.withWorld (after.world.setAllPaused after.emulationIndex paused))

/-- What lets a relation be followed through whatever an invocation is handed to. -/
structure Dispatching (inner within without outer : Ending) : Prop
    extends Delivering inner within without outer where
  storing : Storing inner within
  internal := storing.toInternal

/-- What lets a relation be followed through all of dispatch by itself, once an invocation is in the
history. -/
structure Lawful (inner outer : Ending) : Prop extends Storing inner outer where
  effect : ∀ {before after}, Change before after → outer before none after
  recovered : ∀ {before after fault}, outer before (some (.failed fault)) after →
    outer before none after

/-- What lets a relation, `beginning`, be followed from what an evaluation begins with to its end, when
another one is known of all that comes later. -/
structure Following (beginning outer : Ending) : Prop where
  followed : ∀ {before between after stop?}, beginning before none between →
    outer between stop? after → beginning before stop? after
  recovered : ∀ {before after fault}, beginning before (some (.failed fault)) after →
    beginning before none after

theorem Lawful.following {inner outer : Ending} (laws : Lawful inner outer) :
    Following outer outer :=
  ⟨laws.sequence, laws.recovered⟩

theorem Lawful.effecting {inner outer : Ending} (laws : Lawful inner outer) : Effecting outer :=
  { laws.toSequential, laws.toReflexive with
    received := fun receiver supplies => laws.effect (Change.received receiver supplies)
    acted := fun console request => laws.effect (Change.acted console request)
    extended := fun effect => laws.effect (Change.extended effect)
    recovered := laws.recovered }

theorem Lawful.dispatching {inner outer : Ending} (laws : Lawful inner outer) :
    Dispatching inner outer outer outer :=
  { laws.toReflexive with
    storing := laws.toStoring
    effecting := laws.effecting
    ofWithin := id
    ofWithout := id
    started := fun paused ended =>
      laws.sequence ended (laws.effect (Change.paused _ paused)) }

/-- Dispatch does whatever is done around it, except for playing reset macros. -/
theorem Lawful.compositional {inner outer : Ending} (laws : Lawful inner outer)
    (resetMacro : ∀ {start before after machine stop?}, outer start none before →
      machine ∈ start.emulation.machines →
        outer (before.switchMachine (some machine)) stop? after →
          outer start stop? (after.switchMachine before.session.currentMachine?)) :
    Compositional inner outer :=
  { laws.toNesting with
    begun := fun console invocations => laws.effect (Change.begun console invocations)
    substituted := fun console command => laws.effect (Change.substituted console command)
    fetched := fun console uri => laws.effect (Change.fetched console uri)
    fed := fun console line => laws.effect (Change.fed console line)
    noticed := fun console => laws.effect (Change.noticed console)
    resetTaken := fun console machine => laws.effect (Change.resetTaken console machine)
    reported := fun _ command _ handled => laws.effect (Change.reported command handled)
    handedBack := fun console fault _ => laws.failed console fault
    resetMacro := resetMacro }

/-! ### Rules -/

namespace EndsBy

variable {ending inner outer : Ending} {run : Run}

theorem pure (laws : Sequential ending) (value : α) :
    EndsBy ending run (Pure.pure value) :=
  laws.refl run.console

/-- One relation of a computation and another of what comes next, put together. -/
theorem follow {first rest : Ending} {action : Eval α} {next : α → Eval β}
    (stops : ∀ {before stop? after}, first before stop? after → ending before stop? after)
    (sequence : ∀ {before between after stop?}, first before none between →
      rest between stop? after → ending before stop? after)
    (firstEnds : EndsBy first run action)
    (restEnds : ∀ value after, action run = (.ok value, after) →
      EndsBy rest after (next value)) : EndsBy ending run (action >>= next) := by
  unfold EndsBy at *
  cases outcome : action run with
  | mk result after =>
      rw [outcome] at firstEnds
      cases result with
      | ok value =>
          rw [bind_run_of_ok outcome]
          exact sequence firstEnds (restEnds value after outcome)
      | error stop =>
          rw [bind_run_of_error outcome]
          exact stops firstEnds

theorem bind (laws : Sequential ending) {action : Eval α} {next : α → Eval β}
    (first : EndsBy ending run action)
    (rest : ∀ value after, action run = (.ok value, after) → EndsBy ending after (next value)) :
    EndsBy ending run (action >>= next) :=
  follow id laws.sequence first rest

/-- A computation whose result is put aside. -/
theorem discard (laws : Sequential ending) {action : Eval α} (ends : EndsBy ending run action)
    (value : β) : EndsBy ending run (action >>= fun _ => Pure.pure value) :=
  bind laws ends fun _ _ _ => pure laws value

theorem console_bind {next : Console → Eval β} (rest : EndsBy ending run (next run.console)) :
    EndsBy ending run (console >>= next) :=
  rest

theorem session_bind {next : Session → Eval β}
    (rest : EndsBy ending run (next run.console.session)) :
    EndsBy ending run (session >>= next) :=
  rest

theorem onOwnSink {action : Eval α}
    (ends : EndsBy ending { run with sink := Sink.empty } action) :
    EndsBy ending run (Eval.onOwnSink action) := by
  unfold EndsBy Eval.onOwnSink at *
  cases outcome : action { run with sink := Sink.empty } with
  | mk result after =>
      rw [outcome] at ends
      cases result with
      | ok value => exact ends
      | error stop => exact ends

theorem deeper (laws : Nesting inner outer) {action : Eval α}
    (ends : EndsBy inner { run with console := run.console.descend } action) :
    EndsBy outer run (Eval.deeper action) :=
  laws.deeper ends

theorem handleFailure (laws : Compositional inner outer) (command : String) (fault : Fault) :
    EndsBy outer run (Eval.handleFailure command fault) := by
  unfold Eval.handleFailure
  apply session_bind
  split
  · next handled => exact laws.reported run.console command fault handled
  · next unhandled => exact laws.handedBack run.console fault (Bool.eq_false_iff.mpr unhandled)

/-! ### In commands -/

theorem fail (laws : Reflexive ending) (fault : Fault) :
    EndsBy ending run (Eval.fail fault : Eval α) :=
  laws.failed run.console fault

theorem refuse (laws : Reflexive ending) (cause : Refusal) :
    EndsBy ending run (Eval.refuse cause : Eval α) :=
  laws.failed run.console _

theorem of_quiet (laws : Reflexive ending) {action : Eval α} (quiet : Quiet action) :
    EndsBy ending run action := by
  have unchanged := quiet.console run
  have answered := quiet.answers run
  unfold EndsBy
  cases outcome : action run with
  | mk result after =>
      rw [outcome] at unchanged answered
      dsimp only at unchanged
      rw [unchanged]
      cases result with
      | ok value => exact laws.refl run.console
      | error stop =>
          cases stop with
          | failed fault => exact laws.failed run.console fault
          | exhausted => exact absurd rfl answered

theorem silent_bind_of_run (laws : Reflexive ending) {action : Eval α} {next : α → Eval β}
    (silent : Silent action)
    (rest : ∀ value, action run = (.ok value, run) → EndsBy ending run (next value)) :
    EndsBy ending run (action >>= next) := by
  have unchanged := silent.run run
  have answered := silent.answers run
  cases outcome : action run with
  | mk result after =>
      rw [outcome] at unchanged answered
      subst unchanged
      unfold EndsBy
      cases result with
      | ok value =>
          rw [bind_run_of_ok outcome]
          exact rest value outcome
      | error stop =>
          rw [bind_run_of_error outcome]
          cases stop with
          | failed fault => exact laws.failed _ fault
          | exhausted => exact absurd rfl answered

theorem silent_bind (laws : Reflexive ending) {action : Eval α} {next : α → Eval β}
    (silent : Silent action) (rest : ∀ value, EndsBy ending run (next value)) :
    EndsBy ending run (action >>= next) :=
  silent_bind_of_run laws silent fun value _ => rest value

theorem ofExcept_bind (laws : Reflexive ending) {result : Except Fault α}
    {next : α → Eval β} (rest : ∀ value, result = .ok value → EndsBy ending run (next value)) :
    EndsBy ending run (ofExcept result >>= next) := by
  cases result with
  | ok value => exact rest value rfl
  | error fault => exact laws.failed run.console fault

theorem ofRefusal_bind (laws : Reflexive ending) {result : Except Refusal α}
    {next : α → Eval β} (rest : ∀ value, result = .ok value → EndsBy ending run (next value)) :
    EndsBy ending run (ofRefusal result >>= next) := by
  cases result with
  | ok value => exact rest value rfl
  | error cause => exact laws.failed run.console _

theorem updateConsole (laws : Internal inner outer) {change : Console → Console}
    (changes : Change run.console (change run.console))
    (managers : (change run.console).world.managers = run.console.world.managers)
    (stores : run.console.SameStores (change run.console)) :
    EndsBy outer run (Eval.updateConsole change) :=
  laws.unstored changes managers stores

theorem updateSession {change : Session → Session}
    (ends : ending run.console none (run.console.updateSession change)) :
    EndsBy ending run (Eval.updateSession change) :=
  ends

theorem reenter (laws : Internal inner outer) {nested : Nested} {text : String}
    (ends : EndsBy inner { run with console := run.console.record .reentered }
      (nested (.lines text))) : EndsBy outer run (Eval.reenter nested text) :=
  laws.reentered ends

/-! ### In dispatch -/

theorem act (laws : Effecting ending) {action : Act α}
    (acted : ending run.console none (run.console.withWorld (action run.console.world).2)) :
    EndsBy ending run (Eval.act action) := by
  unfold EndsBy Eval.act
  cases outcome : action run.console.world with
  | mk result world =>
      rw [outcome] at acted
      cases result with
      | ok value => exact acted
      | error fault => exact laws.sequence acted (laws.failed _ fault)

theorem perform (laws : Effecting ending) {action : Perform α}
    (effect : run.console.ExtensionEffect (action ⟨run.console.world, run.sink⟩).2.world) :
    EndsBy ending run (Eval.perform action) := by
  have changes := laws.extended effect
  unfold EndsBy Eval.perform
  cases outcome : action ⟨run.console.world, run.sink⟩ with
  | mk result stage =>
      rw [outcome] at changes
      cases result with
      | ok value => exact changes
      | error fault => exact laws.sequence changes (laws.failed _ fault)

theorem attempt {action : Eval α}
    (recovered : ∀ {before after fault}, ending before (some (.failed fault)) after →
      ending before none after)
    (ends : EndsBy ending run action) : EndsBy ending run (Eval.attempt action) := by
  unfold EndsBy at *
  rw [attempt_run]
  cases outcome : action run with
  | mk result after =>
      rw [outcome] at ends
      cases result with
      | ok value => exact ends
      | error stop =>
          cases stop with
          | failed fault => exact recovered ends
          | exhausted => exact ends

end EndsBy

end MachineConsole.Eval
