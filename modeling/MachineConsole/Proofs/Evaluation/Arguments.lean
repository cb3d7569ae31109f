import MachineConsole.Proofs.Command.Apartness
import MachineConsole.Proofs.Evaluation.Expansion
import MachineConsole.Proofs.Evaluation.Failures

/-!
Contract: the arguments that commands take for granted.

Owns:
- `runForm_of_missing`: without an argument that it takes for granted a form fails, and has done
  nothing;
- `MissesByHost`, the relation of computations that miss no argument on their own account, and the
  rule for every form that is given all of these arguments;
- `builtin_arguments_present`: a choice among the forms of a command is never ambiguous and leaves
  no argument to be missed.
-/

namespace MachineConsole

/-- The engine for scripts reports, of its own, a failure for want of an argument. -/
def ScriptHost.ReportsMissing (host : ScriptHost) (position : Nat) : Prop :=
  ∃ source stage, (host.runSource source stage).1 = .error (.refused (.argumentMissing position))

/-! ### Faults with other causes -/

theorem ScriptHost.reportsMissing_of_runFile {host : ScriptHost} {path : String} {stage : Stage}
    {position : Nat}
    (missing : (host.runFile path stage).1 = .error (.refused (.argumentMissing position))) :
    host.ReportsMissing position := by
  unfold runFile at missing
  rw [get_bind_run] at missing
  cases read : stage.world.files.read path with
  | error cause =>
      rw [read] at missing
      cases missing
  | ok source =>
      rw [read] at missing
      exact ⟨source, stage, missing⟩

theorem World.addNewMachine_eq_error {world : World} {emulation : Nat} {name? : Option String}
    {cause : Refusal} (refused : world.addNewMachine emulation name? = .error cause) :
    ∃ name, cause = .machineExists name := by
  unfold addNewMachine at refused
  dsimp only at refused
  split at refused
  · cases refused
    exact ⟨_, rfl⟩
  · split at refused
    · next added =>
        cases refused
        unfold Emulation.addMachine at added
        split at added
        · cases added
          exact ⟨_, rfl⟩
        · cases added
    · cases refused

theorem Emulation.removeMachine_eq_error {emulation : Emulation} {name : String} {cause : Refusal}
    (refused : emulation.removeMachine name = .error cause) : cause = .noSuchMachine name := by
  unfold removeMachine at refused
  split at refused
  · cases refused
    rfl
  · cases refused

namespace Surroundings

variable {surroundings : Surroundings} {name : String} {fault : Fault}

theorem findBehind_eq_error {machine : Machine} {best : String} {bestDepth : Nat}
    {beginnings : List String}
    (failed : findBehind machine name best bestDepth beginnings = .error fault) :
    ∃ longest?, fault = .noSuchName name longest? := by
  induction beginnings generalizing best bestDepth with
  | nil =>
      cases failed
      exact ⟨_, rfl⟩
  | cons beginning rest inductionHypothesis =>
      unfold findBehind at failed
      dsimp only at failed
      split at failed
      · cases failed
      · split at failed
        · exact inductionHypothesis failed
        · exact inductionHypothesis failed

/-- A name that stands for nothing is all that can be wrong with it. -/
theorem resolve_eq_error (failed : surroundings.resolve name = .error fault) :
    ∃ longest?, fault = .noSuchName name longest? := by
  unfold resolve at failed
  split at failed
  · cases failed
  · unfold findPeripheral at failed
    split at failed
    · cases failed
      exact ⟨_, rfl⟩
    · split at failed
      · cases failed
      · exact findBehind_eq_error failed

end Surroundings

namespace Eval

variable {α β : Type} {host? : Option ScriptHost} {nested : Nested} {run : Run}
  {arguments : List Token}

/-! ### Computations that miss no argument -/

/-- A computation misses an argument only if an engine for scripts says so. -/
def MissesByHost (host? : Option ScriptHost) : Ending := fun _ stop? _ =>
  ∀ position, stop? = some (.failed (.refused (.argumentMissing position))) →
    ∃ host ∈ host?, host.ReportsMissing position

namespace MissesByHost

theorem sequential : Sequential (MissesByHost host?) where
  refl _ _ := nofun
  sequence _ second := second

theorem of_ok {action : Eval α} {value : α} (succeeded : (action run).1 = .ok value) :
    EndsBy (MissesByHost host?) run action := by
  unfold EndsBy
  rw [succeeded]
  exact fun _ => nofun

theorem fail {fault : Fault} (other : ∀ position, fault ≠ .refused (.argumentMissing position)) :
    EndsBy (MissesByHost host?) run (Eval.fail fault : Eval α) := by
  rintro position ⟨⟩
  exact absurd rfl (other position)

theorem ofExcept_bind {result : Except Fault α} {next : α → Eval β}
    (other : ∀ position, result ≠ .error (.refused (.argumentMissing position)))
    (rest : ∀ value, EndsBy (MissesByHost host?) run (next value)) :
    EndsBy (MissesByHost host?) run (Eval.ofExcept result >>= next) := by
  cases result with
  | ok value => exact rest value
  | error fault => exact fail fun position same => other position (same ▸ rfl)

theorem ofRefusal_bind {result : Except Refusal α} {next : α → Eval β}
    (other : ∀ position, result ≠ .error (.argumentMissing position))
    (rest : ∀ value, EndsBy (MissesByHost host?) run (next value)) :
    EndsBy (MissesByHost host?) run (Eval.ofRefusal result >>= next) := by
  cases result with
  | ok value => exact rest value
  | error cause =>
      refine fail fun position same => other position ?_
      rw [Fault.refused.inj same]

theorem perform {action : Perform α}
    (reports : ∀ position, (action ⟨run.console.world, run.sink⟩).1 =
      .error (.refused (.argumentMissing position)) →
        ∃ host ∈ host?, host.ReportsMissing position) :
    EndsBy (MissesByHost host?) run (Eval.perform action) := by
  unfold EndsBy Eval.perform
  cases outcome : action ⟨run.console.world, run.sink⟩ with
  | mk result stage =>
      rw [outcome] at reports
      cases result with
      | ok value => exact fun _ => nofun
      | error fault =>
          rintro position ⟨⟩
          exact reports position rfl

theorem argument_bind {position : Nat} {next : Token → Eval β}
    (inRange : position < arguments.length)
    (rest : ∀ token, EndsBy (MissesByHost host?) run (next token)) :
    EndsBy (MissesByHost host?) run (Builtin.argument arguments position >>= next) := by
  unfold EndsBy
  rw [bind_run_of_ok (Builtin.argument_run (List.getElem?_eq_getElem inRange) run)]
  exact rest _

theorem wordArgument_bind {position : Nat} {next : String → Eval β}
    (inRange : position < arguments.length)
    (rest : ∀ word, EndsBy (MissesByHost host?) run (next word)) :
    EndsBy (MissesByHost host?) run (Builtin.wordArgument arguments position >>= next) := by
  unfold EndsBy
  rw [bind_run_of_ok (Builtin.wordArgument_run (List.getElem?_eq_getElem inRange) run)]
  exact rest _

theorem expand_bind {console : Console} {token : Token} {next : Token → Eval β}
    (rest : ∀ value, EndsBy (MissesByHost host?) run (next value)) :
    EndsBy (MissesByHost host?) run (Eval.ofExcept (console.expand token) >>= next) := by
  refine ofExcept_bind (fun position missing => ?_) rest
  unfold Console.expand at missing
  rcases VariableStore.expand_cases token with ⟨value, _, expanded⟩ | ⟨name, _, unknown⟩
  · rw [expanded] at missing
    cases missing
  · rw [unknown] at missing
    cases missing

end MissesByHost

/-- Nested evaluations do not hand back a failure for want of an argument, since every policy lets
it be reported. -/
theorem run_missesByHost (bound : Nat) (job : Job) (start : Run) :
    EndsBy (MissesByHost host?) start (Eval.run bound job) := by
  intro position missing
  have unreportable := (run_handsBack bound job start).handsBack _ missing
  cases unreportable

section Forms

variable (nestedEnds : ∀ job run, EndsBy (MissesByHost host?) run (nested job))
include nestedEnds

theorem reenter_missesByHost (text : String) (run : Run) :
    EndsBy (MissesByHost host?) run (reenter nested text) :=
  nestedEnds (.lines text) _

theorem runScript_missesByHost (path : String) (run : Run) :
    EndsBy (MissesByHost host?) run (runScript nested path) := by
  unfold runScript
  apply EndsBy.console_bind
  split
  · exact MissesByHost.fail fun _ => nofun
  · next text _ => exact nestedEnds (.lines text) _

theorem includeFile_missesByHost (file : String) (isHost : run.console.host? = host?) :
    EndsBy (MissesByHost host?) run (includeFile nested file) := by
  unfold includeFile
  apply EndsBy.console_bind
  split
  · exact MissesByHost.fail fun _ => nofun
  · next path _ =>
      dsimp only
      split
      · next host found =>
          have isOurs : host ∈ host? := isHost ▸ (Option.filter_eq_some_iff.mp found).1
          refine EndsBy.discard MissesByHost.sequential (MissesByHost.perform ?_) true
          exact fun position missing =>
            ⟨host, isOurs, ScriptHost.reportsMissing_of_runFile missing⟩
      · split
        · exact MissesByHost.fail fun _ => nofun
        · exact runScript_missesByHost nestedEnds path run

end Forms

end Eval

namespace Builtin

open Eval

variable {host? : Option ScriptHost} {nested : Nested} {run : Run} {arguments : List Token}

theorem createMachine_missesByHost (name? : Option String) (run : Run) :
    EndsBy (MissesByHost host?) run (createMachine name?) := by
  rw [EndsBy, createMachine_run]
  split
  · exact fun _ => nofun
  · next cause refused =>
      obtain ⟨name, rfl⟩ := World.addNewMachine_eq_error refused
      exact fun _ => nofun

theorem runForm_missesByHost
    (nestedEnds : ∀ job run, EndsBy (MissesByHost host?) run (nested job)) {form : BuiltinForm}
    (isHost : run.console.host? = host?)
    (inRange : ∀ position ∈ form.positions, position < arguments.length) :
    EndsBy (MissesByHost host?) run (runForm nested form arguments) := by
  cases form with
  | helpList => exact MissesByHost.of_ok rfl
  | helpTopic =>
      apply MissesByHost.wordArgument_bind (inRange 0 (by decide))
      intro topic
      apply EndsBy.console_bind
      dsimp only
      split
      · exact MissesByHost.of_ok rfl
      · refine MissesByHost.ofExcept_bind (fun position missing => ?_)
          fun target => MissesByHost.of_ok rfl
        obtain ⟨longest?, other⟩ := Surroundings.resolve_eq_error missing
        cases other
  | includeFile =>
      apply MissesByHost.wordArgument_bind (inRange 0 (by decide))
      exact fun file => includeFile_missesByHost nestedEnds file isHost
  | storeAwait kind =>
      apply MissesByHost.wordArgument_bind (inRange 0 List.mem_cons_self)
      exact fun name => MissesByHost.of_ok rfl
  | storeOpen kind =>
      apply MissesByHost.wordArgument_bind (inRange 0 List.mem_cons_self)
      exact fun name => MissesByHost.of_ok rfl
  | storeValue kind =>
      apply MissesByHost.wordArgument_bind (inRange 0 List.mem_cons_self)
      intro name
      apply EndsBy.console_bind
      apply MissesByHost.argument_bind
        (inRange 1 (List.mem_cons_of_mem _ List.mem_cons_self))
      intro token
      apply MissesByHost.expand_bind
      exact fun value => MissesByHost.of_ok rfl
  | executeVariable =>
      apply EndsBy.console_bind
      apply MissesByHost.argument_bind (inRange 0 (by decide))
      intro token
      apply MissesByHost.expand_bind
      exact fun value => reenter_missesByHost nestedEnds value.sourceText run
  | executeTokens => exact reenter_missesByHost nestedEnds (Token.joinRaw arguments) run
  | playMacro =>
      apply MissesByHost.wordArgument_bind (inRange 0 (by decide))
      intro name
      apply EndsBy.console_bind
      split
      · exact MissesByHost.fail fun _ => nofun
      · exact reenter_missesByHost nestedEnds _ run
  | machineList =>
      apply EndsBy.console_bind
      dsimp only
      split
      · exact MissesByHost.of_ok rfl
      · exact MissesByHost.of_ok rfl
  | machineSelect =>
      apply MissesByHost.wordArgument_bind (inRange 1 (by decide))
      intro name
      apply EndsBy.console_bind
      split
      · exact MissesByHost.fail fun _ => nofun
      · exact MissesByHost.of_ok rfl
  | machineSelectAt =>
      apply MissesByHost.argument_bind (inRange 1 (by decide))
      intro token
      apply EndsBy.console_bind
      dsimp only
      split
      · exact MissesByHost.fail fun _ => nofun
      · exact MissesByHost.of_ok rfl
  | machineAdd =>
      apply MissesByHost.wordArgument_bind (inRange 1 (by decide))
      intro name
      exact EndsBy.discard MissesByHost.sequential
        (createMachine_missesByHost (some name) run) true
  | machineRemove =>
      apply MissesByHost.wordArgument_bind (inRange 1 (by decide))
      intro name
      apply EndsBy.console_bind
      refine MissesByHost.ofRefusal_bind (fun position missing => ?_) fun removed => ?_
      · cases Emulation.removeMachine_eq_error missing
      · apply EndsBy.bind MissesByHost.sequential (MissesByHost.of_ok rfl)
        intro _ after _
        split
        · exact MissesByHost.of_ok rfl
        · exact MissesByHost.of_ok rfl
  | machineCreate =>
      apply EndsBy.bind MissesByHost.sequential (createMachine_missesByHost _ run)
      exact fun machine after _ => MissesByHost.of_ok rfl
  | machineClear => exact MissesByHost.of_ok rfl
  | useList => exact MissesByHost.of_ok rfl
  | useAdd =>
      apply MissesByHost.wordArgument_bind (inRange 0 (by decide))
      intro word
      dsimp only
      split
      · exact MissesByHost.of_ok rfl
      · exact MissesByHost.of_ok rfl
  | pathShow => exact MissesByHost.of_ok rfl
  | pathReset => exact MissesByHost.of_ok rfl
  | pathSet =>
      apply MissesByHost.wordArgument_bind (inRange 1 (by decide))
      exact fun directories => MissesByHost.of_ok rfl
  | pathAdd =>
      apply MissesByHost.wordArgument_bind (inRange 1 (by decide))
      exact fun directories => MissesByHost.of_ok rfl
  | verboseShow => exact MissesByHost.of_ok rfl
  | verboseSet =>
      apply MissesByHost.argument_bind (inRange 0 (by decide))
      exact fun token => MissesByHost.of_ok rfl
  | numbersShow => exact MissesByHost.of_ok rfl
  | numbersSet =>
      apply MissesByHost.wordArgument_bind (inRange 0 (by decide))
      intro name
      refine MissesByHost.ofExcept_bind (fun position missing => ?_)
        fun mode => MissesByHost.of_ok rfl
      unfold NumberMode.ofName? at missing
      split at missing
      · cases missing
      · cases missing
  | peripheralTree =>
      apply EndsBy.console_bind
      split
      · exact MissesByHost.fail fun _ => nofun
      · exact MissesByHost.of_ok rfl
  | startAll => exact MissesByHost.of_ok rfl
  | startScript =>
      apply MissesByHost.wordArgument_bind (inRange 0 (by decide))
      intro file
      apply EndsBy.bind MissesByHost.sequential (includeFile_missesByHost nestedEnds file isHost)
      intro succeeded after _
      cases succeeded with
      | true => exact MissesByHost.of_ok rfl
      | false => exact MissesByHost.of_ok rfl
  | pauseAll => exact MissesByHost.of_ok rfl
  | hostSource =>
      apply EndsBy.console_bind
      apply MissesByHost.argument_bind (inRange 0 (by decide))
      intro token
      apply MissesByHost.expand_bind
      intro source
      split
      · exact MissesByHost.fail fun _ => nofun
      · next host found =>
          have isOurs : host ∈ host? := isHost ▸ found
          have performed (after : Run) :
              EndsBy (MissesByHost host?) after (perform (host.runSource source.sourceText)) :=
            MissesByHost.perform fun position missing => ⟨host, isOurs, _, _, missing⟩
          exact EndsBy.discard MissesByHost.sequential (performed _) true
  | quit => exact MissesByHost.of_ok rfl

/-! ### Arguments that are missing -/

theorem argument_of_missing {position : Nat} (missing : arguments.length ≤ position) (run : Run) :
    argument arguments position run =
      (.error (.failed (.refused (.argumentMissing position))), run) := by
  unfold argument
  rw [List.getElem?_eq_none missing]
  rfl

theorem wordArgument_of_missing {position : Nat} (missing : arguments.length ≤ position)
    (run : Run) : wordArgument arguments position run =
      (.error (.failed (.refused (.argumentMissing position))), run) := by
  unfold wordArgument
  rw [bind_run_of_error (argument_of_missing missing run)]

/-- The arguments that a form takes for granted are read before anything is done, in their order. -/
theorem runForm_of_missing {form : BuiltinForm} {position : Nat}
    (missing : form.positions.find? (fun position => arguments.length ≤ position) = some position) :
    FailsWith (.refused (.argumentMissing position)) run (runForm nested form arguments) := by
  have beyond : arguments.length ≤ position := by simpa using List.find?_some missing
  have granted := List.mem_of_find?_eq_some missing
  have ofWord {next : String → Eval Bool} :
      FailsWith (.refused (.argumentMissing position)) run
        (wordArgument arguments position >>= next) :=
    bind_run_of_error (wordArgument_of_missing beyond run) next
  have ofToken {next : Token → Eval Bool} :
      FailsWith (.refused (.argumentMissing position)) run (argument arguments position >>= next) :=
    bind_run_of_error (argument_of_missing beyond run) next
  cases form with
  | helpTopic | includeFile | storeAwait | storeOpen | playMacro | useAdd | numbersSet
  | startScript =>
      cases List.mem_singleton.mp granted
      exact ofWord
  | machineSelect | machineAdd | machineRemove | pathSet | pathAdd =>
      cases List.mem_singleton.mp granted
      exact ofWord
  | executeVariable | verboseSet | hostSource | machineSelectAt =>
      cases List.mem_singleton.mp granted
      exact ofToken
  | storeValue kind =>
      cases arguments with
      | nil =>
          cases missing
          exact ofWord
      | cons name rest =>
          have isSecond : position = 1 := by
            rcases List.mem_cons.mp granted with rfl | later
            · exact absurd beyond (Nat.not_succ_le_zero _)
            · exact List.mem_singleton.mp later
          subst isSecond
          change FailsWith _ run (storeValue kind (name :: rest))
          unfold FailsWith storeValue
          rw [bind_run_of_ok (wordArgument_run rfl run), console_bind_run]
          exact ofToken
  | _ => cases granted

end Builtin

/-! ### Commands -/

namespace Eval

variable {host? : Option ScriptHost} {nested : Nested} {run : Run}

/-- Where no choice is ambiguous, a form is chosen for some arguments, or none is, or a variable
that is expanded to find one is unknown. -/
theorem chooseForm_cases {Form : Type} {command : String} {signatures : List (Signature Form)}
    (unambiguous : ∀ arguments fault,
      Signature.choose? command signatures arguments ≠ .error fault)
    (arguments : List Token) (run : Run) :
    (∃ form chosen, chooseForm command signatures arguments run = (.ok (some form, chosen), run) ∧
      Signature.choose? command signatures chosen = .ok (some form)) ∨
    (∃ chosen, chooseForm command signatures arguments run = (.ok (none, chosen), run)) ∨
    ∃ name, chooseForm command signatures arguments run =
      (.error (.failed (.noSuchVariable name)), run) := by
  unfold chooseForm
  cases asGiven : Signature.choose? command signatures arguments with
  | error fault => exact absurd asGiven (unambiguous arguments fault)
  | ok form? =>
      cases form? with
      | some form => exact .inl ⟨form, arguments, rfl, asGiven⟩
      | none =>
          rw [bind_run_of_ok (rfl : ofExcept (.ok none) run = (.ok none, run))]
          dsimp only
          split
          · rw [console_bind_run]
            cases expands : run.console.expandAll arguments with
            | error fault =>
                obtain ⟨name, -, rfl⟩ := VariableStore.expandAll_eq_error_iff.mp expands
                exact .inr (.inr ⟨name, rfl⟩)
            | ok expanded =>
                rw [bind_run_of_ok (rfl : ofExcept (.ok expanded) run = (.ok expanded, run))]
                cases again : Signature.choose? command signatures expanded with
                | error fault => exact absurd again (unambiguous expanded fault)
                | ok form? =>
                    cases form? with
                    | some form => exact .inl ⟨form, expanded, rfl, again⟩
                    | none => exact .inr (.inl ⟨expanded, rfl⟩)
          · exact .inr (.inl ⟨arguments, rfl⟩)

theorem runCommand_missesByHost
    (nestedEnds : ∀ job run, EndsBy (MissesByHost host?) run (nested job))
    (isHost : run.console.host? = host?) (command : BuiltinCommand) (arguments : List Token) :
    EndsBy (MissesByHost host?) run (runCommand nested (.builtin command) arguments) := by
  have unambiguous : ∀ arguments fault, Signature.choose? (Command.builtin command).name
      command.signatures arguments ≠ .error fault :=
    Signature.choose?_ne_error command.signatures_apart _
  change EndsBy (MissesByHost host?) run (runChosen (.builtin command) command.signatures
    (Builtin.runForm nested) arguments)
  unfold EndsBy runChosen
  obtain ⟨form, chosen, found, isChosen⟩ | ⟨chosen, none⟩ | ⟨name, unknown⟩ :=
    chooseForm_cases unambiguous arguments run
  · rw [bind_run_of_ok found]
    exact Builtin.runForm_missesByHost nestedEnds isHost
      (BuiltinCommand.positions_lt_of_choose? isChosen)
  · rw [bind_run_of_ok none]
    exact fun _ => nofun
  · rw [bind_run_of_error unknown]
    exact fun _ => nofun

/-- Whatever arguments a command is given that every console has, the choice among its forms is not
ambiguous, and a form that is chosen is given every argument that it takes for granted. These are
the arguments without which the form fails before it does anything. So the command, variables
expanded or not, never fails for want of an argument, unless this is what the engine for scripts
reports. -/
theorem builtin_arguments_present (command : BuiltinCommand) (arguments : List Token) :
    (∃ form?, Signature.choose? command.name command.signatures arguments = .ok form?) ∧
    (∀ form, Signature.choose? command.name command.signatures arguments = .ok (some form) →
      ∀ position ∈ form.positions, position < arguments.length) ∧
    (∀ (nested : Nested) (form : BuiltinForm) (position : Nat) (run : Run),
      form.positions.find? (fun position => arguments.length ≤ position) = some position →
        Builtin.runForm nested form arguments run =
          (.error (.failed (.refused (.argumentMissing position))), run)) ∧
    ∀ (bound position : Nat) (run : Run),
      (runCommand (Eval.run bound) (.builtin command) arguments run).1 =
        .error (.failed (.refused (.argumentMissing position))) →
      ∃ host ∈ run.console.host?, host.ReportsMissing position := by
  refine ⟨?_, fun form chosen => BuiltinCommand.positions_lt_of_choose? chosen,
    fun nested form position run missing => Builtin.runForm_of_missing missing, ?_⟩
  · cases chosen : Signature.choose? command.name command.signatures arguments with
    | ok form? => exact ⟨form?, rfl⟩
    | error fault =>
        exact absurd chosen
          (Signature.choose?_ne_error command.signatures_apart command.name arguments fault)
  · intro bound position run missing
    have ends : EndsBy (MissesByHost run.console.host?) run
        (runCommand (Eval.run bound) (.builtin command) arguments) :=
      runCommand_missesByHost (run_missesByHost bound) rfl command arguments
    exact ends position (congrArg stop? missing)

/-- A machine is selected by its place with a place that is there, and without one the form for it
would fail. -/
theorem builtin_arguments_present_machine :
    let command := BuiltinCommand.machine
    let arguments := [Token.literal "set", Token.integer 0]
    Signature.choose? command.name command.signatures arguments = .ok (some .machineSelectAt) ∧
      1 ∈ BuiltinForm.machineSelectAt.positions ∧ 1 < arguments.length ∧
      ∀ run, Builtin.runForm (Eval.run 3) .machineSelectAt [Token.literal "set"] run =
        (.error (.failed (.refused (.argumentMissing 1))), run) := by
  intro command arguments
  have chosen : Signature.choose? command.name command.signatures arguments =
      .ok (some .machineSelectAt) := by rfl
  have granted : 1 ∈ BuiltinForm.machineSelectAt.positions := by decide
  obtain ⟨-, present, -⟩ := builtin_arguments_present command arguments
  obtain ⟨-, -, fails, -⟩ := builtin_arguments_present command [Token.literal "set"]
  exact ⟨chosen, granted, present .machineSelectAt chosen 1 granted,
    fun run => fails (Eval.run 3) .machineSelectAt 1 run (by decide)⟩

end Eval

end MachineConsole
