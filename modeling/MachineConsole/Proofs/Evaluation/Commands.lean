import MachineConsole.Console.Evaluation
import MachineConsole.Proofs.Command.Forms
import MachineConsole.Proofs.Emulation.Advancing
import MachineConsole.Proofs.Evaluation.Levels

/-!
Contract: how the commands end that every console has.

Owns:
- the rules for actions of objects and for scripts;
- `Stores`: over whatever evaluator, a computation only stores something or begins a capture;
- the rule for every form of the commands, and for those that reach nothing outside the console, when
  they do not only store something.
-/

namespace MachineConsole

namespace Eval

variable {ending inner within without outer : Ending} {nested : Nested}

/-! ### Actions of objects -/

theorem listMembers_quiet (target : Resolved) : Quiet (listMembers target) :=
  Quiet.bind Silent.console.quiet fun _ => Quiet.writeLines _

theorem showMemberHelp_quiet (target : Resolved) (member : String) :
    Quiet (showMemberHelp target member) :=
  Quiet.bind Silent.console.quiet fun _ => Quiet.writeLines _

theorem performAction_endsBy (laws : Effecting ending) (target : Resolved)
    {arguments : List Token} {run : Run} (supplies : run.console.SuppliesExpanded arguments) :
    EndsBy ending run (performAction target arguments) := by
  have recorded : EndsBy ending run (record (.received (.object target.object) arguments)) :=
    laws.received _ supplies
  unfold performAction
  apply EndsBy.bind laws.toSequential recorded
  intro _ handed _
  apply EndsBy.console_bind
  apply EndsBy.bind laws.toSequential
    (EndsBy.attempt laws.recovered (EndsBy.act laws (laws.acted handed.console _)))
  intro result after _
  cases result with
  | ok value =>
      exact EndsBy.of_quiet laws.toReflexive
        (Quiet.bind Silent.console.quiet fun _ => Quiet.writeLines _)
  | error fault =>
      cases fault with
      | parametersMismatch member =>
          exact EndsBy.of_quiet laws.toReflexive
            (Quiet.bind (showMemberHelp_quiet target member) fun _ => (Silent.fail _).quiet)
      | _ => exact EndsBy.fail laws.toReflexive _

theorem deviceAction_endsBy (laws : Effecting ending) (target : Resolved)
    {arguments : List Token} {run : Run} (supplies : run.console.SuppliesExpanded arguments) :
    EndsBy ending run (deviceAction target arguments) := by
  unfold deviceAction
  split
  · exact EndsBy.of_quiet laws.toReflexive (listMembers_quiet target)
  · exact performAction_endsBy laws target supplies

/-! ### Scripts -/

theorem runScript_endsBy (laws : Internal inner outer)
    (nestedEnds : ∀ job run, EndsBy inner run (nested job)) (path : String) (run : Run) :
    EndsBy outer run (runScript nested path) := by
  unfold runScript
  apply EndsBy.console_bind
  split
  · exact EndsBy.refuse laws.toReflexive _
  · next text _ =>
      let directory := Path.directoryOf run.console.workingDirectory path
      let bound : Run := ⟨run.console.updateSession fun session =>
        session.bindOrigin (some (Token.path directory)), run.sink⟩
      have inside : EndsBy outer bound (reenter nested text) :=
        EndsBy.reenter laws (nestedEnds (.lines text) _)
      exact laws.script directory inside

theorem includeFile_endsBy (laws : Delivering inner within without outer)
    (nestedEnds : ∀ job run, EndsBy inner run (nested job)) (file : String) (run : Run) :
    EndsBy outer run (includeFile nested file) := by
  unfold includeFile
  apply EndsBy.console_bind
  split
  · exact EndsBy.refuse laws.toReflexive _
  · next path _ =>
      dsimp only
      split
      · next host isHost =>
          have isHost' : run.console.host? = some host := (Option.filter_eq_some_iff.mp isHost).1
          have effect := Console.ExtensionEffect.file path run.sink isHost'
          have performed := EndsBy.perform laws.effecting effect
          exact laws.ofWithout (EndsBy.discard laws.effecting.toSequential performed true)
      · split
        · exact EndsBy.refuse laws.toReflexive _
        · exact laws.ofWithin (runScript_endsBy laws.internal nestedEnds path run)

/-! ### Storing -/

/-- Over whatever evaluator and wherever it writes, a computation has this effect on a console and no
other. -/
def OnlyDoes (action : Nested → Eval Bool) (console : Console) (effect : Console → Console) : Prop :=
  ∀ nested sink, action nested ⟨console, sink⟩ = (.ok true, ⟨effect console, sink⟩)

theorem OnlyDoes.congr {action other : Nested → Eval Bool} {console : Console}
    {effect : Console → Console}
    (same : ∀ nested sink, action nested ⟨console, sink⟩ = other nested ⟨console, sink⟩)
    (does : OnlyDoes other console effect) : OnlyDoes action console effect :=
  fun nested sink => (same nested sink).trans (does nested sink)

/-- On a console, the computation stores something or begins a capture, and does nothing else. The
store and the name that it does so for are among those known. -/
inductive Stores (known : StoreKind → String → Prop) (console : Console)
    (action : Nested → Eval Bool) : Prop where
  | captured {kind : StoreKind} {name : String} (opened : Bool) (names : known kind name)
      (does : OnlyDoes action console (·.beginCapture kind name opened))
  | stored {token value : Token} {kind : StoreKind} {name : String} (names : known kind name)
      (supplied : console.Supplied token) (unmarked : token.kind ≠ .terminator)
      (expanded : console.expand token = .ok value)
      (does : OnlyDoes action console (·.storeValue kind name value))

theorem Stores.congr {known : StoreKind → String → Prop} {console : Console}
    {action other : Nested → Eval Bool}
    (same : ∀ nested sink, action nested ⟨console, sink⟩ = other nested ⟨console, sink⟩)
    (stores : Stores known console other) : Stores known console action := by
  cases stores with
  | captured opened names does => exact captured opened names (does.congr same)
  | stored names supplied unmarked expanded does =>
      exact stored names supplied unmarked expanded (does.congr same)

theorem Stores.mono {known wider : StoreKind → String → Prop} {console : Console}
    {action : Nested → Eval Bool} (implies : ∀ kind name, known kind name → wider kind name)
    (stores : Stores known console action) : Stores wider console action := by
  cases stores with
  | captured opened names does => exact captured opened (implies _ _ names) does
  | stored names supplied unmarked expanded does =>
      exact stored (implies _ _ names) supplied unmarked expanded does

/-- The computation ends according to the relation, or it only stores something. -/
def EndsOrStores (ending : Ending) (known : StoreKind → String → Prop) (nested : Nested) (run : Run)
    (action : Nested → Eval Bool) : Prop :=
  EndsBy ending run (action nested) ∨ Stores known run.console action

namespace EndsOrStores

variable {α : Type} {run : Run} {known : StoreKind → String → Prop}

theorem congr {action other : Nested → Eval Bool}
    (same : ∀ nested sink, action nested ⟨run.console, sink⟩ = other nested ⟨run.console, sink⟩)
    (ends : EndsOrStores ending known nested run other) :
    EndsOrStores ending known nested run action := by
  cases ends with
  | inl ends =>
      have sameHere : action nested run = other nested run := same nested run.sink
      left
      unfold EndsBy
      rw [sameHere]
      exact ends
  | inr stores => exact .inr (stores.congr same)

theorem mono {wider : StoreKind → String → Prop} {action : Nested → Eval Bool}
    (ends : EndsOrStores ending known nested run action)
    (implies : ∀ kind name, known kind name → wider kind name) :
    EndsOrStores ending wider nested run action :=
  ends.imp_right (Stores.mono implies)

theorem console_bind {next : Console → Nested → Eval Bool}
    (rest : EndsOrStores ending known nested run (next run.console)) :
    EndsOrStores ending known nested run (fun nested => console >>= (next · nested)) :=
  rest.congr fun nested sink => console_bind_run (next · nested) ⟨run.console, sink⟩

theorem silent_bind (laws : Reflexive ending) {action : Eval α} {next : α → Nested → Eval Bool}
    (silent : Silent action)
    (rest : ∀ value, (∀ sink, action ⟨run.console, sink⟩ = (.ok value, ⟨run.console, sink⟩)) →
      EndsOrStores ending known nested run (next value)) :
    EndsOrStores ending known nested run (fun nested => action >>= (next · nested)) := by
  obtain ⟨result, _, ends⟩ := silent.outcome run.console
  cases result with
  | ok value =>
      exact (rest value ends).congr fun nested sink => bind_run_of_ok (ends sink) (next · nested)
  | error stop =>
      refine .inl (EndsBy.silent_bind_of_run laws silent fun value isValue => ?_)
      cases (ends run.sink).symm.trans isValue

theorem ofExcept_bind (laws : Reflexive ending) {result : Except Fault α}
    {next : α → Nested → Eval Bool}
    (rest : ∀ value, result = .ok value → EndsOrStores ending known nested run (next value)) :
    EndsOrStores ending known nested run (fun nested => ofExcept result >>= (next · nested)) := by
  cases result with
  | ok value => exact rest value rfl
  | error fault => exact .inl (laws.failed run.console fault)

end EndsOrStores

theorem Stores.endsBy (laws : Storing inner outer) {known : StoreKind → String → Prop} {run : Run}
    {action : Nested → Eval Bool} (stores : Stores known run.console action) :
    EndsBy outer run (action nested) := by
  unfold EndsBy
  cases stores with
  | captured opened _ does =>
      have ends := does nested run.sink
      rw [ends]
      exact laws.change (Change.captured run.console _ _ opened) rfl
  | stored _ supplied unmarked expanded does =>
      have ends := does nested run.sink
      rw [ends]
      exact laws.change (Change.stored _ _ supplied unmarked expanded) rfl

end Eval

/-- The store that a form stores a value in, or begins to capture one for. -/
def BuiltinForm.store? : BuiltinForm → Option StoreKind
  | .storeAwait kind | .storeOpen kind | .storeValue kind => some kind
  | _ => none

/-- Only the command for a store has forms for it. -/
theorem BuiltinCommand.eq_store_of_store? {builtin : BuiltinCommand} {kind : StoreKind}
    {signature : Signature BuiltinForm} (member : signature ∈ builtin.signatures)
    (isStore : signature.form.store? = some kind) : builtin = .store kind := by
  revert signature
  cases builtin with
  | store other => cases other <;> cases kind <;> decide
  | _ => cases kind <;> decide

/-- With these arguments, a form is for a value of this name in this store. -/
structure BuiltinForm.Names (form : BuiltinForm) (arguments : List Token) (kind : StoreKind)
    (name : String) : Prop where
  store : form.store? = some kind
  word : arguments[0]?.map Token.word = some name

namespace Builtin

open Eval

variable {ending inner within without outer : Ending} {nested : Nested}

/-! ### Arguments -/

theorem argument_silent (arguments : List Token) (position : Nat) :
    Silent (argument arguments position) := by
  unfold argument
  split
  · exact Silent.pure _
  · exact Silent.refuse _

theorem wordArgument_silent (arguments : List Token) (position : Nat) :
    Silent (wordArgument arguments position) :=
  Silent.bind (argument_silent arguments position) fun _ => Silent.pure _

theorem argument_run {arguments : List Token} {position : Nat} {token : Token}
    (found : arguments[position]? = some token) (run : Run) :
    argument arguments position run = (.ok token, run) := by
  unfold argument
  rw [found]
  rfl

theorem of_argument_run {arguments : List Token} {position : Nat} {token : Token} {run after : Run}
    (found : argument arguments position run = (.ok token, after)) :
    arguments[position]? = some token := by
  unfold argument at found
  cases isToken : arguments[position]? with
  | some token =>
      rw [isToken] at found
      cases found
      rfl
  | none =>
      rw [isToken] at found
      cases found

theorem of_wordArgument_run {arguments : List Token} {position : Nat} {name : String}
    {run after : Run} (found : wordArgument arguments position run = (.ok name, after)) :
    arguments[position]?.map Token.word = some name := by
  obtain ⟨token, _, isArgument, ended⟩ := of_bind_run found
  cases ended
  rw [of_argument_run isArgument]
  rfl

theorem wordArgument_run {arguments : List Token} {position : Nat} {token : Token}
    (found : arguments[position]? = some token) (run : Run) :
    wordArgument arguments position run = (.ok token.word, run) := by
  unfold wordArgument
  rw [bind_run_of_ok (argument_run found run)]
  rfl

/-! ### Commands that only show something -/

theorem listCommands_quiet : Quiet listCommands :=
  Quiet.bind Silent.console.quiet fun _ =>
    Quiet.bind (Quiet.writeLines _) fun _ => (Silent.pure _).quiet

theorem listMachines_quiet : Quiet listMachines := by
  apply Quiet.bind Silent.console.quiet
  intro state
  dsimp only
  split
  · exact Quiet.bind (Quiet.writeLine _) fun _ => (Silent.pure _).quiet
  · exact Quiet.bind (Quiet.writeLines _) fun _ => (Silent.pure _).quiet

theorem listBeginnings_quiet : Quiet listBeginnings :=
  Quiet.bind Silent.session.quiet fun _ =>
    Quiet.bind (Quiet.writeLines _) fun _ => (Silent.pure _).quiet

theorem showVerbose_quiet : Quiet showVerbose :=
  Quiet.bind Silent.session.quiet fun _ =>
    Quiet.bind (Quiet.writeLine _) fun _ => (Silent.pure _).quiet

theorem showNumberMode_quiet : Quiet showNumberMode :=
  Quiet.bind Silent.session.quiet fun _ =>
    Quiet.bind (Quiet.writeLine _) fun _ => (Silent.pure _).quiet

theorem listPeripherals_quiet : Quiet listPeripherals := by
  apply Quiet.bind Silent.console.quiet
  intro state
  split
  · exact (Silent.refuse _).quiet
  · exact Quiet.bind (Quiet.writeLines _) fun _ => (Silent.pure _).quiet

theorem showTopic_quiet (topic : String) : Quiet (showTopic topic) := by
  apply Quiet.bind Silent.console.quiet
  intro state
  dsimp only
  split
  · exact Quiet.bind (Quiet.writeLines _) fun _ => (Silent.pure _).quiet
  · apply Quiet.bind (Silent.ofExcept _).quiet
    intro target
    exact Quiet.bind (listMembers_quiet target) fun _ => (Silent.pure _).quiet

/-! ### Variables and macros -/

theorem beginCapture_cases (laws : Reflexive outer) {form : BuiltinForm} {kind : StoreKind}
    (isStore : form.store? = some kind) (opened : Bool) (arguments : List Token) (run : Run) :
    EndsOrStores outer (form.Names arguments) nested run
      (fun _ => beginCapture kind opened arguments) := by
  apply EndsOrStores.silent_bind laws (wordArgument_silent arguments 0)
  intro name isWord
  exact .inr (.captured opened ⟨isStore, of_wordArgument_run (isWord run.sink)⟩ fun _ _ => rfl)

theorem storeValue_cases (laws : Reflexive outer) {form : BuiltinForm} {kind : StoreKind}
    (isStore : form.store? = some kind) {arguments : List Token} {run : Run}
    (supplied : ∀ token ∈ arguments, run.console.Supplied token)
    (unmarked : ∀ value, arguments[1]? = some value → value.kind ≠ .terminator) :
    EndsOrStores outer (form.Names arguments) nested run (fun _ => storeValue kind arguments) := by
  apply EndsOrStores.silent_bind laws (wordArgument_silent arguments 0)
  intro name isWord
  apply EndsOrStores.console_bind
  apply EndsOrStores.silent_bind laws (argument_silent arguments 1)
  intro token isArgument
  have found := of_argument_run (isArgument run.sink)
  apply EndsOrStores.ofExcept_bind laws
  intro value expanded
  have names : form.Names arguments kind name := ⟨isStore, of_wordArgument_run (isWord run.sink)⟩
  exact .inr (.stored names (supplied token (List.mem_of_getElem? found)) (unmarked token found)
    expanded fun _ _ => rfl)

theorem executeVariable_endsBy (laws : Internal inner outer)
    (nestedEnds : ∀ job run, EndsBy inner run (nested job)) (arguments : List Token)
    (run : Run) : EndsBy outer run (executeVariable nested arguments) := by
  apply EndsBy.console_bind
  apply EndsBy.silent_bind laws.toReflexive (argument_silent arguments 0)
  intro token
  apply EndsBy.ofExcept_bind laws.toReflexive
  intro value _
  exact EndsBy.reenter laws (nestedEnds (.lines value.sourceText) _)

theorem playMacro_endsBy (laws : Internal inner outer)
    (nestedEnds : ∀ job run, EndsBy inner run (nested job)) (arguments : List Token)
    (run : Run) : EndsBy outer run (playMacro nested arguments) := by
  apply EndsBy.silent_bind laws.toReflexive (wordArgument_silent arguments 0)
  intro name
  apply EndsBy.console_bind
  split
  · exact EndsBy.refuse laws.toReflexive _
  · exact EndsBy.reenter laws (nestedEnds (.lines _) _)

/-! ### Machines -/

theorem select_endsBy (laws : Internal inner outer) {machine : MachineHandle} {run : Run}
    (present : machine ∈ run.console.emulation.machines) :
    EndsBy outer run (select (some machine)) :=
  EndsBy.discard laws.toSequential
    (EndsBy.updateConsole laws (Change.selected present) rfl ⟨rfl, rfl, rfl⟩) true

theorem deselect_endsBy (laws : Internal inner outer) (run : Run) :
    EndsBy outer run (select none) :=
  EndsBy.discard laws.toSequential
    (EndsBy.updateConsole laws (Change.deselected run.console) rfl ⟨rfl, rfl, rfl⟩) true

theorem selectMachine_endsBy (laws : Internal inner outer) (arguments : List Token) (run : Run) :
    EndsBy outer run (selectMachine arguments) := by
  apply EndsBy.silent_bind laws.toReflexive (wordArgument_silent arguments 1)
  intro name
  apply EndsBy.console_bind
  split
  · exact EndsBy.refuse laws.toReflexive _
  · next machine found => exact select_endsBy laws (List.mem_of_find?_eq_some found)

theorem selectMachineAt_endsBy (laws : Internal inner outer) (arguments : List Token)
    (run : Run) : EndsBy outer run (selectMachineAt arguments) := by
  apply EndsBy.silent_bind laws.toReflexive (argument_silent arguments 1)
  intro token
  apply EndsBy.console_bind
  dsimp only
  split
  · exact EndsBy.refuse laws.toReflexive _
  · next machine found =>
      split at found
      · cases found
      · exact select_endsBy laws (List.mem_of_getElem? found)

theorem createMachine_run (name? : Option String) (run : Run) :
    createMachine name? run =
      match run.console.world.addNewMachine run.console.emulationIndex name? with
      | .ok (machine, world) => (.ok machine, ⟨run.console.withWorld world, run.sink⟩)
      | .error cause => (.error (.failed (.refused cause)), run) := by
  unfold createMachine
  rw [console_bind_run]
  cases created : run.console.world.addNewMachine run.console.emulationIndex name? with
  | ok result => rfl
  | error cause => rfl

theorem addNewMachine_managers {world after : World} {emulation : Nat} {name? : Option String}
    {machine : MachineHandle}
    (creates : world.addNewMachine emulation name? = .ok (machine, after)) :
    after.managers = world.managers := by
  obtain ⟨_, created, managers, _, _, rfl⟩ := World.addNewMachine_ok creates
  exact managers

theorem addMachine_endsBy (laws : Internal inner outer) (arguments : List Token) (run : Run) :
    EndsBy outer run (addMachine arguments) := by
  apply EndsBy.silent_bind laws.toReflexive (wordArgument_silent arguments 1)
  intro name
  refine EndsBy.discard laws.toSequential ?_ true
  unfold EndsBy
  rw [createMachine_run]
  cases creates : run.console.world.addNewMachine run.console.emulationIndex (some name) with
  | ok result =>
      exact laws.unstored (Change.added creates) (addNewMachine_managers creates) ⟨rfl, rfl, rfl⟩
  | error cause => exact laws.failed run.console _

theorem createAndSelect_endsBy (laws : Internal inner outer) (arguments : List Token)
    (run : Run) : EndsBy outer run (createAndSelect arguments) := by
  unfold EndsBy createAndSelect
  rw [bind_run, createMachine_run]
  cases creates : run.console.world.addNewMachine run.console.emulationIndex
      (arguments[1]?.map Token.word) with
  | ok result =>
      exact laws.unstored (Change.created creates) (addNewMachine_managers creates) ⟨rfl, rfl, rfl⟩
  | error cause => exact laws.failed run.console _

theorem removeMachine_endsBy (laws : Internal inner outer) (arguments : List Token) (run : Run) :
    EndsBy outer run (removeMachine arguments) := by
  apply EndsBy.silent_bind laws.toReflexive (wordArgument_silent arguments 1)
  intro name
  apply EndsBy.console_bind
  apply EndsBy.ofRefusal_bind laws.toReflexive
  rintro ⟨removed, emulation⟩ removes
  have change := Change.removed removes
  unfold Console.withoutMachine at change
  dsimp only at change ⊢
  unfold EndsBy
  rw [bind_run]
  split at change
  · next isCurrent =>
      rw [if_pos isCurrent]
      exact laws.unstored change rfl ⟨rfl, rfl, rfl⟩
  · next isOther =>
      rw [if_neg isOther]
      exact laws.unstored change rfl ⟨rfl, rfl, rfl⟩

/-! ### The state of the session -/

theorem addBeginning_endsBy (laws : Internal inner outer) (arguments : List Token) (run : Run) :
    EndsBy outer run (addBeginning arguments) := by
  apply EndsBy.silent_bind laws.toReflexive (wordArgument_silent arguments 0)
  intro word
  dsimp only
  split
  · exact EndsBy.discard laws.toSequential
      (EndsBy.updateConsole laws (Change.used run.console []) rfl ⟨rfl, rfl, rfl⟩) true
  · refine EndsBy.discard laws.toSequential (EndsBy.updateSession ?_) true
    unfold Console.updateSession
    dsimp only
    split
    · exact laws.refl run.console
    · exact laws.unstored (Change.used run.console _) rfl ⟨rfl, rfl, rfl⟩

theorem changePath_endsBy (laws : Internal inner outer) (change : SearchPath → SearchPath)
    (run : Run) : EndsBy outer run (changePath change) := by
  apply EndsBy.bind laws.toSequential
    (EndsBy.updateConsole laws (Change.setPath run.console (change run.console.path)) rfl
      ⟨rfl, rfl, rfl⟩)
  intro _ after _
  apply EndsBy.console_bind
  exact EndsBy.discard laws.toSequential (EndsBy.of_quiet laws.toReflexive (Quiet.writeLine _)) true

theorem setVerbose_endsBy (laws : Internal inner outer) (arguments : List Token) (run : Run) :
    EndsBy outer run (setVerbose arguments) := by
  apply EndsBy.silent_bind laws.toReflexive (argument_silent arguments 0)
  intro token
  apply EndsBy.bind laws.toSequential
    (EndsBy.updateConsole laws (Change.setVerbose run.console (token.kind == .boolean true)) rfl
      ⟨rfl, rfl, rfl⟩)
  exact fun _ _ _ => EndsBy.of_quiet laws.toReflexive showVerbose_quiet

theorem setNumberMode_endsBy (laws : Internal inner outer) (arguments : List Token) (run : Run) :
    EndsBy outer run (setNumberMode arguments) := by
  apply EndsBy.silent_bind laws.toReflexive (wordArgument_silent arguments 0)
  intro name
  apply EndsBy.ofExcept_bind laws.toReflexive
  intro mode _
  apply EndsBy.bind laws.toSequential
    (EndsBy.updateConsole laws (Change.setNumberMode run.console mode) rfl ⟨rfl, rfl, rfl⟩)
  exact fun _ _ _ => EndsBy.of_quiet laws.toReflexive showNumberMode_quiet

theorem quit_endsBy (laws : Internal inner outer) (run : Run) : EndsBy outer run quit :=
  laws.unstored (Change.quit run.console) rfl ⟨rfl, rfl, rfl⟩

/-! ### Scripts and hosts -/

theorem setAllPaused_managers (world : World) (emulation : Nat) (paused : Bool) :
    (world.setAllPaused emulation paused).managers = world.managers := by
  unfold World.setAllPaused
  generalize (world.emulation emulation).machines = machines
  induction machines generalizing world with
  | nil => rfl
  | cons machine rest inductionHypothesis => exact inductionHypothesis _

theorem setAllPaused_endsBy (laws : Internal inner outer) (paused : Bool) (message : String)
    (run : Run) : EndsBy outer run (setAllPaused paused message) := by
  apply EndsBy.console_bind
  apply EndsBy.bind laws.toSequential
    (EndsBy.updateConsole laws (Change.paused run.console paused)
      (setAllPaused_managers _ _ paused) ⟨rfl, rfl, rfl⟩)
  intro _ after _
  exact EndsBy.discard laws.toSequential
    (EndsBy.of_quiet laws.toReflexive (Quiet.writeLine message)) true

theorem startScript_endsBy (laws : Delivering inner within without outer)
    (nestedEnds : ∀ job run, EndsBy inner run (nested job)) (arguments : List Token)
    (run : Run) : EndsBy outer run (startScript nested arguments) := by
  apply EndsBy.silent_bind laws.toReflexive (wordArgument_silent arguments 0)
  intro file
  have included := includeFile_endsBy laws nestedEnds file run
  unfold EndsBy at included ⊢
  rw [bind_run]
  cases outcome : includeFile nested file run with
  | mk result after =>
      rw [outcome] at included
      cases result with
      | error stop => exact included
      | ok succeeded =>
          cases succeeded with
          | true => exact laws.started false included
          | false => exact included

theorem runHostSource_endsBy (laws : Delivering inner within without outer)
    {arguments : List Token} {run : Run}
    (supplied : ∀ token ∈ arguments, run.console.Supplied token) :
    EndsBy outer run (runHostSource arguments) := by
  have sequential := laws.effecting.toSequential
  apply EndsBy.console_bind
  apply EndsBy.silent_bind_of_run laws.toReflexive (argument_silent arguments 0)
  intro token isArgument
  have isSupplied := supplied token (List.mem_of_getElem? (of_argument_run isArgument))
  apply EndsBy.ofExcept_bind laws.toReflexive
  intro source expanded
  split
  · exact EndsBy.refuse laws.toReflexive _
  · next host isHost =>
      have supplies : run.console.SuppliesExpanded [source] :=
        List.forall_mem_singleton.mpr ⟨token, isSupplied, expanded⟩
      have recorded : EndsBy without run (record (.received .host [source])) :=
        laws.effecting.received .host supplies
      apply laws.ofWithout
      apply EndsBy.bind sequential recorded
      rintro _ _ ⟨⟩
      let handed : Run := { run with console := run.console.record (.received .host [source]) }
      have stillHost : handed.console.host? = some host := isHost
      have performed : EndsBy without handed (perform (host.runSource source.sourceText)) :=
        EndsBy.perform laws.effecting
          (Console.ExtensionEffect.source source.sourceText handed.sink stillHost)
      exact EndsBy.discard sequential performed true

/-! ### All forms -/

/-- Whether a form may have something run by the scripting host. -/
def mayUseHost : BuiltinForm → Bool
  | .includeFile | .startScript | .hostSource => true
  | _ => false

theorem runForm_cases_of_internal (laws : Internal inner outer)
    (nestedEnds : ∀ job run, EndsBy inner run (nested job)) {form : BuiltinForm}
    (isInternal : mayUseHost form = false) {builtin : BuiltinCommand} {arguments : List Token}
    {run : Run} (supplied : ∀ token ∈ arguments, run.console.Supplied token)
    (chosen : Signature.choose? builtin.name builtin.signatures arguments = .ok (some form)) :
    EndsOrStores outer (form.Names arguments) nested run (runForm · form arguments) := by
  have ended {form : BuiltinForm} {action : Nested → Eval Bool}
      (ends : EndsBy outer run (action nested)) :
      EndsOrStores outer (form.Names arguments) nested run action :=
    .inl ends
  cases form with
  | includeFile => cases isInternal
  | startScript => cases isInternal
  | hostSource => cases isInternal
  | helpList => exact ended (EndsBy.of_quiet laws.toReflexive listCommands_quiet)
  | helpTopic =>
      apply EndsOrStores.silent_bind laws.toReflexive (wordArgument_silent arguments 0)
      exact fun topic _ => ended (EndsBy.of_quiet laws.toReflexive (showTopic_quiet topic))
  | storeAwait kind => exact beginCapture_cases laws.toReflexive rfl false arguments run
  | storeOpen kind => exact beginCapture_cases laws.toReflexive rfl true arguments run
  | storeValue kind =>
      exact storeValue_cases laws.toReflexive rfl supplied
        fun _ => BuiltinCommand.not_terminator_of_storeValue chosen
  | executeVariable => exact ended (executeVariable_endsBy laws nestedEnds arguments run)
  | executeTokens =>
      exact ended (EndsBy.reenter laws (nestedEnds (.lines (Token.joinRaw arguments)) _))
  | playMacro => exact ended (playMacro_endsBy laws nestedEnds arguments run)
  | machineList => exact ended (EndsBy.of_quiet laws.toReflexive listMachines_quiet)
  | machineSelect => exact ended (selectMachine_endsBy laws arguments run)
  | machineSelectAt => exact ended (selectMachineAt_endsBy laws arguments run)
  | machineAdd => exact ended (addMachine_endsBy laws arguments run)
  | machineRemove => exact ended (removeMachine_endsBy laws arguments run)
  | machineCreate => exact ended (createAndSelect_endsBy laws arguments run)
  | machineClear => exact ended (deselect_endsBy laws run)
  | useList => exact ended (EndsBy.of_quiet laws.toReflexive listBeginnings_quiet)
  | useAdd => exact ended (addBeginning_endsBy laws arguments run)
  | pathShow => exact ended (changePath_endsBy laws id run)
  | pathReset => exact ended (changePath_endsBy laws SearchPath.reset run)
  | pathSet =>
      apply EndsOrStores.silent_bind laws.toReflexive (wordArgument_silent arguments 1)
      exact fun directories _ => ended (changePath_endsBy laws _ run)
  | pathAdd =>
      apply EndsOrStores.silent_bind laws.toReflexive (wordArgument_silent arguments 1)
      exact fun directories _ => ended (changePath_endsBy laws _ run)
  | verboseShow => exact ended (EndsBy.of_quiet laws.toReflexive showVerbose_quiet)
  | verboseSet => exact ended (setVerbose_endsBy laws arguments run)
  | numbersShow => exact ended (EndsBy.of_quiet laws.toReflexive showNumberMode_quiet)
  | numbersSet => exact ended (setNumberMode_endsBy laws arguments run)
  | peripheralTree => exact ended (EndsBy.of_quiet laws.toReflexive listPeripherals_quiet)
  | startAll => exact ended (setAllPaused_endsBy laws false _ run)
  | pauseAll => exact ended (setAllPaused_endsBy laws true _ run)
  | quit => exact ended (quit_endsBy laws run)

/-- The rule for a form that a command has chosen for the arguments. -/
theorem runForm_cases (laws : Delivering inner within without outer)
    (nestedEnds : ∀ job run, EndsBy inner run (nested job)) {form : BuiltinForm}
    {builtin : BuiltinCommand} {arguments : List Token} {run : Run}
    (supplied : ∀ token ∈ arguments, run.console.Supplied token)
    (chosen : Signature.choose? builtin.name builtin.signatures arguments = .ok (some form)) :
    EndsOrStores outer (form.Names arguments) nested run (runForm · form arguments) := by
  cases isInternal : mayUseHost form with
  | false =>
      exact (runForm_cases_of_internal laws.internal nestedEnds isInternal supplied chosen).imp_left
        laws.ofWithin
  | true =>
      left
      cases form with
      | includeFile =>
          apply EndsBy.silent_bind laws.toReflexive (wordArgument_silent arguments 0)
          exact fun file => includeFile_endsBy laws nestedEnds file run
      | startScript => exact startScript_endsBy laws nestedEnds arguments run
      | hostSource => exact runHostSource_endsBy laws supplied
      | _ => cases isInternal

end Builtin

end MachineConsole
