import MachineConsole.Proofs.Evaluation.Commands

/-!
Contract: how dispatch ends.

Owns:
- `Console.StoresFor`: an invocation is for a value of a name in a store, which is said of the tokens
  and the commands there are, and `Console.mayStore`, which can be told without evaluation;
- the rules for commands, for each of the things that an invocation may be handed to, with those that
  only store something set apart, and for dispatch with the failure of an invocation handled and what
  follows it done.
-/

namespace MachineConsole

namespace Eval

variable {inner within without outer : Ending} {nested : Nested}

/-! ### Tokens that invocations bring with them -/

/-- What several tokens are expanded to is what each of them stands for. -/
theorem mem_of_expandAll {console : Console} {tokens expanded : List Token}
    (isExpanded : console.expandAll tokens = .ok expanded) :
    ∀ value ∈ expanded, ∃ token ∈ tokens, console.expand token = .ok value := by
  unfold Console.expandAll VariableStore.expandAll at isExpanded
  exact mem_of_mapM isExpanded

theorem suppliesExpanded_of_expandAll {console : Console} {tokens expanded : List Token}
    (supplied : ∀ token ∈ tokens, console.Supplied token)
    (isExpanded : console.expandAll tokens = .ok expanded) :
    console.SuppliesExpanded expanded := by
  intro argument member
  obtain ⟨token, isToken, stands⟩ := mem_of_expandAll isExpanded argument member
  exact ⟨token, supplied token isToken, stands⟩

/-- The values of supplied tokens are supplied. -/
theorem supplied_of_suppliesExpanded {console : Console} {arguments : List Token}
    (supplies : console.SuppliesExpanded arguments) :
    ∀ token ∈ arguments, console.Supplied token := by
  intro argument member
  obtain ⟨token, supplied, expanded⟩ := supplies argument member
  exact supplied.value expanded

theorem mem_of_assignment? {invocation : List Token} {assignment : Assignment}
    (assigns : assignment? invocation = some assignment) : assignment.value ∈ invocation := by
  unfold assignment? at assigns
  split at assigns
  · split at assigns
    · split at assigns
      · cases assigns
        exact List.mem_cons_of_mem _ (List.mem_cons_of_mem _ List.mem_cons_self)
      · cases assigns
        exact List.mem_cons_of_mem _ (List.mem_cons_of_mem _ List.mem_cons_self)
      · cases assigns
    · cases assigns
  · cases assigns

/-! ### Commands -/

theorem chooseForm_silent {Form : Type} (command : String) (signatures : List (Signature Form))
    (arguments : List Token) : Silent (chooseForm command signatures arguments) := by
  unfold chooseForm
  apply Silent.bind (Silent.ofExcept _)
  intro form?
  cases form? with
  | some form => exact Silent.pure _
  | none =>
      dsimp only
      split
      · apply Silent.bind Silent.console
        intro state
        apply Silent.bind (Silent.ofExcept _)
        intro expanded
        exact Silent.bind (Silent.ofExcept _) fun _ => Silent.pure _
      · exact Silent.pure _

theorem chooseForm_of_chosen {Form : Type} {command : String} {signatures : List (Signature Form)}
    {arguments : List Token} {form : Form} {run : Run}
    (chosen : Signature.choose? command signatures arguments = .ok (some form)) :
    chooseForm command signatures arguments run = (.ok (some form, arguments), run) := by
  unfold chooseForm
  rw [chosen]
  rfl

/-- The form that was looked for accepts the arguments as they are, or expanded. -/
theorem of_chooseForm_run {Form : Type} {command : String} {signatures : List (Signature Form)}
    {arguments chosen : List Token} {form : Form} {run after : Run}
    (found : chooseForm command signatures arguments run = (.ok (some form, chosen), after)) :
    Signature.choose? command signatures chosen = .ok (some form) ∧
      (chosen = arguments ∨ run.console.expandAll arguments = .ok chosen) := by
  unfold chooseForm at found
  cases asGiven : Signature.choose? command signatures arguments with
  | error fault =>
      rw [asGiven] at found
      cases found
  | ok form? =>
      rw [asGiven] at found
      cases form? with
      | some given =>
          cases found
          exact ⟨asGiven, .inl rfl⟩
      | none =>
          obtain ⟨_, _, ⟨⟩, found⟩ := of_bind_run found
          dsimp only at found
          split at found
          · rw [console_bind_run] at found
            cases isExpanded : run.console.expandAll arguments with
            | error fault =>
                rw [isExpanded] at found
                cases found
            | ok expanded =>
                rw [isExpanded] at found
                obtain ⟨_, _, ⟨⟩, found⟩ := of_bind_run found
                cases asExpanded : Signature.choose? command signatures expanded with
                | error fault =>
                    rw [asExpanded] at found
                    cases found
                | ok again =>
                    rw [asExpanded] at found
                    cases found
                    exact ⟨asExpanded, .inr rfl⟩
          · cases found

/-- With these arguments, a command of every console runs a form for a value of this name in this
store. -/
inductive RunsStore (console : Console) (arguments : List Token) (kind : StoreKind) (name : String) :
    Command → Prop where
  | builtin {builtin : BuiltinCommand} {form : BuiltinForm} {chosen : List Token}
      (chooses : ∀ sink, chooseForm builtin.name builtin.signatures arguments ⟨console, sink⟩ =
        (.ok (some form, chosen), ⟨console, sink⟩))
      (names : form.Names chosen kind name) : RunsStore console arguments kind name (.builtin builtin)

/-- Nothing but the command for a store does that. -/
theorem RunsStore.eq_store {console : Console} {arguments : List Token} {kind : StoreKind}
    {name : String} {command : Command} (runs : RunsStore console arguments kind name command) :
    command = .builtin (.store kind) := by
  cases runs with
  | builtin chooses names =>
      obtain ⟨isChosen, _⟩ := of_chooseForm_run (chooses Sink.empty)
      obtain ⟨signature, member, rfl, _⟩ := Signature.accepts_of_choose? isChosen
      rw [BuiltinCommand.eq_store_of_store? member names.store]

theorem runChosen_cases {Form : Type} {known : StoreKind → String → Prop} (laws : Reflexive outer)
    (command : Command) (signatures : List (Signature Form))
    {runForm : Nested → Form → List Token → Eval Bool} {run : Run} {arguments : List Token}
    (supplied : ∀ token ∈ arguments, run.console.Supplied token)
    (runs : ∀ form chosen,
      (∀ sink, chooseForm command.name signatures arguments ⟨run.console, sink⟩ =
        (.ok (some form, chosen), ⟨run.console, sink⟩)) →
      Signature.choose? command.name signatures chosen = .ok (some form) →
      (∀ token ∈ chosen, run.console.Supplied token) →
        EndsOrStores outer known nested run (runForm · form chosen)) :
    EndsOrStores outer known nested run
      (fun nested => runChosen command signatures (runForm nested) arguments) := by
  apply EndsOrStores.silent_bind laws (chooseForm_silent command.name signatures arguments)
  rintro ⟨form?, chosen⟩ found
  cases form? with
  | some form =>
      obtain ⟨isChosen, given⟩ := of_chooseForm_run (found run.sink)
      have chosenSupplied : ∀ token ∈ chosen, run.console.Supplied token := by
        rcases given with rfl | isExpanded
        · exact supplied
        · exact supplied_of_suppliesExpanded (suppliesExpanded_of_expandAll supplied isExpanded)
      exact runs form chosen found isChosen chosenSupplied
  | none =>
      exact .inl (EndsBy.of_quiet laws
        (Quiet.bind (Quiet.writeLines command.helpLines) fun _ => (Silent.fail _).quiet))

theorem runCommand_cases (laws : Delivering inner within without outer)
    (nestedEnds : ∀ job run, EndsBy inner run (nested job)) {command : Command}
    {arguments : List Token} {run : Run} {name : String}
    (supplied : ∀ token ∈ arguments, run.console.Supplied token)
    (registered : run.console.commands.get? name = some command) :
    EndsOrStores outer (RunsStore run.console arguments · · command) nested run
      (runCommand · command arguments) := by
  cases command with
  | builtin builtin =>
      apply runChosen_cases laws.toReflexive _ _ supplied
      intro form chosen chooses isChosen chosenSupplied
      have ends : EndsOrStores outer (form.Names chosen) nested run (Builtin.runForm · form chosen) :=
        Builtin.runForm_cases laws nestedEnds chosenSupplied isChosen
      exact ends.mono fun _ _ names => .builtin chooses names
  | added added =>
      apply runChosen_cases laws.toReflexive _ _ supplied
      intro form arguments _ _ _
      have effect := Console.ExtensionEffect.command form arguments run.sink registered
      exact .inl (laws.ofWithout (EndsBy.perform laws.effecting effect))

end Eval

/-! ### Invocations for stores -/

/-- An invocation is for a value of this name in this store, by a command or by a sign. -/
inductive Console.StoresFor (console : Console) : List Token → StoreKind → String → Prop where
  | command {first : Token} {arguments : List Token} {word name : String} {kind : StoreKind}
      {command : Command} (unsigned : Eval.assignment? (first :: arguments) = none)
      (isWord : first.kind = .literal word) (means : console.commands.get? word = some command)
      (runs : Eval.RunsStore console arguments kind name command) :
      StoresFor console (first :: arguments) kind name
  | sign {invocation : List Token} {assignment : Eval.Assignment} {value : Token} {name : String}
      {kind : StoreKind} {command : Command}
      (assigns : Eval.assignment? invocation = some assignment)
      (unskipped : (assignment.conditional &&
        console.session.variableStore.contains console.scopes assignment.name) = false)
      (expanded : console.expand assignment.value = .ok value)
      (means : console.commands.get? StoreKind.variables.commandName = some command)
      (runs : Eval.RunsStore console [Token.literal assignment.name, value] kind name command) :
      StoresFor console invocation kind name

/-- Whether an invocation can be for a value in a store: it is an assignment by a sign, or its first
word means the command for the store. -/
def Console.mayStore (console : Console) (kind : StoreKind) (invocation : List Token) : Bool :=
  match Eval.assignment? invocation, invocation with
  | some _, _ => true
  | none, ⟨.literal word, _⟩ :: _ =>
    match console.commands.get? word with
    | some (.builtin builtin) => builtin == .store kind
    | _ => false
  | none, _ => false

theorem Console.StoresFor.mayStore {console : Console} {invocation : List Token} {kind : StoreKind}
    {name : String} (isFor : console.StoresFor invocation kind name) :
    console.mayStore kind invocation = true := by
  unfold Console.mayStore
  cases isFor with
  | @command first arguments word _ _ command unsigned isWord means runs =>
      obtain ⟨firstKind, raw⟩ := first
      cases isWord
      obtain rfl := runs.eq_store
      rw [unsigned]
      simp [means]
  | sign assigns =>
      rw [assigns]

namespace Eval

variable {inner within without outer : Ending} {nested : Nested}

/-! ### What an invocation is handed to -/

theorem assign_cases (laws : Delivering inner within without outer)
    (nestedEnds : ∀ job run, EndsBy inner run (nested job)) {invocation : List Token}
    {assignment : Assignment} {run : Run} (assigns : assignment? invocation = some assignment)
    (supplied : run.console.Supplied assignment.value) :
    EndsOrStores outer (run.console.StoresFor invocation) nested run (assign · assignment) := by
  apply EndsOrStores.console_bind
  by_cases skipped : (assignment.conditional &&
      run.console.session.variableStore.contains run.console.scopes assignment.name) = true
  · simp only [skipped, if_true]
    exact .inl (laws.refl run.console)
  · simp only [skipped]
    apply EndsOrStores.ofExcept_bind laws.toReflexive
    intro value expanded
    cases registered : run.console.commands.get? StoreKind.variables.commandName with
    | none => exact .inl (EndsBy.refuse laws.toReflexive _)
    | some command =>
        have bothSupplied : ∀ token ∈ [Token.literal assignment.name, value],
            run.console.Supplied token :=
          List.forall_mem_cons.mpr ⟨.word assignment.name,
            List.forall_mem_singleton.mpr (supplied.value expanded)⟩
        have ends : EndsOrStores outer
            (RunsStore run.console [Token.literal assignment.name, value] · · command) nested run
            (runCommand · command [Token.literal assignment.name, value]) :=
          runCommand_cases laws nestedEnds bothSupplied registered
        exact ends.mono fun _ _ runs =>
          .sign assigns (Bool.eq_false_iff.mpr skipped) expanded registered runs

theorem actOn_endsBy (laws : Delivering inner within without outer) (target : Resolved)
    {arguments : List Token} {run : Run} (supplies : run.console.SuppliesExpanded arguments) :
    EndsBy outer run (deviceAction target arguments >>= fun _ => pure true) :=
  laws.ofWithout (EndsBy.discard laws.effecting.toSequential
    (deviceAction_endsBy laws.effecting target supplies) true)

theorem dispatchToHost_endsBy (laws : Delivering inner within without outer) (name : String)
    {arguments : List Token} (unknown : Fault) {run : Run}
    (supplied : ∀ token ∈ arguments, run.console.Supplied token) :
    EndsBy outer run (dispatchToHost name arguments unknown) := by
  have sequential := laws.effecting.toSequential
  apply EndsBy.console_bind
  split
  · exact EndsBy.fail laws.toReflexive unknown
  · next host isHost =>
      apply EndsBy.ofExcept_bind laws.toReflexive
      intro expanded isExpanded
      have recorded : EndsBy without run (record (.received .host expanded)) :=
        laws.effecting.received .host (suppliesExpanded_of_expandAll supplied isExpanded)
      apply laws.ofWithout
      apply EndsBy.bind sequential recorded
      rintro _ _ ⟨⟩
      let handed : Run := { run with console := run.console.record (.received .host expanded) }
      have stillHost : handed.console.host? = some host := isHost
      have performed : EndsBy without handed
          (perform (host.runBuiltin name (expanded.map Token.argumentValue))) :=
        EndsBy.perform laws.effecting (Console.ExtensionEffect.builtin name
          (expanded.map Token.argumentValue) handed.sink stillHost)
      apply EndsBy.bind sequential performed
      intro succeeded? after _
      cases succeeded? with
      | some succeeded => exact EndsBy.pure sequential succeeded
      | none => exact EndsBy.fail laws.effecting.toReflexive unknown

theorem dispatchName_cases (laws : Delivering inner within without outer)
    (nestedEnds : ∀ job run, EndsBy inner run (nested job)) {name : String} {first : Token}
    {arguments : List Token} {run : Run} (unsigned : assignment? (first :: arguments) = none)
    (isName : first.kind = .literal name)
    (supplied : ∀ token ∈ first :: arguments, run.console.Supplied token) :
    EndsOrStores outer (run.console.StoresFor (first :: arguments)) nested run
      (dispatchName · name first arguments) := by
  have argumentsSupplied := (List.forall_mem_cons.mp supplied).2
  apply EndsOrStores.console_bind
  dsimp only
  cases registered : run.console.commands.get? name with
  | some command =>
      have ends : EndsOrStores outer (RunsStore run.console arguments · · command) nested run
          (runCommand · command arguments) :=
        runCommand_cases laws nestedEnds argumentsSupplied registered
      exact ends.mono fun _ _ runs => .command unsigned isName registered runs
  | none =>
      left
      dsimp only
      split
      · next target _ =>
          apply EndsBy.ofExcept_bind laws.toReflexive
          exact fun _ isExpanded =>
            actOn_endsBy laws target (suppliesExpanded_of_expandAll argumentsSupplied isExpanded)
      · split
        · apply EndsBy.ofExcept_bind laws.toReflexive
          exact fun _ isExpanded =>
            actOn_endsBy laws _ (suppliesExpanded_of_expandAll supplied isExpanded)
        · exact dispatchToHost_endsBy laws name _ argumentsSupplied

/-- An invocation that is in the history already only stores something, or is subject to the rule for
what does not. -/
theorem handOver_cases (laws : Delivering inner within without outer)
    (innerLaws : Sequential inner) (nestedEnds : ∀ job run, EndsBy inner run (nested job))
    {invocation : List Token} {run : Run}
    (dispatched : Event.dispatched invocation ∈ run.console.history) :
    EndsOrStores outer (run.console.StoresFor invocation) nested run (handOver · invocation) := by
  have supplied : ∀ token ∈ invocation, run.console.Supplied token :=
    fun _ member => .own dispatched member
  cases assigns : assignment? invocation with
  | some assignment =>
      simp only [handOver, assigns]
      exact assign_cases laws nestedEnds assigns
        (supplied assignment.value (mem_of_assignment? assigns))
  | none =>
      simp only [handOver, assigns]
      cases invocation with
      | nil => exact .inl (laws.refl run.console)
      | cons first arguments =>
          dsimp only
          cases isKind : first.kind with
          | «variable» name =>
              apply EndsOrStores.console_bind
              apply EndsOrStores.ofExcept_bind laws.toReflexive
              intro value _
              exact .inl (laws.ofWithin
                (replay_endsBy laws.internal.toNesting innerLaws nestedEnds _ run))
          | literal name => exact dispatchName_cases laws nestedEnds assigns isKind supplied
          | _ => exact .inl (EndsBy.fail laws.toReflexive _)

/-- The rule for an invocation that is in the history already. -/
theorem handOver_endsBy (laws : Dispatching inner within without outer)
    (innerLaws : Sequential inner) (nestedEnds : ∀ job run, EndsBy inner run (nested job))
    {invocation : List Token} {run : Run}
    (dispatched : Event.dispatched invocation ∈ run.console.history) :
    EndsBy outer run (handOver nested invocation) := by
  cases handOver_cases laws.toDelivering innerLaws nestedEnds dispatched with
  | inl ends => exact ends
  | inr stores => exact laws.ofWithin (stores.endsBy laws.storing)

/-! ### Dispatch -/

theorem dispatched_mem_record (console : Console) (invocation : List Token) :
    Event.dispatched invocation ∈ (console.record (.dispatched invocation)).history :=
  List.mem_append_right _ (List.mem_singleton_self _)

/-- Dispatch of an invocation is handing it over once the invocation is in the history. -/
theorem dispatch_run (nested : Nested) (invocation : List Token) (run : Run) :
    ∃ sink, dispatch nested invocation run =
      handOver nested invocation ⟨run.console.record (.dispatched invocation), sink⟩ := by
  let recorded : Run := { run with console := run.console.record (.dispatched invocation) }
  have isRecorded : record (.dispatched invocation) run = (.ok (), recorded) := rfl
  unfold dispatch
  rw [bind_run_of_ok isRecorded, session_bind_run]
  dsimp only
  split
  · exact ⟨_, rfl⟩
  · exact ⟨_, rfl⟩

section Following

variable {beginning : Ending} (surrounding : Compositional inner outer)
  (following : Following beginning outer) {invocation : List Token} {run : Run}

include surrounding following

theorem dispatchReporting_endsBy_of_dispatch
    (dispatched : EndsBy beginning run (dispatch nested invocation)) :
    EndsBy beginning run (dispatchReporting nested invocation) := by
  apply EndsBy.follow id following.followed (EndsBy.attempt following.recovered dispatched)
  intro result after _
  cases result with
  | ok succeeded => exact EndsBy.pure surrounding.toSequential succeeded
  | error fault => exact EndsBy.handleFailure surrounding (Token.joinRaw invocation) fault

theorem dispatchAndFollow_endsBy_of_dispatch (reflexive : Reflexive outer)
    (nestedEnds : ∀ job run, EndsBy inner run (nested job))
    (dispatched : EndsBy beginning run (dispatch nested invocation)) :
    EndsBy beginning run (dispatchAndFollow nested invocation) := by
  have reported := dispatchReporting_endsBy_of_dispatch surrounding following dispatched
  apply EndsBy.follow id following.followed (EndsBy.attempt following.recovered reported)
  intro result after _
  apply EndsBy.bind surrounding.toSequential
    (afterInvocation_endsBy surrounding nestedEnds after)
  exact fun _ _ _ => EndsBy.of_quiet reflexive (Silent.ofExcept result).quiet

end Following

section Dispatch

variable {beginning : Ending} (laws : Lawful inner outer)
  (surrounding : Compositional inner outer) (innerLaws : Sequential inner)
  (nestedEnds : ∀ job run, EndsBy inner run (nested job))
  (following : Following beginning outer) {invocation : List Token}
  (recorded : ∀ console, beginning console none (console.record (.dispatched invocation)))

include laws innerLaws nestedEnds following recorded

/-- What holds of entering an invocation into the history holds of its dispatch. -/
theorem dispatch_endsBy (run : Run) : EndsBy beginning run (dispatch nested invocation) := by
  obtain ⟨sink, handed⟩ := dispatch_run nested invocation run
  have entered := dispatched_mem_record run.console invocation
  have ends : EndsBy outer ⟨run.console.record (.dispatched invocation), sink⟩
      (handOver nested invocation) :=
    handOver_endsBy laws.dispatching innerLaws nestedEnds entered
  unfold EndsBy
  rw [handed]
  exact following.followed (recorded run.console) ends

include surrounding

theorem dispatchReporting_endsBy (run : Run) :
    EndsBy beginning run (dispatchReporting nested invocation) :=
  dispatchReporting_endsBy_of_dispatch surrounding following
    (dispatch_endsBy laws innerLaws nestedEnds following recorded run)

theorem dispatchAndFollow_endsBy (run : Run) :
    EndsBy beginning run (dispatchAndFollow nested invocation) :=
  dispatchAndFollow_endsBy_of_dispatch surrounding following laws.toReflexive nestedEnds
    (dispatch_endsBy laws innerLaws nestedEnds following recorded run)

end Dispatch

end Eval

end MachineConsole
