import MachineConsole.Proofs.Evaluation.CurrentMachine
import MachineConsole.Proofs.Evaluation.Quiescence

/-!
Contract: what becomes of an invocation in which an unknown variable is to be expanded.

Owns:
- `Console.ownTokens`: the tokens of an invocation that dispatch expands, in the order in which it
  does;
- `invocation_fails_unchanged`: when one of them is an unknown variable, the first of these is what
  the invocation fails with, and nothing else has happened.

Does not own: variables in a text that an invocation stands for, which belong to the invocations of
that text.
-/

namespace MachineConsole

/-! ### Unknown variables -/

namespace VariableStore

variable (store : VariableStore) (scopes : Scopes)

/-- The name of a token that is a variable without a value. -/
def unknownName? (token : Token) : Option String :=
  match token.kind with
  | .variable name => if store.contains scopes name then none else some name
  | _ => none

/-- The name of the first unknown variable. -/
def firstUnknown? (tokens : List Token) : Option String :=
  tokens.findSome? (store.unknownName? scopes)

variable {store scopes}

theorem unknownName?_of_other {token : Token}
    (isOther : ∀ name, token.kind ≠ .variable name) : store.unknownName? scopes token = none := by
  unfold unknownName?
  split
  · next isVariable => exact absurd isVariable (isOther _)
  · rfl

theorem expand_of_other {token : Token} (isOther : ∀ name, token.kind ≠ .variable name) :
    store.expand scopes token = .ok token := by
  unfold expand
  split
  · next isVariable => exact absurd isVariable (isOther _)
  · rfl

/-- A token is expanded, or it is an unknown variable. -/
theorem expand_cases (token : Token) :
    (∃ value, store.unknownName? scopes token = none ∧ store.expand scopes token = .ok value) ∨
      ∃ name, store.unknownName? scopes token = some name ∧
        store.expand scopes token = .error (.noSuchVariable name) := by
  by_cases isVariable : ∃ word, token.kind = .variable word
  · obtain ⟨word, isVariable⟩ := isVariable
    unfold unknownName? expand contains
    rw [isVariable]
    dsimp only
    cases store.lookup? scopes word with
    | some entry => exact Or.inl ⟨entry.2, rfl, rfl⟩
    | none => exact Or.inr ⟨word, rfl, rfl⟩
  · have isOther : ∀ word, token.kind ≠ .variable word := not_exists.mp isVariable
    exact Or.inl ⟨token, unknownName?_of_other isOther, expand_of_other isOther⟩

/-- Expansion of several tokens fails with the first unknown variable among them, and only then. -/
theorem expandAll_eq_error_iff {tokens : List Token} {fault : Fault} :
    store.expandAll scopes tokens = .error fault ↔
      ∃ name, store.firstUnknown? scopes tokens = some name ∧ fault = .noSuchVariable name := by
  unfold expandAll firstUnknown?
  induction tokens with
  | nil =>
      constructor
      · intro failed
        cases failed
      · rintro ⟨name, unknown, _⟩
        cases unknown
  | cons token rest inductionHypothesis =>
      rw [List.mapM_cons, List.findSome?_cons]
      obtain ⟨value, known, expanded⟩ | ⟨name, unknown, failed⟩ :=
        expand_cases token
      · rw [known, expanded]
        dsimp only
        rw [← inductionHypothesis]
        change (rest.mapM (store.expand scopes) >>= fun values => pure (value :: values)) =
          Except.error fault ↔ _
        cases rest.mapM (store.expand scopes) with
        | ok values => exact ⟨nofun, nofun⟩
        | error cause => exact Iff.rfl
      · rw [unknown, failed]
        constructor
        · intro failing
          cases failing
          exact ⟨name, rfl, rfl⟩
        · rintro ⟨_, ⟨⟩, rfl⟩
          rfl

theorem any_isVariable_of_expandAll {tokens : List Token} {fault : Fault}
    (failed : store.expandAll scopes tokens = .error fault) : tokens.any Token.isVariable = true := by
  obtain ⟨name, unknown, _⟩ := expandAll_eq_error_iff.mp failed
  obtain ⟨token, member, isUnknown⟩ := List.exists_of_findSome?_eq_some unknown
  refine List.any_eq_true.mpr ⟨token, member, ?_⟩
  by_cases isVariable : ∃ word, token.kind = .variable word
  · obtain ⟨word, isVariable⟩ := isVariable
    unfold Token.isVariable
    rw [isVariable]
  · rw [unknownName?_of_other (not_exists.mp isVariable)] at isUnknown
    cases isUnknown

end VariableStore

/-! ### The tokens that an invocation expands -/

/-- Which of its arguments a form expands. -/
def BuiltinForm.ownTokens (arguments : List Token) : BuiltinForm → List Token
  | .storeValue _ => arguments[1]?.toList
  | .executeVariable => arguments[0]?.toList
  | .hostSource => arguments[0]?.toList
  | _ => []

/-- Which arguments are expanded once a form was looked for: those that the form expands, or all
when there is none. -/
def Signature.ownTokens {Form : Type} (ofForm : Form → List Token) (arguments : List Token) :
    Except Fault (Option Form) → List Token
  | .error _ => []
  | .ok none => arguments
  | .ok (some form) => ofForm form

/-- Which of its arguments a command expands. -/
def Command.ownTokens (arguments : List Token) : Command → List Token
  | .builtin command =>
    Signature.ownTokens (BuiltinForm.ownTokens arguments) arguments
      (Signature.choose? command.name command.signatures arguments)
  | .added command =>
    Signature.ownTokens (fun _ => []) arguments
      (Signature.choose? command.name command.signatures arguments)

namespace Console

/-- The name of the first unknown variable among tokens. -/
def firstUnknown? (console : Console) (tokens : List Token) : Option String :=
  console.session.variableStore.firstUnknown? console.scopes tokens

/-- What is expanded when a name is dispatched. -/
def tokensOfName (console : Console) (name : String) (first : Token) (arguments : List Token) :
    List Token :=
  match console.commands.get? name with
  | some command => command.ownTokens arguments
  | none =>
    match console.surroundings.resolve name with
    | .ok _ => arguments
    | .error _ =>
      if (console.types.table? (.manager console.manager)).any fun table =>
          table.hasMember name then
        first :: arguments
      else if console.host?.isSome then arguments
      else []

/-- What is expanded when an invocation is dispatched, in order. -/
def ownTokens (console : Console) (invocation : List Token) : List Token :=
  match Eval.assignment? invocation with
  | some assignment =>
    if assignment.conditional &&
        console.session.variableStore.contains console.scopes assignment.name then []
    else [assignment.value]
  | none =>
    match invocation with
    | [] => []
    | first :: arguments =>
      match first.kind with
      | .variable _ => [first]
      | .literal name => console.tokensOfName name first arguments
      | _ => []

end Console

namespace Eval

variable {α β : Type} {nested : Nested} {run : Run} {fault : Fault}

/-- The computation fails and has done nothing. -/
def FailsWith (fault : Fault) (run : Run) (action : Eval α) : Prop :=
  action run = (.error (.failed fault), run)

/-! ### Forms and commands -/

theorem expand_bind_fails {token : Token} (next : Token → Eval β)
    (unknown : run.console.expandAll [token] = .error fault) :
    FailsWith fault run (ofExcept (run.console.expand token) >>= next) := by
  unfold Console.expandAll VariableStore.expandAll at unknown
  rw [List.mapM_cons, List.mapM_nil] at unknown
  unfold Console.expand
  cases expanded : run.console.session.variableStore.expand run.console.scopes token with
  | ok value =>
      rw [expanded] at unknown
      cases unknown
  | error cause =>
      rw [expanded] at unknown
      cases unknown
      rfl

theorem expandAll_bind_fails {tokens : List Token} (next : List Token → Eval β)
    (unknown : run.console.expandAll tokens = .error fault) :
    FailsWith fault run (ofExcept (run.console.expandAll tokens) >>= next) := by
  rw [unknown]
  rfl

theorem expandAll_nil_ne_error : run.console.expandAll [] ≠ .error fault :=
  nofun

/-- A form that expands an argument does so before anything else. -/
theorem runForm_fails {form : BuiltinForm} {arguments : List Token}
    (unknown : run.console.expandAll (form.ownTokens arguments) = .error fault) :
    FailsWith fault run (Builtin.runForm nested form arguments) := by
  have ofArgument {position : Nat}
      (unknown : run.console.expandAll arguments[position]?.toList = .error fault) :
      ∃ token, arguments[position]? = some token ∧
        run.console.expandAll [token] = .error fault := by
    cases found : arguments[position]? with
    | none =>
        rw [found] at unknown
        exact absurd unknown expandAll_nil_ne_error
    | some token =>
        rw [found] at unknown
        exact ⟨token, rfl, unknown⟩
  cases form with
  | storeValue kind =>
      obtain ⟨token, found, unknown⟩ := ofArgument unknown
      have inside : 0 < arguments.length :=
        Nat.lt_of_succ_lt (List.getElem?_eq_some_iff.mp found).1
      have first : arguments[0]? = some arguments[0] := List.getElem?_eq_getElem inside
      change FailsWith fault run (Builtin.storeValue kind arguments)
      unfold FailsWith Builtin.storeValue
      rw [bind_run_of_ok (Builtin.wordArgument_run first run), console_bind_run,
        bind_run_of_ok (Builtin.argument_run found run)]
      exact expand_bind_fails _ unknown
  | executeVariable =>
      obtain ⟨token, found, unknown⟩ := ofArgument unknown
      change FailsWith fault run (Builtin.executeVariable nested arguments)
      unfold FailsWith Builtin.executeVariable
      rw [console_bind_run, bind_run_of_ok (Builtin.argument_run found run)]
      exact expand_bind_fails _ unknown
  | hostSource =>
      obtain ⟨token, found, unknown⟩ := ofArgument unknown
      change FailsWith fault run (Builtin.runHostSource arguments)
      unfold FailsWith Builtin.runHostSource
      rw [console_bind_run, bind_run_of_ok (Builtin.argument_run found run)]
      exact expand_bind_fails _ unknown
  | _ => exact absurd unknown expandAll_nil_ne_error

/-- Where no form accepts the arguments, all of them are expanded. -/
theorem chooseForm_fails {Form : Type} {command : String} {signatures : List (Signature Form)}
    {arguments : List Token} (unaccepted : Signature.choose? command signatures arguments = .ok none)
    (unknown : run.console.expandAll arguments = .error fault) :
    FailsWith fault run (chooseForm command signatures arguments) := by
  have hasVariable := VariableStore.any_isVariable_of_expandAll unknown
  unfold FailsWith chooseForm
  rw [unaccepted, bind_run_of_ok (rfl : ofExcept (.ok none) run = (.ok none, run))]
  dsimp only
  rw [if_pos hasVariable, console_bind_run]
  exact expandAll_bind_fails _ unknown

theorem runChosen_fails {Form : Type} {command : Command} {signatures : List (Signature Form)}
    {runForm : Form → List Token → Eval Bool} {ofForm : Form → List Token}
    {arguments : List Token}
    (runs : ∀ form, run.console.expandAll (ofForm form) = .error fault →
      FailsWith fault run (runForm form arguments))
    (unknown : run.console.expandAll (Signature.ownTokens ofForm arguments
      (Signature.choose? command.name signatures arguments)) = .error fault) :
    FailsWith fault run (runChosen command signatures runForm arguments) := by
  unfold FailsWith runChosen
  cases chosen : Signature.choose? command.name signatures arguments with
  | error cause =>
      rw [chosen] at unknown
      exact absurd unknown expandAll_nil_ne_error
  | ok form? =>
      rw [chosen] at unknown
      cases form? with
      | some form =>
          rw [bind_run_of_ok (chooseForm_of_chosen chosen)]
          exact runs form unknown
      | none => rw [bind_run_of_error (chooseForm_fails chosen unknown)]

theorem runCommand_fails {command : Command} {arguments : List Token}
    (unknown : run.console.expandAll (command.ownTokens arguments) = .error fault) :
    FailsWith fault run (runCommand nested command arguments) := by
  cases command with
  | builtin builtin => exact runChosen_fails (fun _ => runForm_fails) unknown
  | added added =>
      exact runChosen_fails (fun _ absent => absurd absent expandAll_nil_ne_error) unknown

/-! ### Dispatch -/

theorem assign_fails {assignment : Assignment} {tokens : List Token}
    (isOwn : tokens = if assignment.conditional &&
      run.console.session.variableStore.contains run.console.scopes assignment.name then []
      else [assignment.value])
    (unknown : run.console.expandAll tokens = .error fault) :
    FailsWith fault run (assign nested assignment) := by
  unfold FailsWith assign
  rw [console_bind_run]
  split at isOwn
  · rw [isOwn] at unknown
    exact absurd unknown expandAll_nil_ne_error
  · next isAssigned =>
      rw [if_neg isAssigned]
      rw [isOwn] at unknown
      exact expand_bind_fails _ unknown

theorem dispatchToHost_fails {name : String} {arguments : List Token} {unknownName : Fault}
    (isHost : run.console.host?.isSome)
    (unknown : run.console.expandAll arguments = .error fault) :
    FailsWith fault run (dispatchToHost name arguments unknownName) := by
  obtain ⟨host, isHost⟩ := Option.isSome_iff_exists.mp isHost
  unfold FailsWith dispatchToHost
  rw [console_bind_run, isHost]
  exact expandAll_bind_fails _ unknown

theorem dispatchName_fails {name : String} {first : Token} {arguments : List Token}
    (unknown : run.console.expandAll (run.console.tokensOfName name first arguments) =
      .error fault) :
    FailsWith fault run (dispatchName nested name first arguments) := by
  unfold Console.tokensOfName at unknown
  unfold FailsWith dispatchName
  rw [console_bind_run]
  split at unknown
  · next isCommand =>
      rw [isCommand]
      exact runCommand_fails unknown
  · next noCommand =>
      rw [noCommand]
      dsimp only
      split at unknown
      · next isObject =>
          rw [isObject]
          exact expandAll_bind_fails _ unknown
      · next noObject =>
          rw [noObject]
          dsimp only
          split at unknown
          · next isMember =>
              rw [if_pos isMember]
              exact expandAll_bind_fails _ unknown
          · next noMember =>
              rw [if_neg noMember]
              split at unknown
              · next isHost => exact dispatchToHost_fails isHost unknown
              · exact absurd unknown expandAll_nil_ne_error

theorem handOver_fails {invocation : List Token}
    (unknown : run.console.expandAll (run.console.ownTokens invocation) = .error fault) :
    FailsWith fault run (handOver nested invocation) := by
  unfold Console.ownTokens at unknown
  unfold FailsWith handOver
  cases assigned : assignment? invocation with
  | some assignment =>
      rw [assigned] at unknown
      exact assign_fails rfl unknown
  | none =>
      rw [assigned] at unknown
      cases invocation with
      | nil => exact absurd unknown expandAll_nil_ne_error
      | cons first arguments =>
          dsimp only at unknown ⊢
          cases isKind : first.kind with
          | «variable» word =>
              rw [isKind] at unknown
              dsimp only
              rw [console_bind_run]
              exact expand_bind_fails _ unknown
          | literal name =>
              rw [isKind] at unknown
              exact dispatchName_fails unknown
          | _ =>
              rw [isKind] at unknown
              exact absurd unknown expandAll_nil_ne_error

/-! ### Invocations -/

theorem dispatchReporting_of_unexpanded (nested : Nested) {invocation : List Token} {name : String}
    (unexpanded : run.console.expandAll (run.console.ownTokens invocation) =
      .error (.noSuchVariable name)) :
    (dispatch nested invocation run).1 = .error (.failed (.noSuchVariable name)) ∧
      ∃ sink, dispatchReporting nested invocation run =
        (.ok false,
          ⟨(run.console.record (.dispatched invocation)).record
            (.reported (Token.joinRaw invocation) (.noSuchVariable name)), sink⟩) := by
  obtain ⟨sink, dispatched⟩ := dispatch_run nested invocation run
  have failed : FailsWith _ ⟨run.console.record (.dispatched invocation), sink⟩
      (handOver nested invocation) := handOver_fails unexpanded
  rw [failed] at dispatched
  refine ⟨by rw [dispatched], ?_⟩
  unfold dispatchReporting
  rw [bind_run, attempt_run, dispatched]
  exact ⟨_, rfl⟩

/-- An invocation whose own tokens cannot all be expanded fails with the first unknown variable among
them. The failure is reported, and except for the history the console is what it was before. Where
nesting allows it, evaluation of the invocation is this dispatch. -/
theorem invocation_fails_unchanged (nested : Nested) (invocation : List Token) (start : Run)
    (fault : Fault) (quiescent : start.console.Quiescent)
    (plain : ∀ token ∈ invocation, start.console.isPlain token = true)
    (unexpanded : start.console.expandAll (start.console.ownTokens invocation) = .error fault) :
    ∃ name sink, start.console.firstUnknown? (start.console.ownTokens invocation) = some name ∧
      fault = .noSuchVariable name ∧
      (dispatch nested invocation start).1 = .error (.failed fault) ∧
      dispatchAndFollow nested invocation start =
        (.ok false,
          ⟨(start.console.record (.dispatched invocation)).record
            (.reported (Token.joinRaw invocation) fault), sink⟩) ∧
      (start.console.depth < Console.nestingBound →
        evaluateInvocation nested invocation start =
          dispatchAndFollow nested invocation start) := by
  obtain ⟨name, unknown, rfl⟩ := VariableStore.expandAll_eq_error_iff.mp unexpanded
  obtain ⟨failed, sink, reported⟩ := dispatchReporting_of_unexpanded nested unexpanded
  have followed :=
    dispatchAndFollow_of_quiescent reported ⟨quiescent.settled, quiescent.unrequested⟩
  exact ⟨name, sink, unknown, rfl, failed, followed, evaluateInvocation_of_isPlain plain⟩

/-- A console with a machine and one variable. -/
@[irreducible]
def oneVariableRun : Run :=
  afterLines ["mach create \"a\"", "set known 5"]

/-- An action of the manager with one argument that is known and two that are not. -/
@[irreducible]
def partlyUnknown : List Token :=
  (Tokenization.ofText "Clear $known $gone $lost").tokens

theorem invocation_fails_unchanged_clear :
    oneVariableRun.console.expandAll (oneVariableRun.console.ownTokens partlyUnknown) =
        .error (.noSuchVariable "gone") ∧
      ∃ sink, evaluateInvocation (Eval.run 1) partlyUnknown oneVariableRun =
        (.ok false,
          ⟨(oneVariableRun.console.record (.dispatched partlyUnknown)).record
            (.reported (Token.joinRaw partlyUnknown) (.noSuchVariable "gone")), sink⟩) := by
  have quiescent : oneVariableRun.console.Quiescent := by decide +kernel
  have shallow : oneVariableRun.console.depth < Console.nestingBound := by decide +kernel
  have plain : ∀ token ∈ partlyUnknown, oneVariableRun.console.isPlain token = true := by
    decide +kernel
  have unknown : oneVariableRun.console.firstUnknown?
      (oneVariableRun.console.ownTokens partlyUnknown) = some "gone" := by
    decide +kernel
  have unexpanded : oneVariableRun.console.expandAll
      (oneVariableRun.console.ownTokens partlyUnknown) = .error (.noSuchVariable "gone") :=
    VariableStore.expandAll_eq_error_iff.mpr ⟨"gone", unknown, rfl⟩
  obtain ⟨_, sink, _, _, _, followed, evaluated⟩ := invocation_fails_unchanged (Eval.run 1)
    partlyUnknown oneVariableRun _ quiescent plain unexpanded
  exact ⟨unexpanded, sink, (evaluated shallow).trans followed⟩

end Eval

end MachineConsole
