import MachineConsole.Console.Stub
import MachineConsole.Proofs.Evaluation.CurrentMachine
import MachineConsole.Proofs.Evaluation.Quiescence
import MachineConsole.Proofs.Lexing.Blocks

/-!
Contract: values over several lines, typed and in scripts.

Owns:
- what the command for a store does in each of its forms;
- the course of a capture: how it begins, one line of it, all of its lines, and its end;
- `block_binds`: lines given one by one and the same lines given as one text bind a name to the same
  text.
-/

namespace MachineConsole

open LexicalRule Tokenization
open Script (blockLine)

namespace Console

/-- The console with another progress of a capture. -/
def withCapture (console : Console) (capture : Capture) : Console :=
  console.updateSession fun session => session.withCapture capture

/-- The word for a store means the command that every console has for it. -/
def Stores (console : Console) (kind : StoreKind) : Prop :=
  console.commands.get? kind.commandName = some (.builtin (.store kind))

instance (console : Console) (kind : StoreKind) : Decidable (console.Stores kind) :=
  match found : console.commands.get? kind.commandName with
  | some (.builtin command) =>
    decidable_of_iff (command = .store kind) (by
      unfold Stores
      rw [found, Option.some.injEq, Command.builtin.injEq])
  | some (.added _) => isFalse fun stores => nomatch found.symm.trans stores
  | none => isFalse fun stores => nomatch found.symm.trans stores

end Console

namespace Eval

/-- The tokens of a line that stores something. -/
def storeTokens (kind : StoreKind) (name : String) (rest : List Token) : List Token :=
  Token.literal kind.commandName :: Token.literal name :: rest

variable {nested : Nested} {run : Run} {kind : StoreKind} {name : String}

/-! ### The command for a store -/

theorem handOver_store (stores : run.console.Stores kind) (rest : List Token) :
    handOver nested (storeTokens kind name rest) run =
      runCommand nested (.builtin (.store kind)) (Token.literal name :: rest) run := by
  have unassigned : assignment? (storeTokens kind name rest) = none := by
    cases rest with
    | nil => rfl
    | cons value more =>
        cases more with
        | nil => rfl
        | cons _ _ => rfl
  unfold handOver
  rw [unassigned]
  change dispatchName nested kind.commandName (Token.literal kind.commandName)
    (Token.literal name :: rest) run = _
  unfold dispatchName
  rw [console_bind_run, stores]

theorem runCommand_of_chosen {builtin : BuiltinCommand} {arguments : List Token}
    {form : BuiltinForm}
    (chosen : Signature.choose? builtin.name builtin.signatures arguments = .ok (some form)) :
    runCommand nested (.builtin builtin) arguments run =
      Builtin.runForm nested form arguments run := by
  have isChosen : chooseForm (Command.builtin builtin).name builtin.signatures arguments run =
      (.ok (some form, arguments), run) := chooseForm_of_chosen chosen
  change runChosen (.builtin builtin) builtin.signatures (Builtin.runForm nested) arguments run = _
  unfold runChosen
  rw [bind_run_of_ok isChosen]

theorem beginCapture_run (opened : Bool) (rest : List Token) :
    Builtin.beginCapture kind opened (Token.literal name :: rest) run =
      (.ok true, { run with console := run.console.beginCapture kind name opened }) := by
  unfold Builtin.beginCapture
  rw [bind_run_of_ok (Builtin.wordArgument_run rfl run)]
  rfl

/-- With a value, what the value stands for is stored. -/
theorem storeValue_run {nameToken value stored : Token}
    (expanded : run.console.expand value = .ok stored) :
    Builtin.storeValue kind [nameToken, value] run =
      (.ok true, { run with console := run.console.storeValue kind nameToken.word stored }) := by
  unfold Builtin.storeValue
  rw [bind_run_of_ok (Builtin.wordArgument_run rfl run), console_bind_run,
    bind_run_of_ok (Builtin.argument_run rfl run), expanded]
  rfl

/-- With a name alone, the command waits for a block. -/
theorem handOver_awaiting (stores : run.console.Stores kind) :
    handOver nested (storeTokens kind name []) run =
      (.ok true, { run with console := run.console.beginCapture kind name false }) := by
  have chosen : Signature.choose? (BuiltinCommand.store kind).name
      (BuiltinCommand.store kind).signatures [Token.literal name] = .ok (some (.storeAwait kind)) :=
    rfl
  rw [handOver_store stores, runCommand_of_chosen chosen]
  exact beginCapture_run false []

/-- With a mark behind the name, the block is open. -/
theorem handOver_opening {raw : String} (stores : run.console.Stores kind) :
    handOver nested (storeTokens kind name [⟨.terminator, raw⟩]) run =
      (.ok true, { run with console := run.console.beginCapture kind name true }) := by
  have chosen : Signature.choose? (BuiltinCommand.store kind).name
      (BuiltinCommand.store kind).signatures [Token.literal name, ⟨.terminator, raw⟩] =
        .ok (some (.storeOpen kind)) :=
    rfl
  rw [handOver_store stores, runCommand_of_chosen chosen]
  exact beginCapture_run true [⟨.terminator, raw⟩]

/-- With a text behind the name, the text is stored. -/
theorem handOver_value {text raw : String} (stores : run.console.Stores kind) :
    handOver nested (storeTokens kind name [⟨.string text, raw⟩]) run =
      (.ok true, { run with console := run.console.storeValue kind name ⟨.string text, raw⟩ }) := by
  have chosen : Signature.choose? (BuiltinCommand.store kind).name
      (BuiltinCommand.store kind).signatures [Token.literal name, ⟨.string text, raw⟩] =
        .ok (some (.storeValue kind)) :=
    rfl
  rw [handOver_store stores, runCommand_of_chosen chosen]
  exact storeValue_run rfl

/-! ### Lines -/

/-- Lines given one by one. -/
def typed (lines : List String) (start : Run) : Run :=
  lines.foldl (fun reached line => (evaluate (.line line) reached).2) start

/-- Lines given as one text. -/
def scripted (lines : List String) (start : Run) : Run :=
  (evaluate (.lines (Text.join "\n" lines)) start).2

theorem evaluate_line (line : String) :
    evaluate (.line line) = evaluateLine (Eval.run (recursionBound - 1)) line :=
  rfl

theorem evaluate_lines (text : String) :
    evaluate (.lines text) =
      evaluateLines (Eval.run (recursionBound - 1)) (Script.logicalLines text) :=
  rfl

/-- A line that a capture takes does nothing else. -/
theorem evaluate_line_of_fed {line : String} {fed : Session}
    (taken : run.console.session.feed line = (none, fed)) :
    (evaluate (.line line) run).2 =
      { run with console := run.console.updateSession fun _ => fed } := by
  rw [evaluate_line, evaluateLine_of_taken taken]
  rfl

/-- A text that is one logical line is evaluated as that line. -/
theorem evaluate_lines_of_single {text : String} {after : Run}
    (single : Script.logicalLines text = [text])
    (evaluated : evaluateLine (Eval.run (recursionBound - 2)) text run = (.ok true, after)) :
    (evaluate (.lines text) run).2 = after := by
  have nestedLine : Eval.run (recursionBound - 1) (.line text) run = (.ok true, after) :=
    evaluated
  rw [evaluate_lines, single]
  unfold evaluateLines
  rw [bind_run_of_ok nestedLine]
  rfl

theorem typed_append (first second : List String) (start : Run) :
    typed (first ++ second) start = typed second (typed first start) :=
  List.foldl_append

variable {console : Console} {fullName : String} {sink : Sink}

/-- The lines of a block are kept in order. -/
theorem typed_body (taken : List String) {body : List String}
    (free : ∀ line ∈ body, ¬ terminatorMarks <:+: line.toList) :
    typed body ⟨console.withCapture (.body fullName kind taken), sink⟩ =
      ⟨console.withCapture (.body fullName kind (taken ++ body)), sink⟩ := by
  induction body generalizing taken with
  | nil =>
      rw [List.append_nil]
      rfl
  | cons line rest inductionHypothesis =>
      have fed := console.session.feed_body kind fullName taken (free line List.mem_cons_self)
      have others := inductionHypothesis (taken ++ [line]) fun other member =>
        free other (List.mem_cons_of_mem line member)
      have first : (evaluate (.line line)
          ⟨console.withCapture (.body fullName kind taken), sink⟩).2 =
            ⟨console.withCapture (.body fullName kind (taken ++ [line])), sink⟩ :=
        evaluate_line_of_fed fed
      unfold typed at others ⊢
      rw [List.foldl_cons, first, others, List.append_assoc, List.singleton_append]

/-- The line that closes the block. -/
theorem typed_closing (lines : List String) :
    typed [blockLine] ⟨console.withCapture (.body fullName kind lines), sink⟩ =
      ⟨console.updateSession fun session =>
        (session.withCapture .off).updateStore kind fun entries =>
          entries.insert fullName (Token.string (Text.join "\n" lines)), sink⟩ :=
  evaluate_line_of_fed (console.session.feed_closing kind fullName lines)

/-! ### Blocks -/

/-- The rest of a line that stores something may be a mark or a text. -/
def IsBlockPart (token : Token) : Prop :=
  token.kind = .terminator ∨ ∃ text, token.kind = .string text

/-- A line for the command for a store leads to what the command makes of the console. -/
theorem evaluateLine_store (effect : Console → Console) {line : String} {rest : List Token}
    (off : run.console.session.capture = .off)
    (shallow : run.console.depth < Console.nestingBound)
    (stores : run.console.Stores kind)
    (reads : Reads line.toList (storeTokens kind name rest))
    (parts : ∀ token ∈ rest, IsBlockPart token)
    (handed : ∀ run : Run, run.console.Stores kind →
      handOver nested (storeTokens kind name rest) run =
        (.ok true, { run with console := effect run.console }))
    (quiescent : ∀ history, (effect (run.console.withHistory history)).Quiescent) :
    ∃ history sink, evaluateLine nested line run =
      (.ok true, ⟨effect (run.console.withHistory history), sink⟩) := by
  have suits : ∀ token ∈ storeTokens kind name rest,
      run.console.isPlain token = true ∧ token.isGathered = true := by
    intro token member
    unfold Console.isPlain Token.isGathered
    cases member with
    | head => exact ⟨rfl, rfl⟩
    | tail _ member =>
        cases member with
        | head => exact ⟨rfl, rfl⟩
        | tail _ member =>
            obtain isMark | ⟨text, isText⟩ := parts token member
            · rw [isMark]
              exact ⟨rfl, rfl⟩
            · rw [isText]
              exact ⟨rfl, rfl⟩
  exact ⟨_, evaluateLine_of_handOver off reads
    ⟨List.cons_ne_nil _ _, fun token member => (suits token member).2⟩
    (fun token member => (suits token member).1) shallow
    (fun sink => handed ⟨_, sink⟩ stores) (quiescent _)⟩

variable {start : Run} {opening body : List String}

section Blocks

variable (off : start.console.session.capture = .off)
  (shallow : start.console.depth < Console.nestingBound)
  (quiescent : start.console.Quiescent)
  (stores : start.console.Stores kind)
  (bare : IsBareWord name)
  (isOpening : opening ∈ openings kind name)

include off shallow quiescent stores bare isOpening

/-- After its opening lines, typed one by one, a block is open. -/
theorem typed_opening :
    ∃ history sink, typed opening start =
      ⟨(start.console.withHistory history).withCapture
        (.body (start.console.scopes.qualify name) kind []), sink⟩ := by
  cases isOpening with
  | head =>
      have reads : Reads (storeWords kind name ++ " " ++ blockLine).toList
          (storeTokens kind name [⟨.terminator, blockLine⟩]) := by
        simpa [blockLine, storeTokens] using reads_opening bare kind
      obtain ⟨history, sink, opened⟩ :=
        evaluateLine_store (fun console => console.beginCapture kind name true) off shallow stores
          reads (List.forall_mem_singleton.mpr (Or.inl rfl)) (fun _ => handOver_opening)
          fun _ => ⟨quiescent.settled, quiescent.unrequested⟩
      refine ⟨history, sink, ?_⟩
      unfold typed
      rw [List.foldl_cons, List.foldl_nil, evaluate_line, opened]
      rfl
  | tail _ isSecond =>
      cases List.mem_singleton.mp isSecond
      obtain ⟨history, sink, awaits⟩ :=
        evaluateLine_store (fun console => console.beginCapture kind name false) off shallow stores
          (reads_storeWords bare kind) (List.forall_mem_nil _) (fun _ => handOver_awaiting)
          fun _ => ⟨quiescent.settled, quiescent.unrequested⟩
      refine ⟨history, sink, ?_⟩
      unfold typed
      rw [List.foldl_cons, evaluate_line, awaits]
      exact evaluate_line_of_fed (Session.feed_opening ..)

/-- Given as one text, the lines store the whole block at once. -/
theorem scripted_block (unbroken : ∀ line ∈ body, Text.IsUnbroken line)
    (free : ∀ line ∈ body, ¬ terminatorMarks <:+: line.toList) :
    ∃ history sink raw, scripted (opening ++ body ++ [blockLine]) start =
      ⟨(start.console.withHistory history).storeValue kind name
        ⟨.string (Text.join "\n" body), raw⟩, sink⟩ := by
  obtain ⟨raw, reads⟩ := reads_opened bare isOpening unbroken free
  obtain ⟨history, sink, stored⟩ :=
    evaluateLine_store
      (fun console => console.storeValue kind name ⟨.string (Text.join "\n" body), raw⟩) off
      shallow stores reads (List.forall_mem_singleton.mpr (Or.inr ⟨_, rfl⟩))
      (fun _ => handOver_value) fun _ => ⟨quiescent.settled, quiescent.unrequested⟩
  have single := logicalLines_opened bare isOpening unbroken free
  exact ⟨history, sink, raw, evaluate_lines_of_single single stored⟩

end Blocks

/-- Typed one by one and given as one text, the lines of a block bind a name to the same text and
nothing else. -/
theorem block_binds (start : Run) (kind : StoreKind) (name : String) (body : List String)
    (off : start.console.session.capture = .off)
    (shallow : start.console.depth < Console.nestingBound)
    (quiescent : start.console.Quiescent)
    (stores : start.console.Stores kind)
    (bare : IsBareWord name)
    (unbroken : ∀ line ∈ body, Text.IsUnbroken line)
    (free : ∀ line ∈ body, ¬ terminatorMarks <:+: line.toList) :
    ∀ opening ∈ openings kind name,
      let lines := opening ++ body ++ [blockLine]
      let binds := start.console.session.Binds kind (start.console.scopes.qualify name)
        (Text.join "\n" body)
      binds (typed lines start).console.session ∧ binds (scripted lines start).console.session := by
  intro opening isOpening
  dsimp only
  constructor
  · obtain ⟨history, sink, opened⟩ :=
      typed_opening off shallow quiescent stores bare isOpening
    rw [typed_append, typed_append, opened, typed_body [] free, List.nil_append, typed_closing]
    exact Session.binds_insert kind (start.console.session.store_withCapture .off) _ _ _
  · obtain ⟨history, sink, raw, stored⟩ :=
      scripted_block off shallow quiescent stores bare isOpening unbroken free
    rw [stored]
    exact Session.binds_insert kind rfl _ _ raw

/-- A console with a machine selected, whose scope names belong to. -/
@[irreducible]
def machineRun : Run :=
  afterLines ["mach create \"a\""]

theorem block_binds_quoted :
    machineRun.console.session.Binds .macros "a.x" "say \"one\"\n\n two"
      (typed (["macro x \"\"\""] ++ ["say \"one\"", "", " two"] ++ [blockLine])
        machineRun).console.session ∧
      machineRun.console.session.Binds .macros "a.x" "say \"one\"\n\n two"
        (scripted (["macro x", "\"\"\""] ++ ["say \"one\"", "", " two"] ++ [blockLine])
          machineRun).console.session := by
  have off : machineRun.console.session.capture = .off := by decide +kernel
  have shallow : machineRun.console.depth < Console.nestingBound := by decide +kernel
  have quiescent : machineRun.console.Quiescent := by decide +kernel
  have stores : machineRun.console.Stores .macros := by decide +kernel
  have bare : IsBareWord "x" := by decide +kernel
  have unbroken : ∀ line ∈ ["say \"one\"", "", " two"], Text.IsUnbroken line := by
    decide
  have free : ∀ line ∈ ["say \"one\"", "", " two"], ¬ terminatorMarks <:+: line.toList := by
    decide +kernel
  have qualified : machineRun.console.scopes.qualify "x" = "a.x" := by decide +kernel
  have agree := block_binds machineRun .macros "x" ["say \"one\"", "", " two"] off shallow
    quiescent stores bare unbroken free
  have together : ["macro x \"\"\""] ∈ openings .macros "x" := by decide +kernel
  have apart : ["macro x", "\"\"\""] ∈ openings .macros "x" := by decide +kernel
  rw [qualified] at agree
  exact ⟨(agree _ together).1, (agree _ apart).2⟩

/-- A console whose host has put a command of its own in the place of the one that stores
variables. -/
@[irreducible]
def replacedStoreRun : Run :=
  let fresh := Shell.freshRun emptyWorld Settings.default
  let command := Stub.command "set" [] "" [(Signature.create "store").rest .any] []
    ⟨false, none, none, true⟩
  { fresh with
    console := { fresh.console with commands := fresh.console.commands.register (.added command) } }

/-- A command of the host's may take the place of the one that stores something. -/
theorem block_unbound_replaced :
    ¬ ∀ (start : Run) (kind : StoreKind) (name : String) (body : List String),
      start.console.session.capture = .off →
      start.console.depth < Console.nestingBound →
      start.console.Quiescent →
      IsBareWord name →
      (∀ line ∈ body, Text.IsUnbroken line) →
      (∀ line ∈ body, ¬ terminatorMarks <:+: line.toList) →
      ∀ opening ∈ openings kind name,
        let lines := opening ++ body ++ [blockLine]
        let binds := start.console.session.Binds kind (start.console.scopes.qualify name)
          (Text.join "\n" body)
        binds (typed lines start).console.session ∧
          binds (scripted lines start).console.session := by
  intro always
  have off : replacedStoreRun.console.session.capture = .off := by decide +kernel
  have shallow : replacedStoreRun.console.depth < Console.nestingBound := by decide +kernel
  have quiescent : replacedStoreRun.console.Quiescent := by decide +kernel
  have bare : IsBareWord "x" := by decide +kernel
  have unbound : ((scripted [storeWords .variables "x" ++ " " ++ blockLine, "one", blockLine]
      replacedStoreRun).console.session.store .variables).get?
        (replacedStoreRun.console.scopes.qualify "x") = none := by
    decide +kernel
  have agree := always replacedStoreRun .variables "x" ["one"] off shallow quiescent bare
    (by decide) (by decide +kernel) _ List.mem_cons_self
  obtain ⟨raw, bound⟩ := agree.2.bound
  cases unbound.symm.trans bound

end Eval

end MachineConsole
