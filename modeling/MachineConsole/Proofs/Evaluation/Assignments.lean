import MachineConsole.Proofs.Evaluation.Capturing
import MachineConsole.Proofs.Evaluation.Expansion
import MachineConsole.Proofs.Evaluation.StoredValues

/-!
Contract: what look-up yields after an assignment.

Owns:
- look-up in a store with one more entry, under the scopes it was made under and under others;
- `VariableStore.Shadows`: when an older entry is found in place of the new one;
- `Console.Assigns`: the invocations that assign, and what each of them does;
- `assignment_readBack`, and `machineScopes_independent_iff` for assignments under other scopes.

An entry has one full name, while a name is looked up under three: as it is, in the scope in effect
and in the global one. Names of machines become scopes by a map that is not injective, and what was
stored in the scope of a machine stays when the machine goes.
-/

namespace MachineConsole

instance (name : String) : Decidable (IsFullName name) :=
  inferInstanceAs (Decidable ('.' ∈ name.toList))

/-! ### Full names -/

namespace Scopes

variable {scopes : Scopes} {name : String}

theorem inScope_toList (scope name : String) :
    (inScope scope name).toList = scope.toList ++ '.' :: name.toList := by
  unfold inScope
  simp

theorem inScope_ne (scope name : String) : inScope scope name ≠ name := by
  intro same
  have lengths := congrArg (fun text => text.toList.length) same
  simp only [inScope_toList, List.length_append, List.length_cons] at lengths
  omega

theorem inScope_injective {scope other : String} (same : inScope scope name = inScope other name) :
    scope = other := by
  have characters := congrArg String.toList same
  rw [inScope_toList, inScope_toList] at characters
  exact String.toList_inj.mp (List.append_cancel_right characters)

/-- The scope that bare names belong to. -/
def inEffect (scopes : Scopes) : String :=
  scopes.current?.getD globalScope

theorem qualify_of_bare (bare : scopes.isBare name = true) :
    scopes.qualify name = inScope scopes.inEffect name :=
  if_pos bare

theorem isBare_of_dotless (dotless : ¬ IsFullName name) : scopes.isBare name = true := by
  unfold isBare headAndRest?
  cases cuts : Text.cut? '.' name.toList with
  | none => rfl
  | some parts => exact absurd (Text.mem_of_cut? cuts) dotless

theorem qualify_ne_of_bare (bare : scopes.isBare name = true) : scopes.qualify name ≠ name := by
  rw [qualify_of_bare bare]
  exact inScope_ne _ name

theorem qualify_of_not_bare (whole : scopes.isBare name = false) : scopes.qualify name = name := by
  unfold qualify
  rw [whole]
  rfl

/-- What a bare name is stored under comes before everything but the name itself. -/
theorem candidates_of_bare (bare : scopes.isBare name = true) :
    ∃ others, scopes.candidates name = name :: scopes.qualify name :: others := by
  rw [qualify_of_bare bare]
  unfold candidates inEffect
  cases scopes.current? with
  | none => exact ⟨[], rfl⟩
  | some scope => exact ⟨[global name], rfl⟩

theorem inScope_mem_candidates_iff {scope : String} :
    inScope scope name ∈ scopes.candidates name ↔
      scopes.current? = some scope ∨ scope = globalScope := by
  unfold candidates Scopes.global
  simp only [List.mem_append, List.mem_singleton, Option.mem_toList, Option.map_eq_some_iff,
    inScope_ne, false_or]
  constructor
  · rintro (⟨current, isCurrent, same⟩ | same)
    · exact .inl (inScope_injective same ▸ isCurrent)
    · exact .inr (inScope_injective same)
  · rintro (isCurrent | rfl)
    · exact .inl ⟨scope, isCurrent, rfl⟩
    · exact .inr rfl

end Scopes

/-! ### Look-up -/

namespace VariableStore

variable (store : VariableStore) (scopes : Scopes) (name : String) (value : Token)

/-- An entry is found in place of the one that a name is stored under: the name is a bare one, and
an older entry has just this name as its full one. -/
def Shadows : Prop :=
  scopes.isBare name = true ∧ ∃ older, store.get? name = some older

instance : Decidable (store.Shadows scopes name) :=
  decidable_of_iff (scopes.isBare name = true ∧ (store.get? name).isSome = true)
    (and_congr_right fun _ => Option.isSome_iff_exists)

variable {store scopes name}

theorem get?_set : (store.set scopes name value).get? (scopes.qualify name) = some value :=
  (get?_insert _ _ _ _).trans (if_pos rfl)

theorem get?_set_of_bare (bare : scopes.isBare name = true) :
    (store.set scopes name value).get? name = store.get? name :=
  (get?_insert _ _ _ _).trans (if_neg (Scopes.qualify_ne_of_bare bare))

/-- An entry whose full name is the name as it is comes before all others. -/
theorem lookup?_of_get? (found : store.get? name = some value) :
    store.lookup? scopes name = some (name, value) := by
  unfold lookup? Scopes.candidates
  rw [List.singleton_append, List.cons_append, List.findSome?_cons, found]
  rfl

theorem lookup?_set_of_not_shadows (unshadowed : ¬ store.Shadows scopes name) :
    (store.set scopes name value).lookup? scopes name = some (scopes.qualify name, value) := by
  have stored : (store.set scopes name value).get? (scopes.qualify name) = some value :=
    get?_set value
  cases bare : scopes.isBare name with
  | true =>
      obtain ⟨others, candidates⟩ := Scopes.candidates_of_bare bare
      have absent : (store.set scopes name value).get? name = none := by
        rw [get?_set_of_bare value bare]
        exact Option.eq_none_iff_forall_ne_some.mpr fun older found =>
          unshadowed ⟨bare, older, found⟩
      unfold lookup?
      rw [candidates, List.findSome?_cons, absent, Option.map_none, List.findSome?_cons, stored]
      rfl
  | false =>
      rw [Scopes.qualify_of_not_bare bare] at stored ⊢
      exact lookup?_of_get? value stored

theorem lookup?_set_of_shadows (bare : scopes.isBare name = true) {older : Token}
    (found : store.get? name = some older) :
    (store.set scopes name value).lookup? scopes name = some (name, older) :=
  lookup?_of_get? older ((get?_set_of_bare value bare).trans found)

/-- What was just stored is found unless it is shadowed. -/
theorem lookup?_set_iff :
    (store.set scopes name value).lookup? scopes name = some (scopes.qualify name, value) ↔
      ¬ store.Shadows scopes name := by
  constructor
  · rintro found ⟨bare, older, present⟩
    rw [lookup?_set_of_shadows value bare present] at found
    exact Scopes.qualify_ne_of_bare bare (congrArg Prod.fst (Option.some.inj found)).symm
  · exact lookup?_set_of_not_shadows value

theorem not_shadows_of_not_contains (unknown : store.contains scopes name = false) :
    ¬ store.Shadows scopes name := by
  rintro ⟨_, older, present⟩
  unfold contains at unknown
  rw [lookup?_of_get? older present] at unknown
  cases unknown

/-- In a store where every name is a full one, a shadowed name looks like a full one. -/
theorem Sound.isFullName_of_shadows (sound : store.Sound) (shadowed : store.Shadows scopes name) :
    IsFullName name := by
  obtain ⟨_, older, present⟩ := shadowed
  exact (sound name older present).1

/-- An entry that a name cannot mean does not matter for its look-up. -/
theorem lookup?_insert_of_not_mem {inserted : String} (apart : inserted ∉ scopes.candidates name) :
    (store.insert inserted value).lookup? scopes name = store.lookup? scopes name := by
  unfold lookup?
  generalize scopes.candidates name = candidates at apart ⊢
  induction candidates with
  | nil => rfl
  | cons candidate rest inductionHypothesis =>
      rw [List.mem_cons, not_or] at apart
      rw [List.findSome?_cons, List.findSome?_cons, get?_insert, if_neg apart.1,
        inductionHypothesis apart.2]

/-- An entry that a name can mean matters at least where there is no other. -/
theorem lookup?_empty_insert_ne {inserted : String} (member : inserted ∈ scopes.candidates name) :
    (empty.insert inserted value).lookup? scopes name ≠ empty.lookup? scopes name := by
  have nothing : empty.lookup? scopes name = none := by
    apply List.findSome?_eq_none_iff.mpr
    intro candidate _
    rw [get?_empty]
    rfl
  rw [nothing]
  intro missed
  have unfound := List.findSome?_eq_none_iff.mp missed inserted member
  rw [get?_insert, if_pos rfl] at unfound
  cases unfound

/-- Storing under a bare name never matters for its look-up under other scopes exactly when the scope
that it is stored in is neither in effect there nor the global one. -/
theorem forall_lookup?_set_iff {setting reading : Scopes}
    (bare : setting.isBare name = true) :
    (∀ (store : VariableStore) (value : Token),
        (store.set setting name value).lookup? reading name = store.lookup? reading name) ↔
      reading.current? ≠ some setting.inEffect ∧ setting.inEffect ≠ Scopes.globalScope := by
  unfold VariableStore.set
  rw [Scopes.qualify_of_bare bare]
  constructor
  · intro independent
    apply not_or.mp
    intro found
    exact lookup?_empty_insert_ne (Token.integer 0) (Scopes.inScope_mem_candidates_iff.mpr found)
      (independent _ _)
  · intro apart store value
    apply lookup?_insert_of_not_mem
    exact fun member => not_or.mpr apart (Scopes.inScope_mem_candidates_iff.mp member)

end VariableStore

/-! ### Assignments -/

namespace Console

/-- The invocations that assign, with the store, the name and the token that is given as the value.
A mark for a block is no value, and a conditional assignment is one only to a name without a value. -/
inductive Assigns (console : Console) : List Token → StoreKind → String → Token → Prop
  | command {kind : StoreKind} {word raw : String} {name value : Token}
      (means : console.commands.get? word = some (.builtin (.store kind)))
      (isName : TokenPattern.name.accepts name = true) (isValue : value.kind ≠ .terminator) :
      Assigns console [⟨.literal word, raw⟩, name, value] kind name.word value
  | sign {invocation : List Token} {assignment : Eval.Assignment}
      (means : console.Stores .variables)
      (assigns : Eval.assignment? invocation = some assignment)
      (isValue : assignment.value.kind ≠ .terminator)
      (unskipped : assignment.conditional = true →
        console.session.variableStore.contains console.scopes assignment.name = false) :
      Assigns console invocation .variables assignment.name assignment.value

variable {console : Console} {invocation : List Token} {kind : StoreKind} {name : String}
  {value stored : Token}

theorem store_storeValue (console : Console) (kind : StoreKind) (name : String) (value : Token) :
    (console.storeValue kind name value).session.store kind =
      (console.session.store kind).set console.scopes name value :=
  Session.store_updateStore _ _ _

theorem scopes_storeValue (console : Console) (kind : StoreKind) (name : String) (value : Token) :
    (console.storeValue kind name value).scopes = console.scopes := by
  cases kind <;> rfl

/-- What is recorded does not change what assigns. -/
theorem Assigns.record (assigns : console.Assigns invocation kind name value) (event : Event) :
    (console.record event).Assigns invocation kind name value := by
  cases assigns with
  | command means isName isValue => exact .command means isName isValue
  | sign means assigns isValue unskipped => exact .sign means assigns isValue unskipped

/-- The value of a token stands for itself, and it is no mark for a block. -/
theorem expand_value (sound : console.session.Sound) (isValue : value.kind ≠ .terminator)
    (expanded : console.expand value = .ok stored) :
    console.expand stored = .ok stored ∧ stored.kind ≠ .terminator := by
  have isOther : stored.isVariable = false ∧ stored.kind ≠ .terminator := by
    obtain storable | ⟨rfl, isOther⟩ := sound.values.expand expanded
    · exact (Token.isStorable_iff.mp storable).2
    · exact ⟨isOther, isValue⟩
  refine ⟨VariableStore.expand_of_other ?_, isOther.2⟩
  intro word isWord
  have isVariable := isOther.1
  unfold Token.isVariable at isVariable
  rw [isWord] at isVariable
  cases isVariable

end Console

namespace Eval

variable {nested : Nested} {run : Run} {invocation : List Token} {kind : StoreKind}
  {name : String} {value stored : Token}

theorem choose?_storeValue {nameToken : Token}
    (isName : TokenPattern.name.accepts nameToken = true) (isValue : value.kind ≠ .terminator) :
    Signature.choose? (BuiltinCommand.store kind).name (BuiltinCommand.store kind).signatures
      [nameToken, value] = .ok (some (.storeValue kind)) := by
  obtain ⟨nameKind, nameRaw⟩ := nameToken
  obtain ⟨valueKind, valueRaw⟩ := value
  cases valueKind with
  | terminator => exact absurd rfl isValue
  | _ =>
      cases nameKind with
      | literal _ => rfl
      | «variable» _ => rfl
      | _ => cases isName

theorem runCommand_store {nameToken : Token}
    (isName : TokenPattern.name.accepts nameToken = true) (isValue : value.kind ≠ .terminator)
    (expanded : run.console.expand value = .ok stored) :
    runCommand nested (.builtin (.store kind)) [nameToken, value] run =
      (.ok true, { run with console := run.console.storeValue kind nameToken.word stored }) := by
  rw [runCommand_of_chosen (choose?_storeValue isName isValue)]
  exact storeValue_run expanded

theorem assignment?_of_name {first nameToken : Token}
    (isName : TokenPattern.name.accepts nameToken = true) :
    assignment? [first, nameToken, value] = none := by
  obtain ⟨nameKind, nameRaw⟩ := nameToken
  cases nameKind with
  | literal _ => exact ite_self _
  | «variable» _ => exact ite_self _
  | _ => cases isName

/-- Every assignment stores what its value stands for. -/
theorem handOver_assigns (sound : run.console.session.Sound)
    (assigns : run.console.Assigns invocation kind name value)
    (expanded : run.console.expand value = .ok stored) :
    handOver nested invocation run =
      (.ok true, { run with console := run.console.storeValue kind name stored }) := by
  unfold handOver
  cases assigns with
  | @command _ word raw nameToken _ means isName isValue =>
      rw [assignment?_of_name isName]
      change dispatchName nested word ⟨.literal word, raw⟩ [nameToken, value] run = _
      unfold dispatchName
      rw [console_bind_run, means]
      exact runCommand_store isName isValue expanded
  | @sign _ assignment means assigns isValue unskipped =>
      rw [assigns]
      have performed : (assignment.conditional &&
          run.console.session.variableStore.contains run.console.scopes assignment.name) = false := by
        cases conditional : assignment.conditional with
        | false => rfl
        | true => rw [unskipped conditional, Bool.and_false]
      obtain ⟨settled, isStored⟩ := Console.expand_value sound isValue expanded
      change assign nested assignment run = _
      unfold assign
      have given : ofExcept (Except.ok stored) run = (.ok stored, run) := rfl
      rw [console_bind_run, if_neg (by rw [performed]; exact Bool.false_ne_true), expanded,
        bind_run_of_ok given, means]
      exact runCommand_store rfl isStored settled

/-- An assignment by a sign that is made on condition is never shadowed. -/
theorem not_shadows_of_conditional {assignment : Assignment}
    (assigns : run.console.Assigns invocation kind name value)
    (reads : assignment? invocation = some assignment) (conditional : assignment.conditional = true) :
    ¬ (run.console.session.store kind).Shadows run.console.scopes name := by
  cases assigns with
  | command _ isName _ =>
      rw [assignment?_of_name isName] at reads
      cases reads
  | sign _ assigns _ unskipped =>
      rw [assigns] at reads
      cases reads
      exact VariableStore.not_shadows_of_not_contains (unskipped conditional)

/-- An assignment whose value is known succeeds. It leaves the scopes as they are and makes one
entry. -/
theorem assigns_stores (sound : run.console.session.Sound)
    (assigns : run.console.Assigns invocation kind name value)
    (expanded : run.console.expand value = .ok stored) (nested : Nested) :
    ∃ after, dispatch nested invocation run = (.ok true, after) ∧
      after.console.scopes = run.console.scopes ∧
      after.console.session.store kind =
        (run.console.session.store kind).set run.console.scopes name stored := by
  let recorded := run.console.record (.dispatched invocation)
  obtain ⟨sink, handed⟩ := dispatch_run nested invocation run
  have performed : handOver nested invocation ⟨recorded, sink⟩ =
      (.ok true, ⟨recorded.storeValue kind name stored, sink⟩) :=
    handOver_assigns sound (assigns.record (.dispatched invocation)) expanded
  exact ⟨_, handed.trans performed, recorded.scopes_storeValue kind name stored,
    recorded.store_storeValue kind name stored⟩

/-- What was just assigned is found again under the full name that it was stored under, unless its
name is bare under the scopes in effect and an older entry has that name as its full one. Such a name
has a dot in it, and the assignment is not one on condition. -/
theorem assignment_readBack {start : Run} (fresh : start.console.IsFresh)
    (reached : Reached start run) (assigns : run.console.Assigns invocation kind name value)
    (expanded : run.console.expand value = .ok stored) (nested : Nested) :
    ∃ after, dispatch nested invocation run = (.ok true, after) ∧
      after.console.scopes = run.console.scopes ∧
      (after.console.session.store kind).get? (run.console.scopes.qualify name) = some stored ∧
      ((after.console.session.store kind).lookup? after.console.scopes name =
          some (run.console.scopes.qualify name, stored) ↔
        ¬ (run.console.session.store kind).Shadows run.console.scopes name) ∧
      ((run.console.session.store kind).Shadows run.console.scopes name →
        IsFullName name ∧ ∀ assignment, assignment? invocation = some assignment →
          assignment.conditional = false) := by
  have sound := (reached.sound fresh.sound).session
  obtain ⟨after, dispatched, sameScopes, isStored⟩ :=
    assigns_stores sound assigns expanded nested
  refine ⟨after, dispatched, sameScopes, ?_, ?_, ?_⟩
  · rw [isStored]
    exact VariableStore.get?_set stored
  · rw [isStored, sameScopes]
    exact VariableStore.lookup?_set_iff stored
  · intro shadowed
    refine ⟨(sound.store kind).isFullName_of_shadows shadowed, ?_⟩
    intro assignment reads
    cases conditional : assignment.conditional with
    | false => rfl
    | true => exact absurd shadowed (not_shadows_of_conditional assigns reads conditional)

/-- A value for a name in the scope of the current machine. -/
def assigningTokens : List Token :=
  [Token.literal "set", Token.literal "x", Token.integer 5]

theorem assignment_readBack_bare :
    (afterLines ["mach create \"a\""]).console.Assigns assigningTokens .variables "x"
      (Token.integer 5) ∧
    ∃ after, dispatch (Eval.run recursionBound) assigningTokens (afterLines ["mach create \"a\""]) =
        (.ok true, after) ∧
      (after.console.session.store .variables).lookup? after.console.scopes "x" =
        some ("a.x", Token.integer 5) := by
  have reached : Reached (afterLines []) (afterLines ["mach create \"a\""]) :=
    afterLines_reached Reached.start (by decide +kernel)
  have fresh : (afterLines []).console.IsFresh :=
    Shell.freshRun_isFresh emptyWorld Settings.default
  have assigns : (afterLines ["mach create \"a\""]).console.Assigns assigningTokens .variables "x"
      (Token.integer 5) :=
    have stores : (afterLines ["mach create \"a\""]).console.Stores .variables := by
      decide +kernel
    .command stores rfl nofun
  obtain ⟨after, dispatched, _, _, found, _⟩ :=
    assignment_readBack fresh reached assigns rfl (Eval.run recursionBound)
  have qualified : (afterLines ["mach create \"a\""]).console.scopes.qualify "x" = "a.x" := by
    decide +kernel
  rw [qualified] at found
  exact ⟨assigns, after, dispatched, found.mpr (by decide +kernel)⟩

/-- A name that was scoped when it was stored is bare once its machine is gone, and its old entry is
found in place of every new one. -/
theorem assignment_shadowed :
    ∃ before, Reached (Shell.freshRun emptyWorld Settings.default) before ∧
      before.console.Assigns [Token.literal "set", Token.literal "foo.x", Token.integer 2]
        .variables "foo.x" (Token.integer 2) ∧
      ∃ after, dispatch (Eval.run recursionBound)
          [Token.literal "set", Token.literal "foo.x", Token.integer 2] before = (.ok true, after) ∧
        after.console.scopes = before.console.scopes ∧
        (after.console.session.store .variables).get? (before.console.scopes.qualify "foo.x") =
          some (Token.integer 2) ∧
        (after.console.session.store .variables).lookup? after.console.scopes "foo.x" =
          some ("foo.x", Token.integer 1) := by
  let before := afterLines ["mach rem \"foo\"", "set foo.x 1", "mach add \"foo\""]
  have reached : Reached (Shell.freshRun emptyWorld Settings.default) before := by
    apply afterLines_reached
    · apply afterLines_reached
      · exact afterLines_reached Reached.start (by decide +kernel)
      · decide +kernel
    · decide +kernel
  have stores : before.console.Stores .variables := by decide +kernel
  have sound := (reached.sound (Shell.freshRun_isFresh emptyWorld Settings.default).sound).session
  have assigns : before.console.Assigns
      [Token.literal "set", Token.literal "foo.x", Token.integer 2] .variables "foo.x"
      (Token.integer 2) :=
    .command stores rfl nofun
  obtain ⟨after, dispatched, sameScopes, isStored⟩ :=
    assigns_stores sound assigns rfl (Eval.run recursionBound)
  refine ⟨before, reached, assigns, after, dispatched, sameScopes, ?_, ?_⟩
  · rw [isStored]
    exact VariableStore.get?_set _
  · rw [isStored, sameScopes]
    exact VariableStore.lookup?_set_of_shadows _ (by decide +kernel) (by decide +kernel)

end Eval

/-! ### Scopes of machines -/

namespace Console

open Eval

/-- Setting a name without a dot while one machine is current never changes what the name stands for
while another one is, exactly when the scopes made of their names differ and the scope of the first
is not the global one. -/
theorem machineScopes_independent_iff (console : Console) (setting reading : MachineHandle)
    {name : String} (dotless : ¬ IsFullName name) :
    (∀ (store : VariableStore) (value : Token),
      (store.set (console.selectMachine (some setting)).scopes name value).lookup?
          (console.selectMachine (some reading)).scopes name =
        store.lookup? (console.selectMachine (some reading)).scopes name) ↔
      scopeName setting.name ≠ scopeName reading.name ∧
        scopeName setting.name ≠ Scopes.globalScope := by
  have bare : (console.selectMachine (some setting)).scopes.isBare name = true :=
    Scopes.isBare_of_dotless dotless
  rw [VariableStore.forall_lookup?_set_iff bare]
  change some (scopeName reading.name) ≠ some (scopeName setting.name) ∧ _ ↔ _
  rw [ne_eq, Option.some.injEq, eq_comm]
  rfl

/-- Two machines with a scope each. -/
def machineLines : List String :=
  ["mach add \"b\"", "mach add \"a\""]

theorem machineScopes_independent_letters :
    ¬ IsFullName "x" ∧ ∀ (store : VariableStore) (value : Token),
      (store.set ((afterLines machineLines).console.selectMachine (some ⟨0, "a"⟩)).scopes "x"
          value).lookup? ((afterLines machineLines).console.selectMachine (some ⟨1, "b"⟩)).scopes "x" =
        store.lookup? ((afterLines machineLines).console.selectMachine (some ⟨1, "b"⟩)).scopes "x" := by
  have dotless : ¬ IsFullName "x" := by decide +kernel
  refine ⟨dotless, ?_⟩
  apply (machineScopes_independent_iff _ ⟨0, "a"⟩ ⟨1, "b"⟩ dotless).mpr
  decide +kernel

/-- Machines whose names differ only in dots and dashes share a scope, and that of a machine named
after the global one is seen by all. -/
theorem machineScopes_dependent :
    ∃ after, Reached (Shell.freshRun emptyWorld Settings.default) after ∧
      ∀ name ∈ ["a.b", "global"], ∃ setting ∈ after.console.emulation.machines,
        setting.name = name ∧ ∃ reading ∈ after.console.emulation.machines,
          setting ≠ reading ∧
          (VariableStore.empty.set (after.console.selectMachine (some setting)).scopes "x"
              (Token.integer 1)).lookup? (after.console.selectMachine (some reading)).scopes "x" ≠
            VariableStore.empty.lookup? (after.console.selectMachine (some reading)).scopes "x" := by
  let after := afterLines ["mach add \"global\"", "mach add \"a.b\"", "mach add \"a-b\""]
  have reached : Reached (Shell.freshRun emptyWorld Settings.default) after := by
    apply afterLines_reached
    · apply afterLines_reached
      · exact afterLines_reached Reached.start (by decide +kernel)
      · decide +kernel
    · decide +kernel
  refine ⟨after, reached, ?_⟩
  decide +kernel

end Console

end MachineConsole
