import Mathlib.Data.List.Nodup
import Mathlib.Data.List.Perm.Subperm
import Mathlib.Data.Set.Defs
import Mathlib.Order.Bounds.Defs
import MachineConsole.Proofs.Evaluation.CurrentMachine

/-!
Contract: the machines of an emulation by their names.

Owns:
- `Emulation.Search`, trying generated names one after the other without a bound, and that it ends;
- `Emulation.ChangesBy`, the two ways in which a list of machines changes;
- `MachineCall`, the calls that add, create and remove machines;
- `Eval.machineNames_after_calls`: the names after any calls on a new emulation.

Does not own: what is on a machine.
-/

namespace MachineConsole

namespace Emulation

variable {emulation extended rest : Emulation} {name : String} {machine : MachineHandle}

/-! ### Generated names -/

theorem generatedName_injective : Function.Injective generatedName := by
  intro first second same
  unfold generatedName at same
  rw [String.append_right_inj, Nat.toString_eq_repr, Nat.toString_eq_repr,
    Nat.repr_eq_ofList_toDigits, Nat.repr_eq_ofList_toDigits, String.ofList_inj] at same
  have read := congrArg (fun digits => Nat.ofDigitChars 10 digits 0) same
  simpa only [Nat.ofDigitChars_ten_toDigits] using read

theorem hasMachine_iff : emulation.hasMachine name = true ↔ name ∈ emulation.machineNames := by
  unfold hasMachine machineNames
  simp

theorem hasMachine_eq_false_iff :
    emulation.hasMachine name = false ↔ name ∉ emulation.machineNames := by
  rw [← hasMachine_iff, Bool.not_eq_true]

/-- Among one more generated name than there are machines, one is free. -/
theorem exists_generatedName_not_mem (emulation : Emulation) :
    ∃ count ≤ emulation.machines.length, generatedName count ∉ emulation.machineNames := by
  refine Classical.byContradiction fun noneFree => ?_
  have allTaken : (List.range (emulation.machines.length + 1)).map generatedName ⊆
      emulation.machineNames := by
    intro name member
    obtain ⟨count, inRange, rfl⟩ := List.mem_map.mp member
    refine Classical.byContradiction fun free => noneFree ⟨count, ?_, free⟩
    exact Nat.le_of_lt_succ (List.mem_range.mp inRange)
  have distinct : ((List.range (emulation.machines.length + 1)).map generatedName).Nodup :=
    List.nodup_range.map generatedName_injective
  have sizes := (List.subperm_of_subset distinct allTaken).length_le
  rw [List.length_map, List.length_range, machineNames, List.length_map] at sizes
  exact Nat.not_succ_le_self _ sizes

/-- The fresh name is the free one with the least number. -/
theorem freshName_isLeast (emulation : Emulation) :
    ∃ count ≤ emulation.machines.length, emulation.freshName = generatedName count ∧
      IsLeast {count | generatedName count ∉ emulation.machineNames} count := by
  cases search : (List.range (emulation.machines.length + 1)).find?
      ((fun name => !emulation.hasMachine name) ∘ generatedName) with
  | none =>
      obtain ⟨count, within, free⟩ := exists_generatedName_not_mem emulation
      have taken := List.find?_eq_none.mp search count (List.mem_range.mpr (by omega))
      simp [hasMachine_eq_false_iff.mpr free] at taken
  | some count =>
      obtain ⟨free, inRange, earlier⟩ := List.find?_range_eq_some.mp search
      refine ⟨count, Nat.le_of_lt_succ (List.mem_range.mp inRange), ?_, ?_, ?_⟩
      · unfold freshName
        rw [List.find?_map, search]
        rfl
      · exact hasMachine_eq_false_iff.mp (by simpa using free)
      · intro other otherFree
        refine Nat.le_of_not_lt fun less => ?_
        have taken := earlier other less
        simp [hasMachine_eq_false_iff.mpr otherFree] at taken

/-- Generated names are tried from a number on, without a bound: how many were tried when one was
free, and its number. -/
inductive Search (emulation : Emulation) : (start tries found : Nat) → Prop
  | free {count : Nat} (isFree : emulation.hasMachine (generatedName count) = false) :
      Search emulation count 1 count
  | taken {count tries found : Nat} (isTaken : emulation.hasMachine (generatedName count) = true)
      (later : Search emulation (count + 1) tries found) : Search emulation count (tries + 1) found

theorem search_of_free {start missed : Nat}
    (taken : ∀ count, start ≤ count → count < start + missed →
      emulation.hasMachine (generatedName count) = true)
    (free : emulation.hasMachine (generatedName (start + missed)) = false) :
    emulation.Search start (missed + 1) (start + missed) := by
  induction missed generalizing start with
  | zero => exact Search.free free
  | succ missed inductionHypothesis =>
      have shifted : start + 1 + missed = start + (missed + 1) := by omega
      rw [← shifted] at taken free ⊢
      refine Search.taken (taken start (Nat.le_refl _) (by omega)) (inductionHypothesis ?_ free)
      exact fun count later within => taken count (by omega) within

theorem search_of_isLeast {count : Nat}
    (least : IsLeast {count | generatedName count ∉ emulation.machineNames} count) :
    emulation.Search 0 (count + 1) count := by
  have search : emulation.Search 0 (count + 1) (0 + count) := by
    refine search_of_free (fun earlier _ within => ?_) ?_
    · refine Classical.byContradiction fun free => ?_
      rw [Bool.not_eq_true, hasMachine_eq_false_iff] at free
      have := least.2 free
      omega
    · rw [Nat.zero_add, hasMachine_eq_false_iff]
      exact least.1
  rwa [Nat.zero_add] at search

/-! ### Lists of machines -/

/-- A machine with a new name comes behind the others, or one is taken from between them. -/
inductive ChangesBy (machine : MachineHandle) : List MachineHandle → List MachineHandle → Prop
  | added {machines : List MachineHandle} (isNew : machine.name ∉ machines.map MachineHandle.name) :
      ChangesBy machine machines (machines ++ [machine])
  | removed (front back : List MachineHandle) :
      ChangesBy machine (front ++ machine :: back) (front ++ back)

theorem ChangesBy.distinct {before after : List MachineHandle}
    (changes : ChangesBy machine before after) (distinct : (before.map MachineHandle.name).Nodup) :
    (after.map MachineHandle.name).Nodup := by
  cases changes with
  | added isNew =>
      rw [List.map_append, List.map_singleton]
      exact distinct.append (List.nodup_singleton _) (List.disjoint_singleton.mpr isNew)
  | removed front back =>
      have within : List.Sublist (front ++ back) (front ++ machine :: back) :=
        (List.sublist_cons_self machine back).append_left front
      exact distinct.sublist (within.map _)

theorem addMachine_of_free (machine : MachineHandle)
    (free : emulation.hasMachine machine.name = false) :
    ∃ extended, emulation.addMachine machine = .ok extended := by
  unfold addMachine
  rw [free]
  exact ⟨_, rfl⟩

theorem addMachine_changes (adds : emulation.addMachine machine = .ok extended) :
    ChangesBy machine emulation.machines extended.machines := by
  rw [addMachine_ok adds]
  unfold addMachine at adds
  split at adds
  · cases adds
  · next isNew =>
      rw [hasMachine_iff] at isNew
      exact .added isNew

/-- The removed machine is the one with the name, and the others stay as they were. -/
theorem removeMachine_eq_ok (removes : emulation.removeMachine name = .ok (machine, rest)) :
    machine.name = name ∧ ∃ front back, emulation.machines = front ++ machine :: back ∧
      rest.machines = front ++ back := by
  unfold removeMachine machine? at removes
  split at removes
  · cases removes
  · next found isFound =>
      cases removes
      obtain ⟨named, front, back, split, others⟩ := List.find?_eq_some_iff_append.mp isFound
      refine ⟨eq_of_beq named, front, back, split, ?_⟩
      dsimp only
      rw [split, List.eraseP_append_right _ (by simpa using others)]
      exact congrArg (front ++ ·) (List.eraseP_cons_of_pos named)

end Emulation

/-! ### Creation -/

namespace World

variable {world after : World} {index : Nat} {name? : Option String} {machine : MachineHandle}

/-- Another emulation is at a place, and nothing else has changed about emulations. -/
structure Replaces (index : Nat) (changed : Emulation) (before after : World) : Prop where
  managers : after.managers = before.managers
  emulations : after.emulations = (before.updateEmulation index fun _ => changed).emulations

theorem Replaces.of_update (world : World) (index : Nat) (changed : Emulation) :
    Replaces index changed world (world.updateEmulation index fun _ => changed) :=
  ⟨rfl, rfl⟩

theorem addNewMachine_of_free (name? : Option String)
    (free : (world.emulation index).hasMachine
      (name?.getD (world.emulation index).freshName) = false) :
    ∃ result, world.addNewMachine index name? = .ok result := by
  cases creates : world.addNewMachine index name? with
  | ok result => exact ⟨result, rfl⟩
  | error cause =>
      obtain ⟨extended, adds⟩ := Emulation.addMachine_of_free
        (world.createMachine (name?.getD (world.emulation index).freshName)).1 free
      unfold addNewMachine at creates
      dsimp only at creates
      split at creates
      · next taken => cases free.symm.trans taken
      · rw [adds] at creates
        cases creates

theorem addNewMachine_eq_ok (creates : world.addNewMachine index name? = .ok (machine, after)) :
    machine.name = name?.getD (world.emulation index).freshName ∧
      ∃ extended, (world.emulation index).addMachine machine = .ok extended ∧
        Replaces index extended world after := by
  unfold addNewMachine at creates
  dsimp only at creates
  split at creates
  · cases creates
  · split at creates
    · cases creates
    · next extended adds =>
        cases creates
        exact ⟨rfl, extended, adds, rfl, rfl⟩

end World

/-! ### Calls -/

namespace Eval

theorem changeEmulation_run (change : Emulation → Except Refusal Emulation) (run : Run) :
    changeEmulation change run =
      match change run.console.emulation with
      | .ok changed => (.ok (), ⟨run.console.withWorld
          (run.console.world.updateEmulation run.console.emulationIndex fun _ => changed),
          run.sink⟩)
      | .error cause => (.error (.failed (.refused cause)), run) := by
  unfold changeEmulation
  rw [console_bind_run]
  cases changes : change run.console.emulation with
  | ok changed => rfl
  | error cause => rfl

theorem removeMachine_run (name : String) (run : Run) :
    removeMachine name run =
      match run.console.emulation.removeMachine name with
      | .ok (removed, rest) => (.ok removed, ⟨run.console.withWorld
          (run.console.world.updateEmulation run.console.emulationIndex fun _ => rest),
          run.sink⟩)
      | .error cause => (.error (.failed (.refused cause)), run) := by
  unfold removeMachine
  rw [console_bind_run]
  cases removes : run.console.emulation.removeMachine name with
  | ok result => rfl
  | error cause => rfl

end Eval

/-- A call that is about the machines of the current emulation. -/
inductive MachineCall where
  | add (machine : MachineHandle)
  | create (name? : Option String)
  | remove (name : String)

/-- What a call does, with the machine that it is about. -/
def MachineCall.action : MachineCall → Eval MachineHandle
  | .add machine => do
    Eval.changeEmulation fun emulation => emulation.addMachine machine
    return machine
  | .create name? => Builtin.createMachine name?
  | .remove name => Eval.removeMachine name

/-- The run after calls, one after the other. -/
def Run.afterCalls (run : Run) (calls : List MachineCall) : Run :=
  calls.foldl (fun run call => (call.action run).2) run

/-- A call is refused and changes nothing, or changes the machines in one of the two ways. -/
theorem MachineCall.action_cases (call : MachineCall) (run : Run) :
    (∃ cause, call.action run = (.error (.failed (.refused cause)), run)) ∨
      ∃ machine changed world,
        call.action run = (.ok machine, ⟨run.console.withWorld world, run.sink⟩) ∧
        run.console.world.Replaces run.console.emulationIndex changed world ∧
        Emulation.ChangesBy machine run.console.emulation.machines changed.machines := by
  cases call with
  | add machine =>
      rw [action, bind_run, Eval.changeEmulation_run]
      cases adds : run.console.emulation.addMachine machine with
      | error cause => exact Or.inl ⟨cause, rfl⟩
      | ok extended =>
          exact Or.inr ⟨machine, extended, _, rfl, .of_update _ _ _,
            Emulation.addMachine_changes adds⟩
  | create name? =>
      rw [action, Builtin.createMachine_run]
      cases creates : run.console.world.addNewMachine run.console.emulationIndex name? with
      | error cause => exact Or.inl ⟨cause, rfl⟩
      | ok result =>
          obtain ⟨_, extended, adds, replaces⟩ := World.addNewMachine_eq_ok creates
          exact Or.inr ⟨result.1, extended, result.2, rfl, replaces,
            Emulation.addMachine_changes adds⟩
  | remove name =>
      rw [action, Eval.removeMachine_run]
      cases removes : run.console.emulation.removeMachine name with
      | error cause => exact Or.inl ⟨cause, rfl⟩
      | ok result =>
          obtain ⟨_, front, back, split, left⟩ := Emulation.removeMachine_eq_ok removes
          refine Or.inr ⟨result.1, result.2, _, rfl, .of_update _ _ _, ?_⟩
          rw [split, left]
          exact .removed front back

/-- The current emulation is one of the world, and its machines have distinct names. -/
structure Console.HasDistinctMachines (console : Console) : Prop where
  present : console.emulationIndex < console.world.emulations.size
  distinct : console.emulation.machineNames.Nodup

namespace Console

variable {console : Console} {changed : Emulation} {world : World}

theorem emulation_of_replaces (present : console.emulationIndex < console.world.emulations.size)
    (replaces : console.world.Replaces console.emulationIndex changed world) :
    (console.withWorld world).emulationIndex = console.emulationIndex ∧
      (console.withWorld world).emulation = changed := by
  have sameIndex : (console.withWorld world).emulationIndex = console.emulationIndex := by
    change (world.manager console.manager).current = (console.world.manager console.manager).current
    rw [World.manager, World.manager, replaces.managers]
  refine ⟨sameIndex, ?_⟩
  rw [emulation, sameIndex]
  change world.emulation console.emulationIndex = changed
  rw [World.emulation, replaces.emulations]
  exact World.updateEmulation_emulation present _

theorem HasDistinctMachines.withWorld {machine : MachineHandle}
    (distinct : console.HasDistinctMachines)
    (replaces : console.world.Replaces console.emulationIndex changed world)
    (changes : Emulation.ChangesBy machine console.emulation.machines changed.machines) :
    (console.withWorld world).HasDistinctMachines := by
  obtain ⟨sameIndex, isChanged⟩ := emulation_of_replaces distinct.present replaces
  refine ⟨?_, ?_⟩
  · rw [sameIndex]
    change console.emulationIndex < world.emulations.size
    rw [replaces.emulations, World.updateEmulation_size]
    exact distinct.present
  · rw [isChanged]
    exact changes.distinct distinct.distinct

end Console

theorem MachineCall.action_distinct {run : Run} (distinct : run.console.HasDistinctMachines)
    (call : MachineCall) : (call.action run).2.console.HasDistinctMachines := by
  rcases call.action_cases run with
    ⟨cause, refused⟩ | ⟨machine, changed, world, performed, replaces, changes⟩
  · rw [refused]
    exact distinct
  · rw [performed]
    exact distinct.withWorld replaces changes

theorem Run.afterCalls_distinct {run : Run} (distinct : run.console.HasDistinctMachines)
    (calls : List MachineCall) : (run.afterCalls calls).console.HasDistinctMachines := by
  induction calls generalizing run with
  | nil => exact distinct
  | cons call rest inductionHypothesis => exact inductionHypothesis (call.action_distinct distinct)

theorem Shell.freshRun_hasDistinctMachines (world : World) (settings : Settings) :
    (Shell.freshRun world settings).console.HasDistinctMachines := by
  refine ⟨(Shell.freshRun_coherent world settings).valid, ?_⟩
  have noMachines : (Shell.freshRun world settings).console.emulation.machines = [] :=
    World.createManager_machines world
  rw [Emulation.machineNames, noMachines]
  exact List.nodup_nil

/-- Removal leaves the others in their order. -/
theorem Eval.removeMachine_eq_ok {run after : Run} {name : String} {removed : MachineHandle}
    (present : run.console.emulationIndex < run.console.world.emulations.size)
    (removes : removeMachine name run = (.ok removed, after)) :
    removed.name = name ∧ ∃ front back,
      run.console.emulation.machines = front ++ removed :: back ∧
        after.console.emulation.machines = front ++ back := by
  rw [removeMachine_run] at removes
  cases found : run.console.emulation.removeMachine name with
  | error cause =>
      rw [found] at removes
      cases removes
  | ok result =>
      rw [found] at removes
      cases removes
      obtain ⟨named, front, back, split, left⟩ := Emulation.removeMachine_eq_ok found
      refine ⟨named, front, back, split, ?_⟩
      rw [(Console.emulation_of_replaces present (.of_update _ _ _)).2, left]

/-- A machine can be created without a name. -/
theorem Builtin.createMachine_none {run : Run}
    (present : run.console.emulationIndex < run.console.world.emulations.size) :
    ∃ machine after, createMachine none run = (.ok machine, after) ∧
      machine.name = run.console.emulation.freshName ∧
      after.console.emulation.machines = run.console.emulation.machines ++ [machine] := by
  obtain ⟨count, _, isFresh, free, _⟩ := Emulation.freshName_isLeast run.console.emulation
  have freshIsFree :
      run.console.emulation.hasMachine run.console.emulation.freshName = false := by
    rw [isFresh]
    exact Emulation.hasMachine_eq_false_iff.mpr free
  obtain ⟨⟨machine, world⟩, creates⟩ := World.addNewMachine_of_free none freshIsFree
  obtain ⟨named, extended, adds, replaces⟩ := World.addNewMachine_eq_ok creates
  refine ⟨machine, ⟨run.console.withWorld world, run.sink⟩, ?_, named, ?_⟩
  · rw [createMachine_run, creates]
  · rw [(Console.emulation_of_replaces present replaces).2, Emulation.addMachine_ok adds]
    rfl

/-! ### Main result -/

namespace Eval

/-- The calls on a new emulation leave machines with distinct names. One that fails changes nothing,
removal leaves the others in their order, and a machine can always be created without a name: trying
generated names ends, with the free one that has the least number, after at most one more try than
there are machines. -/
theorem machineNames_after_calls (world : World) (settings : Settings)
    (calls : List MachineCall) :
    let run := (Shell.freshRun world settings).afterCalls calls
    let emulation := run.console.emulation
    emulation.machineNames.Nodup ∧
      (∀ (call : MachineCall) stop after, call.action run = (.error stop, after) → after = run) ∧
      (∀ name removed after, removeMachine name run = (.ok removed, after) →
        removed.name = name ∧ ∃ front back, emulation.machines = front ++ removed :: back ∧
          after.console.emulation.machines = front ++ back) ∧
      ∃ count tries machine after,
        IsLeast {count | Emulation.generatedName count ∉ emulation.machineNames} count ∧
        emulation.Search 0 tries count ∧ tries ≤ emulation.machines.length + 1 ∧
        Builtin.createMachine none run = (.ok machine, after) ∧
        machine.name = Emulation.generatedName count ∧
        after.console.emulation.machines = emulation.machines ++ [machine] := by
  intro run emulation
  have distinct : run.console.HasDistinctMachines :=
    Run.afterCalls_distinct (Shell.freshRun_hasDistinctMachines world settings) calls
  refine ⟨distinct.distinct, ?_, ?_, ?_⟩
  · intro call stop after fails
    rcases call.action_cases run with ⟨cause, refused⟩ | ⟨_, _, _, performed, _⟩
    · cases refused.symm.trans fails
      rfl
    · cases performed.symm.trans fails
  · exact fun name removed after removes => removeMachine_eq_ok distinct.present removes
  · obtain ⟨count, within, isFresh, least⟩ := Emulation.freshName_isLeast emulation
    obtain ⟨machine, after, creates, named, extended⟩ :=
      Builtin.createMachine_none distinct.present
    exact ⟨count, count + 1, machine, after, least, Emulation.search_of_isLeast least,
      Nat.succ_le_succ within, creates, named.trans isFresh, extended⟩

end Eval

end MachineConsole
