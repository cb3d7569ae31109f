import MachineConsole.Proofs.Sequencing

/-!
Contract: how the emulation of a manager comes along while the world changes.

Owns:
- `World.Advances`: machines are never removed and no handle is given out twice, unless the emulation
  is replaced, which is counted;
- the changes of the world that advance it.

Does not own: removal of a machine, which does not.
-/

namespace MachineConsole

theorem Emulation.addMachine_ok {emulation extended : Emulation} {machine : MachineHandle}
    (adds : emulation.addMachine machine = .ok extended) :
    extended = { emulation with machines := emulation.machines ++ [machine] } := by
  unfold addMachine at adds
  split at adds
  · cases adds
  · cases adds
    rfl

/-- A machine is removed by its name. -/
theorem Emulation.removeMachine_ok {emulation rest : Emulation} {name : String}
    {machine : MachineHandle} (removes : emulation.removeMachine name = .ok (machine, rest)) :
    machine.name = name ∧
      rest.machines = emulation.machines.eraseP fun other => other.name == machine.name := by
  unfold removeMachine at removes
  split at removes
  · cases removes
  · next found =>
      have matching := List.find?_some found
      have sameName := eq_of_beq matching
      cases removes
      exact ⟨sameName, by rw [sameName]⟩

namespace World

variable {manager : Nat} {before between after : World}

/-- The later world is one that the earlier one can come to as far as a manager's emulation is
concerned. -/
structure Advances (manager : Nat) (before after : World) : Prop where
  machines : before.machines.size ≤ after.machines.size
  generation : (before.manager manager).generation ≤ (after.manager manager).generation
  valid : (before.manager manager).current < before.emulations.size →
    (after.manager manager).current < after.emulations.size
  kept : (after.manager manager).generation = (before.manager manager).generation →
    ∀ machine ∈ (before.currentEmulation manager).machines,
      machine ∈ (after.currentEmulation manager).machines
  fresh : ∀ machine ∈ (after.currentEmulation manager).machines,
    machine ∈ (before.currentEmulation manager).machines ∨
      (before.machines.size ≤ machine.index ∧ machine.index < after.machines.size)

namespace Advances

/-- A change that is not about the emulation. -/
theorem of_same_emulation (sameManager : after.manager manager = before.manager manager)
    (sameEmulation : after.currentEmulation manager = before.currentEmulation manager)
    (emulations : before.emulations.size ≤ after.emulations.size)
    (machines : before.machines.size ≤ after.machines.size) : Advances manager before after where
  machines := machines
  generation := Nat.le_of_eq (by rw [sameManager])
  valid valid := by
    rw [sameManager]
    exact Nat.lt_of_lt_of_le valid emulations
  kept _ _ present := by
    rw [sameEmulation]
    exact present
  fresh _ present := by
    rw [sameEmulation] at present
    exact Or.inl present

/-- A change of what is on machines, buses, devices or files. -/
theorem of_same (managers : after.managers = before.managers)
    (emulations : after.emulations = before.emulations)
    (machines : after.machines.size = before.machines.size) : Advances manager before after := by
  have sameManager : after.manager manager = before.manager manager := by
    unfold World.manager
    rw [managers]
  apply of_same_emulation sameManager
  · unfold currentEmulation World.emulation
    rw [sameManager, emulations]
  · exact Nat.le_of_eq (congrArg Array.size emulations.symm)
  · exact Nat.le_of_eq machines.symm

theorem refl (world : World) : Advances manager world world :=
  of_same rfl rfl rfl

theorem trans (first : Advances manager before between) (second : Advances manager between after) :
    Advances manager before after := by
  refine ⟨Nat.le_trans first.machines second.machines,
    Nat.le_trans first.generation second.generation,
    fun valid => second.valid (first.valid valid), ?_, ?_⟩
  · intro unreplaced machine present
    have firstGeneration := first.generation
    have secondGeneration := second.generation
    exact second.kept (by omega) machine (first.kept (by omega) machine present)
  · intro machine present
    have firstMachines := first.machines
    have secondMachines := second.machines
    cases second.fresh machine present with
    | inr recent => exact Or.inr ⟨Nat.le_trans firstMachines recent.1, recent.2⟩
    | inl earlier =>
        cases first.fresh machine earlier with
        | inl original => exact Or.inl original
        | inr recent => exact Or.inr ⟨recent.1, Nat.lt_of_lt_of_le recent.2 secondMachines⟩

end Advances

/-! ### Changes of objects -/

theorem record_advances (world : World) (event : Event) :
    Advances manager world (world.record event) :=
  Advances.of_same rfl rfl rfl

theorem updateMachine_advances (world : World) (machine : MachineHandle)
    (change : Machine → Machine) : Advances manager world (world.updateMachine machine change) :=
  Advances.of_same rfl rfl Array.size_modify

theorem updateBus_advances (world : World) (bus : Nat) (change : Bus → Bus) :
    Advances manager world (world.updateBus bus change) :=
  Advances.of_same rfl rfl rfl

theorem setAllPaused_advances (world : World) (emulation : Nat) (paused : Bool) :
    Advances manager world (world.setAllPaused emulation paused) := by
  unfold setAllPaused
  generalize (world.emulation emulation).machines = machines
  induction machines generalizing world with
  | nil => exact Advances.refl world
  | cons machine rest inductionHypothesis =>
      exact (updateMachine_advances world machine _).trans (inductionHypothesis _)

theorem fetch_world (world : World) (uri : String) :
    (fetch uri world).2 = world.record (.fetched uri) := by
  unfold fetch
  rw [get_bind_run, set_bind_run]
  cases world.fetcher world.journal uri with
  | ok path => rfl
  | error fault => rfl

theorem fetch_advances (world : World) (uri : String) :
    Advances manager world (fetch uri world).2 := by
  rw [fetch_world]
  exact record_advances world _

/-! ### Changes of emulations -/

/-- A blank emulation in addition to others makes no difference to look-up. -/
theorem emulation_push_blank (world : World) (managers : Array Manager) (index : Nat) :
    World.emulation
      { world with
        emulations := world.emulations.push Emulation.blank
        managers := managers } index = world.emulation index := by
  unfold World.emulation
  dsimp only
  rw [Array.getElem?_push]
  split
  · next last =>
      rw [last, Array.getElem?_eq_none (Nat.le_refl _)]
      rfl
  · rfl

theorem replaceEmulation_manager (world : World) (replaced : Nat) :
    (world.replaceEmulation replaced Emulation.blank).manager manager =
      if replaced = manager ∧ manager < world.managers.size then
        ⟨world.emulations.size, (world.manager manager).generation + 1⟩
      else world.manager manager := by
  unfold World.manager replaceEmulation createEmulation
  dsimp only
  rw [Array.getElem?_modify]
  by_cases here : replaced = manager
  · by_cases exists_ : manager < world.managers.size
    · rw [if_pos here, if_pos ⟨here, exists_⟩, Array.getElem?_eq_getElem exists_]
      rfl
    · rw [if_pos here, if_neg fun both => exists_ both.2,
        Array.getElem?_eq_none (Nat.le_of_not_lt exists_)]
      rfl
  · rw [if_neg here, if_neg fun both => here both.1]

theorem replaceEmulation_advances (world : World) (replaced : Nat) :
    Advances manager world (world.replaceEmulation replaced Emulation.blank) := by
  have emulations : world.emulations.size <
      (world.replaceEmulation replaced Emulation.blank).emulations.size :=
    Nat.lt_of_lt_of_eq (Nat.lt_succ_self _) (Array.size_push _).symm
  have sameEmulation (index : Nat) :
      (world.replaceEmulation replaced Emulation.blank).emulation index = world.emulation index :=
    emulation_push_blank world _ index
  by_cases counted : replaced = manager ∧ manager < world.managers.size
  · have lookUp : (world.replaceEmulation replaced Emulation.blank).manager manager =
        ⟨world.emulations.size, (world.manager manager).generation + 1⟩ := by
      rw [replaceEmulation_manager, if_pos counted]
    have blank : (world.replaceEmulation replaced Emulation.blank).currentEmulation manager =
        Emulation.blank := by
      unfold currentEmulation
      rw [lookUp, sameEmulation]
      unfold World.emulation
      rw [Array.getElem?_eq_none (Nat.le_refl _)]
      rfl
    refine ⟨Nat.le_refl _, ?_, ?_, ?_, ?_⟩
    · rw [lookUp]
      exact Nat.le_succ _
    · rw [lookUp]
      exact fun _ => emulations
    · rw [lookUp]
      exact fun unreplaced => absurd unreplaced (Nat.succ_ne_self _)
    · rw [blank]
      exact fun _ present => nomatch present
  · have sameManager : (world.replaceEmulation replaced Emulation.blank).manager manager =
        world.manager manager := by
      rw [replaceEmulation_manager, if_neg counted]
    apply Advances.of_same_emulation sameManager
    · unfold currentEmulation
      rw [sameManager, sameEmulation]
    · exact Nat.le_of_lt emulations
    · exact Nat.le_refl _

theorem updateEmulation_emulation {world : World} {index : Nat}
    (valid : index < world.emulations.size) (change : Emulation → Emulation) :
    (world.updateEmulation index change).emulation index = change (world.emulation index) := by
  unfold World.emulation updateEmulation
  dsimp only
  rw [Array.getElem?_modify, if_pos rfl, Array.getElem?_eq_getElem valid]
  rfl

theorem currentEmulation_updateEmulation {world : World}
    (valid : (world.manager manager).current < world.emulations.size) (emulation : Emulation) :
    (world.updateEmulation (world.manager manager).current fun _ => emulation).currentEmulation
      manager = emulation :=
  updateEmulation_emulation valid _

theorem updateEmulation_size (world : World) (index : Nat) (change : Emulation → Emulation) :
    (world.updateEmulation index change).emulations.size = world.emulations.size :=
  Array.size_modify

/-- A machine is created under the next handle and put behind the machines of the emulation. -/
theorem addNewMachine_ok {world after : World} {emulation : Nat} {name? : Option String}
    {machine : MachineHandle}
    (creates : world.addNewMachine emulation name? = .ok (machine, after)) :
    machine.index = world.machines.size ∧ ∃ created : World,
      created.managers = world.managers ∧ created.emulations = world.emulations ∧
      created.machines.size = world.machines.size + 1 ∧
      after = created.updateEmulation emulation fun _ =>
        { world.emulation emulation with
          machines := (world.emulation emulation).machines ++ [machine] } := by
  unfold addNewMachine at creates
  dsimp only at creates
  split at creates
  · cases creates
  · next nameIsFree =>
      split at creates
      · cases creates
      · next extended adds =>
          rw [Emulation.addMachine_ok adds] at creates
          cases creates
          refine ⟨rfl, (world.createMachine _).2, rfl, rfl, ?_, rfl⟩
          exact Array.size_push _

/-- A new machine is in the emulation in use, if that is where it was created. -/
theorem addNewMachine_advances {world after : World} {name? : Option String}
    {machine : MachineHandle}
    (valid : (world.manager manager).current < world.emulations.size)
    (creates : world.addNewMachine (world.manager manager).current name? = .ok (machine, after)) :
    Advances manager world after ∧ machine ∈ (after.currentEmulation manager).machines := by
  obtain ⟨index, created, managers, emulations, machines, rebuilt⟩ := addNewMachine_ok creates
  have sameManager : after.manager manager = world.manager manager := by
    rw [rebuilt]
    unfold World.manager updateEmulation
    rw [managers]
  have afterEmulations : after.emulations.size = world.emulations.size := by
    rw [rebuilt, updateEmulation_size, emulations]
  have afterMachines : after.machines.size = world.machines.size + 1 := by
    rw [rebuilt]
    exact machines
  have extended : (after.currentEmulation manager).machines =
      (world.currentEmulation manager).machines ++ [machine] := by
    unfold currentEmulation
    rw [sameManager, rebuilt, updateEmulation_emulation (by rw [emulations]; exact valid)]
  refine ⟨⟨?_, ?_, ?_, ?_, ?_⟩, ?_⟩
  · rw [afterMachines]
    exact Nat.le_succ _
  · exact Nat.le_of_eq (congrArg Manager.generation sameManager.symm)
  · rw [sameManager, afterEmulations]
    exact id
  · intro _ other present
    rw [extended]
    exact List.mem_append_left _ present
  · intro other present
    rw [extended] at present
    cases List.mem_append.mp present with
    | inl earlier => exact Or.inl earlier
    | inr recent =>
        rw [List.mem_singleton.mp recent, index, afterMachines]
        exact Or.inr ⟨Nat.le_refl _, Nat.lt_succ_self _⟩
  · rw [extended]
    exact List.mem_append_right _ List.mem_cons_self

end World

end MachineConsole
