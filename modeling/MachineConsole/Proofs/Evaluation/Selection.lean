import MachineConsole.Proofs.Emulation.Members
import MachineConsole.Proofs.Evaluation.Trace

/-!
Contract: which machine is current.

Owns:
- `Console.Tame`: what is added to the console from outside advances the world;
- `Selection.Coherent`, the invariant that ties the current machine to the emulation and to the
  history;
- `Trace.continues`: the invariant is kept along every trace of a tame console.

A current machine is in the emulation unless it was selected, on account of a reset macro, when it
was not. Only while a replaced emulation has gone unnoticed may another one be current.
-/

namespace MachineConsole

/-! ### What is added from outside -/

/-- The actions of objects, added commands and the scripting host advance the world. -/
structure Console.Tame (console : Console) : Prop where
  types : console.types.Advances console.manager
  commands : ∀ name added, console.commands.get? name = some (.added added) →
    ∀ form arguments (stage : Stage),
      stage.world.Advances console.manager (added.run form arguments stage).2.world
  sources : ∀ host, console.host? = some host → ∀ text (stage : Stage),
    stage.world.Advances console.manager (host.runSource text stage).2.world
  builtins : ∀ host, console.host? = some host → ∀ name arguments (stage : Stage),
    stage.world.Advances console.manager (host.runBuiltin name arguments stage).2.world

namespace Console

theorem Tame.extension {console : Console} {world : World} (tame : console.Tame)
    (effect : console.ExtensionEffect world) : console.world.Advances console.manager world := by
  cases effect with
  | command form arguments sink registered =>
      exact tame.commands _ _ registered form arguments ⟨console.world, sink⟩
  | source text sink isHost => exact tame.sources _ isHost text ⟨console.world, sink⟩
  | builtin name arguments sink isHost =>
      exact tame.builtins _ isHost name arguments ⟨console.world, sink⟩
  | @file host path sink isHost =>
      unfold ScriptHost.runFile
      rw [get_bind_run]
      cases console.world.files.read path with
      | error cause => exact World.Advances.refl console.world
      | ok source => exact tame.sources host isHost source ⟨console.world, sink⟩

/-- What consoles have in common when one comes from the other. -/
structure SameEquipment (before after : Console) : Prop where
  manager : after.manager = before.manager
  types : after.types = before.types
  commands : after.commands = before.commands
  host : after.host? = before.host?

namespace SameEquipment

theorem switched (console : Console) (machine? : Option MachineHandle) :
    SameEquipment console (console.switchMachine machine?) := by
  cases machine? with
  | none => exact ⟨rfl, rfl, rfl, rfl⟩
  | some machine => exact ⟨rfl, rfl, rfl, rfl⟩

theorem change {before after : Console} (change : Change before after) :
    SameEquipment before after := by
  cases change with
  | removed removes =>
      unfold withoutMachine
      dsimp only
      split
      · exact ⟨rfl, rfl, rfl, rfl⟩
      · exact ⟨rfl, rfl, rfl, rfl⟩
  | noticed =>
      unfold noticeReplacement
      dsimp only
      split
      · exact ⟨rfl, rfl, rfl, rfl⟩
      · exact ⟨rfl, rfl, rfl, rfl⟩
  | _ => exact ⟨rfl, rfl, rfl, rfl⟩

theorem carried : Carried SameEquipment where
  refl _ := ⟨rfl, rfl, rfl, rfl⟩
  trans first second :=
    ⟨second.manager.trans first.manager, second.types.trans first.types,
      second.commands.trans first.commands, second.host.trans first.host⟩
  change := change
  dispatched _ _ := ⟨rfl, rfl, rfl, rfl⟩
  depth _ _ := ⟨rfl, rfl, rfl, rfl⟩
  origin _ _ := ⟨rfl, rfl, rfl, rfl⟩
  switched := switched

theorem tame {before after : Console} (same : SameEquipment before after) (tame : before.Tame) :
    after.Tame := by
  obtain ⟨types, commands, sources, builtins⟩ := tame
  refine ⟨?_, ?_, ?_, ?_⟩
  · rw [same.types, same.manager]
    exact types
  · rw [same.commands, same.manager]
    exact commands
  · rw [same.host, same.manager]
    exact sources
  · rw [same.host, same.manager]
    exact builtins

end SameEquipment

end Console

/-! ### The invariant -/

/-- What the current machine depends on. -/
structure Selection where
  world : World
  manager : Nat
  current? : Option MachineHandle
  generation : Nat
  history : List Event

def Console.selection (console : Console) : Selection :=
  { world := console.world
    manager := console.manager
    current? := console.session.currentMachine?
    generation := console.generation
    history := console.history }

namespace Selection

/-- The machines of the emulation in use. -/
def machines (selection : Selection) : List MachineHandle :=
  (selection.world.currentEmulation selection.manager).machines

/-- Whether a machine was selected on account of a reset macro when it was not in the emulation. -/
def MissedSwitch (selection : Selection) (machine : MachineHandle) : Prop :=
  Event.switched machine false ∈ selection.history

/-- Whether no replacement of the emulation has gone unnoticed. -/
def Settled (selection : Selection) : Prop :=
  selection.generation = (selection.world.manager selection.manager).generation

structure Coherent (selection : Selection) : Prop where
  valid : (selection.world.manager selection.manager).current < selection.world.emulations.size
  created : ∀ machine ∈ selection.machines, machine.index < selection.world.machines.size
  currentCreated : ∀ machine, selection.current? = some machine →
    machine.index < selection.world.machines.size
  noticed : selection.generation ≤ (selection.world.manager selection.manager).generation
  missed : ∀ machine, selection.MissedSwitch machine →
    machine ∉ selection.machines ∧ machine.index < selection.world.machines.size
  current : selection.Settled → ∀ machine, selection.current? = some machine →
    machine ∈ selection.machines ∨ selection.MissedSwitch machine

namespace Coherent

variable {selection : Selection}

theorem advance {world : World} (coherent : selection.Coherent)
    (advances : selection.world.Advances selection.manager world) :
    ({ selection with world := world } : Selection).Coherent where
  valid := advances.valid coherent.valid
  created machine member := by
    have machines := advances.machines
    cases advances.fresh machine member with
    | inl earlier => exact Nat.lt_of_lt_of_le (coherent.created machine earlier) machines
    | inr recent => exact recent.2
  currentCreated machine isCurrent :=
    Nat.lt_of_lt_of_le (coherent.currentCreated machine isCurrent) advances.machines
  noticed := Nat.le_trans coherent.noticed advances.generation
  missed machine switched := by
    obtain ⟨absent, created⟩ := coherent.missed machine switched
    refine ⟨?_, Nat.lt_of_lt_of_le created advances.machines⟩
    intro member
    cases advances.fresh machine member with
    | inl earlier => exact absent earlier
    | inr recent => exact absurd created (Nat.not_lt_of_le recent.1)
  current settled machine isCurrent := by
    have noticed := coherent.noticed
    have generation := advances.generation
    have settledNow : selection.generation = (world.manager selection.manager).generation := settled
    have unreplaced : (world.manager selection.manager).generation =
        (selection.world.manager selection.manager).generation := by omega
    cases coherent.current (by unfold Settled; omega) machine isCurrent with
    | inl member => exact Or.inl (advances.kept unreplaced machine member)
    | inr switched => exact Or.inr switched

theorem deselect (coherent : selection.Coherent) :
    ({ selection with current? := none } : Selection).Coherent :=
  { coherent with
    currentCreated := nofun
    current := nofun }

theorem select {machine : MachineHandle} (coherent : selection.Coherent)
    (member : machine ∈ selection.machines) :
    ({ selection with current? := some machine } : Selection).Coherent where
  valid := coherent.valid
  created := coherent.created
  currentCreated := by
    rintro _ ⟨⟩
    exact coherent.created machine member
  noticed := coherent.noticed
  missed := coherent.missed
  current := by
    rintro _ _ ⟨⟩
    exact Or.inl member

theorem notice (coherent : selection.Coherent) :
    ({ selection with
      current? := none
      generation := (selection.world.manager selection.manager).generation } :
      Selection).Coherent where
  valid := coherent.valid
  created := coherent.created
  currentCreated := nofun
  noticed := Nat.le_refl _
  missed := coherent.missed
  current := nofun

theorem enter {event : Event} (coherent : selection.Coherent)
    (isOther : ∀ machine, event ≠ .switched machine false) :
    ({ selection with history := selection.history ++ [event] } : Selection).Coherent := by
  have earlier (machine : MachineHandle)
      (switched : Event.switched machine false ∈ selection.history ++ [event]) :
      selection.MissedSwitch machine := by
    cases List.mem_append.mp switched with
    | inl early => exact early
    | inr late => exact absurd (List.mem_singleton.mp late).symm (isOther machine)
  refine { coherent with missed := ?_, current := ?_ }
  · exact fun machine switched => coherent.missed machine (earlier machine switched)
  · intro settled machine isCurrent
    cases coherent.current settled machine isCurrent with
    | inl member => exact Or.inl member
    | inr switched => exact Or.inr (List.mem_append_left _ switched)

theorem switch {machine : MachineHandle} (coherent : selection.Coherent)
    (created : machine.index < selection.world.machines.size) :
    ({ selection with
      current? := some machine
      history := selection.history ++
        [.switched machine (selection.machines.contains machine)] } : Selection).Coherent := by
  by_cases member : machine ∈ selection.machines
  · rw [List.contains_iff_mem.mpr member]
    have isOther (other : MachineHandle) :
        Event.switched machine true ≠ .switched other false := by
      intro same
      cases same
    exact (coherent.enter isOther).select member
  · have absent : selection.machines.contains machine = false :=
      Bool.eq_false_iff.mpr fun contained => member (List.contains_iff_mem.mp contained)
    rw [absent]
    refine ⟨coherent.valid, coherent.created, ?_, coherent.noticed, ?_, ?_⟩
    · rintro _ ⟨⟩
      exact created
    · intro other switched
      cases List.mem_append.mp switched with
      | inl early => exact coherent.missed other early
      | inr late =>
          cases List.mem_singleton.mp late
          exact ⟨member, created⟩
    · rintro _ _ ⟨⟩
      exact Or.inr (List.mem_append_right _ List.mem_cons_self)

/-- Another machine leaves the emulation. -/
theorem remove {name : String} {machine : MachineHandle} {emulation : Emulation}
    (coherent : selection.Coherent)
    (removes : (selection.world.currentEmulation selection.manager).removeMachine name =
      .ok (machine, emulation))
    (isOther : ∀ current, selection.current? = some current → current.name ≠ machine.name) :
    ({ selection with
      world := selection.world.updateEmulation
        (selection.world.manager selection.manager).current fun _ => emulation } :
      Selection).Coherent := by
  obtain ⟨sameName, rest⟩ := Emulation.removeMachine_ok removes
  have machines : (({ selection with
      world := selection.world.updateEmulation
        (selection.world.manager selection.manager).current fun _ => emulation } :
      Selection)).machines = selection.machines.eraseP fun other => other.name == machine.name := by
    unfold Selection.machines
    dsimp only
    rw [World.currentEmulation_updateEmulation coherent.valid, rest]
  have subset : ∀ other,
      other ∈ selection.machines.eraseP (fun other => other.name == machine.name) →
        other ∈ selection.machines := fun other member => List.mem_of_mem_eraseP member
  refine ⟨?_, ?_, coherent.currentCreated, coherent.noticed, ?_, ?_⟩
  · change _ < (selection.world.updateEmulation _ _).emulations.size
    rw [World.updateEmulation_size]
    exact coherent.valid
  · intro other member
    rw [machines] at member
    exact coherent.created other (subset other member)
  · intro other switched
    obtain ⟨absent, created⟩ := coherent.missed other switched
    refine ⟨?_, created⟩
    rw [machines]
    exact fun member => absent (subset other member)
  · intro settled current isCurrent
    rw [machines]
    cases coherent.current settled current isCurrent with
    | inl member =>
        apply Or.inl
        apply (List.mem_eraseP_of_neg _).mpr member
        exact fun same => isOther current isCurrent (eq_of_beq same)
    | inr switched => exact Or.inr switched

end Coherent

end Selection

/-! ### Along a trace -/

theorem Console.selection_updateSession {console : Console} {change : Session → Session}
    (same : (change console.session).currentMachine? = console.session.currentMachine?) :
    (console.updateSession change).selection = console.selection := by
  unfold selection updateSession
  dsimp only
  rw [same]

theorem Console.switchMachine_world (console : Console) (machine? : Option MachineHandle) :
    (console.switchMachine machine?).world = console.world := by
  cases machine? with
  | none => rfl
  | some machine => rfl

theorem Console.coherent_switchMachine {console : Console} {machine? : Option MachineHandle}
    (coherent : console.selection.Coherent)
    (created : ∀ machine, machine? = some machine →
      machine.index < console.world.machines.size) :
    (console.switchMachine machine?).selection.Coherent := by
  cases machine? with
  | none => exact coherent.deselect
  | some machine => exact coherent.switch (created machine rfl)

/-- The later console is coherent, and every machine there was is still known to the world. -/
structure Console.Continues (before after : Console) : Prop where
  coherent : after.selection.Coherent
  machines : before.world.machines.size ≤ after.world.machines.size

theorem Console.Continues.of_advance {console : Console} {world : World}
    (coherent : console.selection.Coherent)
    (advances : console.world.Advances console.manager world) :
    console.Continues (console.withWorld world) :=
  ⟨coherent.advance advances, advances.machines⟩

theorem Change.continues {before after : Console} (change : Change before after)
    (tame : before.Tame) (coherent : before.selection.Coherent) : before.Continues after := by
  cases change with
  | begun invocations => exact ⟨coherent.enter nofun, Nat.le_refl _⟩
  | substituted command => exact ⟨coherent.enter nofun, Nat.le_refl _⟩
  | deepened => exact ⟨coherent.enter nofun, Nat.le_refl _⟩
  | reentered => exact ⟨coherent.enter nofun, Nat.le_refl _⟩
  | reported command handled => exact ⟨coherent.enter nofun, Nat.le_refl _⟩
  | received receiver supplies => exact ⟨coherent.enter nofun, Nat.le_refl _⟩
  | acted request =>
      have advances : before.conversion.registry.Advances before.manager := tame.types
      exact Console.Continues.of_advance coherent (ActionRequest.invoke_advances advances _)
  | fetched uri => exact Console.Continues.of_advance coherent (World.fetch_advances _ uri)
  | extended effect => exact Console.Continues.of_advance coherent (tame.extension effect)
  | fed line =>
      obtain ⟨capture, values, macros, fed⟩ := Session.feed_eq before.session line
      have same := congrArg Session.currentMachine? fed
      refine ⟨?_, Nat.le_refl _⟩
      rw [Console.selection_updateSession same]
      exact coherent
  | captured kind name opened => exact ⟨coherent, Nat.le_refl _⟩
  | @stored token value kind name supplied unmarked expanded =>
      obtain ⟨values, macros, stored⟩ := Session.updateStore_eq before.session kind
        fun store => store.set before.scopes name value
      have same := congrArg Session.currentMachine? stored
      refine ⟨?_, Nat.le_refl _⟩
      unfold Console.storeValue
      rw [Console.selection_updateSession same]
      exact coherent
  | selected present => exact ⟨coherent.select present, Nat.le_refl _⟩
  | deselected => exact ⟨coherent.deselect, Nat.le_refl _⟩
  | added creates =>
      exact Console.Continues.of_advance coherent
        (World.addNewMachine_advances coherent.valid creates).1
  | created creates =>
      obtain ⟨advances, present⟩ := World.addNewMachine_advances coherent.valid creates
      exact ⟨(coherent.advance advances).select present, advances.machines⟩
  | removed removes =>
      unfold Console.withoutMachine
      dsimp only
      split
      · exact ⟨coherent.deselect.remove removes nofun, Nat.le_refl _⟩
      · next isOther =>
          refine ⟨coherent.remove removes ?_, Nat.le_refl _⟩
          intro current isCurrent sameName
          have selected : before.session.currentMachine? = some current := isCurrent
          rw [selected, Option.any_some, sameName] at isOther
          exact isOther BEq.rfl
  | used usings => exact ⟨coherent, Nat.le_refl _⟩
  | setVerbose verbose => exact ⟨coherent, Nat.le_refl _⟩
  | setNumberMode mode => exact ⟨coherent, Nat.le_refl _⟩
  | setPath path => exact ⟨coherent, Nat.le_refl _⟩
  | paused paused =>
      exact Console.Continues.of_advance coherent (World.setAllPaused_advances _ _ paused)
  | quit => exact ⟨coherent.deselect.enter nofun, Nat.le_refl _⟩
  | noticed =>
      unfold Console.noticeReplacement
      dsimp only
      split
      · exact ⟨coherent, Nat.le_refl _⟩
      · exact ⟨coherent.notice, Nat.le_refl _⟩
  | resetTaken machine =>
      exact Console.Continues.of_advance coherent (World.updateMachine_advances _ machine _)

/-- Along a trace of a tame console the invariant is kept, and machines are only created. -/
theorem Trace.continues {before after : Console} (trace : Trace before after) (tame : before.Tame)
    (coherent : before.selection.Coherent) : before.Continues after := by
  induction trace with
  | refl console => exact ⟨coherent, Nat.le_refl _⟩
  | step change => exact change.continues tame coherent
  | trans first _ firstContinues secondContinues =>
      have toBetween := firstContinues tame coherent
      have betweenTame := (first.carried Console.SameEquipment.carried).tame tame
      have toAfter := secondContinues betweenTame toBetween.coherent
      exact ⟨toAfter.coherent, Nat.le_trans toBetween.machines toAfter.machines⟩
  | dispatched console invocation => exact ⟨coherent.enter nofun, Nat.le_refl _⟩
  | deeper _ insideContinues =>
      have inside := insideContinues ⟨tame.types, tame.commands, tame.sources, tame.builtins⟩
        (coherent.enter nofun)
      exact ⟨inside.coherent, inside.machines⟩
  | script directory _ insideContinues =>
      have inside :=
        insideContinues ⟨tame.types, tame.commands, tame.sources, tame.builtins⟩ coherent
      exact ⟨inside.coherent, inside.machines⟩
  | @resetMacro start before after machine earlier present _ earlierContinues insideContinues =>
      have toBefore := earlierContinues tame coherent
      have beforeTame := (earlier.carried Console.SameEquipment.carried).tame tame
      have machineCreated : machine.index < before.world.machines.size :=
        Nat.lt_of_lt_of_le (coherent.created machine present) toBefore.machines
      have switchedCoherent : (before.switchMachine (some machine)).selection.Coherent :=
        toBefore.coherent.switch machineCreated
      have switchedTame := (Console.SameEquipment.switched before (some machine)).tame beforeTame
      have toAfter := insideContinues switchedTame switchedCoherent
      refine ⟨Console.coherent_switchMachine toAfter.coherent ?_, ?_⟩
      -- The machine to be selected again had been created when the macro began.
      · intro current isCurrent
        exact Nat.lt_of_lt_of_le (toBefore.coherent.currentCreated current isCurrent)
          toAfter.machines
      · rw [Console.switchMachine_world]
        exact Nat.le_trans toBefore.machines toAfter.machines

end MachineConsole
