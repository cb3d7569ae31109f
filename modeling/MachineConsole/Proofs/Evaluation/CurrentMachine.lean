import MachineConsole.Proofs.Evaluation.Runs
import MachineConsole.Proofs.Evaluation.Settling
import MachineConsole.Shell.Session

/-!
Contract: the current machine between lines of input.

Owns:
- `Reached`: the runs that lines of input lead to;
- `currentMachine_mem_iff`: when the current machine is one of the machines of the emulation in use;
- a run in which it is not.

Selecting a machine checks that it is present, and removing it or replacing the emulation deselects
it. What is selected again after a reset macro is not checked.
-/

namespace MachineConsole

namespace Eval

/-- Whether an evaluation came to its end within the recursion bound. -/
def isFinished {α : Type} : Except Stop α → Bool
  | .error .exhausted => false
  | _ => true

/-- The runs that lines of input lead to. Where the output goes may change from line to line. -/
inductive Reached (start : Run) : Run → Prop where
  | start : Reached start start
  | line {before : Run} (reached : Reached start before) (sink : Sink) (bound : Nat)
      (line : String)
      (finished : isFinished (run bound (.line line) { before with sink := sink }).1 = true) :
      Reached start (run bound (.line line) { before with sink := sink }).2

namespace Reached

variable {start after : Run}

theorem invariant (tame : start.console.Tame) (coherent : start.console.selection.Coherent)
    (settled : start.console.selection.Settled) (reached : Reached start after) :
    after.console.Tame ∧ after.console.selection.Coherent ∧ after.console.selection.Settled := by
  induction reached with
  | start => exact ⟨tame, coherent, settled⟩
  | @line before _ sink bound line finished inductionHypothesis =>
      obtain ⟨tameBefore, coherentBefore, settledBefore⟩ := inductionHypothesis
      have trace := run_traces bound (.line line) { before with sink := sink }
      refine ⟨(trace.carried Console.SameEquipment.carried).tame tameBefore,
        (trace.continues tameBefore coherentBefore).coherent, ?_⟩
      -- Only a line that came to its end is settled, and `finished` says that this one did.
      apply run_settles bound (.line line) { before with sink := sink } settledBefore
      intro exhausted
      rw [eq_error_of_stop? exhausted] at finished
      cases finished

theorem currentMachine_mem_iff_of_tame (tame : start.console.Tame)
    (coherent : start.console.selection.Coherent) (settled : start.console.selection.Settled)
    (reached : Reached start after) {machine : MachineHandle}
    (isCurrent : after.console.session.currentMachine? = some machine) :
    machine ∈ after.console.emulation.machines ↔
      Event.switched machine false ∉ after.console.history := by
  obtain ⟨_, coherentAfter, settledAfter⟩ := reached.invariant tame coherent settled
  constructor
  · exact fun member switched => (coherentAfter.missed machine switched).1 member
  · intro unswitched
    cases coherentAfter.current settledAfter machine isCurrent with
    | inl member => exact member
    | inr switched => exact absurd switched unswitched

end Reached

end Eval

/-! ### Fresh consoles -/

namespace CommandTable

/-- No command of the table was added from outside. -/
def OnlyBuiltin (table : CommandTable) : Prop :=
  ∀ (name : String) (command : Command), table.commands[name]? = some command →
    ∃ builtin, command = Command.builtin builtin

theorem OnlyBuiltin.register {table : CommandTable} (onlyBuiltin : table.OnlyBuiltin)
    (registered : BuiltinCommand) : (table.register (.builtin registered)).OnlyBuiltin := by
  intro name command found
  unfold CommandTable.register at found
  dsimp only at found
  rw [Std.TreeMap.getElem?_insert] at found
  split at found
  · cases found
    exact ⟨registered, rfl⟩
  · exact onlyBuiltin name command found

theorem OnlyBuiltin.foldl {table : CommandTable} (onlyBuiltin : table.OnlyBuiltin)
    (registered : List BuiltinCommand) :
    ((registered.map Command.builtin).foldl CommandTable.register table).OnlyBuiltin := by
  induction registered generalizing table with
  | nil => exact onlyBuiltin
  | cons command rest inductionHypothesis =>
      exact inductionHypothesis (onlyBuiltin.register command)

theorem builtin_onlyBuiltin : builtin.OnlyBuiltin := by
  have empty : CommandTable.empty.OnlyBuiltin := by
    intro name command found
    unfold CommandTable.empty at found
    rw [Std.TreeMap.getElem?_emptyc] at found
    cases found
  exact empty.foldl BuiltinCommand.all

end CommandTable

theorem Shell.freshRun_tame (world : World) (settings : Settings) :
    (Shell.freshRun world settings).console.Tame where
  types := Registry.builtin_advances
  commands name added registered := by
    obtain ⟨builtin, isBuiltin⟩ := CommandTable.builtin_onlyBuiltin _ _ registered
    cases isBuiltin
  sources := nofun
  builtins := nofun

theorem World.createManager_manager (world : World) :
    world.createManager.2.manager world.createManager.1 = ⟨world.emulations.size, 0⟩ := by
  unfold World.manager createManager
  dsimp only
  rw [Array.getElem?_push, if_pos rfl]
  rfl

theorem World.createManager_machines (world : World) :
    (world.createManager.2.currentEmulation world.createManager.1).machines = [] := by
  unfold currentEmulation
  rw [createManager_manager]
  unfold World.emulation createManager createEmulation
  dsimp only
  rw [Array.getElem?_push, if_pos rfl]
  rfl

theorem Shell.freshRun_coherent (world : World) (settings : Settings) :
    (Shell.freshRun world settings).console.selection.Coherent where
  valid := by
    change (world.createManager.2.manager world.createManager.1).current < _
    rw [World.createManager_manager]
    exact Nat.lt_of_lt_of_eq (Nat.lt_succ_self _) (Array.size_push _).symm
  created machine member := by
    have present : machine ∈
        (world.createManager.2.currentEmulation world.createManager.1).machines := member
    rw [World.createManager_machines] at present
    cases present
  currentCreated := nofun
  noticed := Nat.le_refl _
  missed := nofun
  current := nofun

namespace Eval

/-- Between lines of input, the current machine is in the emulation in use unless it was selected
again after a reset macro that it did not outlast there. -/
theorem currentMachine_mem_iff (world : World) (settings : Settings) {after : Run}
    (reached : Reached (Shell.freshRun world settings) after) {machine : MachineHandle}
    (isCurrent : after.console.session.currentMachine? = some machine) :
    machine ∈ after.console.emulation.machines ↔
      Event.switched machine false ∉ after.console.history :=
  reached.currentMachine_mem_iff_of_tame (Shell.freshRun_tame world settings)
    (Shell.freshRun_coherent world settings) rfl isCurrent

/-- A world without files or remote resources. -/
def emptyWorld : World :=
  World.create (FileTree.empty "/work") fun uri => .error (.fetch uri)

/-- The run that lines of input lead to from a fresh console. -/
def afterLines : List String → Run
  | [] => Shell.freshRun emptyWorld Settings.default
  | line :: earlier => (evaluate (.line line) (afterLines earlier)).2

theorem afterLines_reached {line : String} {earlier : List String}
    (reached : Reached (afterLines []) (afterLines earlier))
    (finished : isFinished (evaluate (.line line) (afterLines earlier)).1 = true) :
    Reached (afterLines []) (afterLines (line :: earlier)) :=
  Reached.line reached (afterLines earlier).sink recursionBound line finished

theorem currentMachine_mem_created :
    (afterLines ["mach create \"a\""]).console.session.currentMachine? = some ⟨0, "a"⟩ ∧
      (⟨0, "a"⟩ ∈ (afterLines ["mach create \"a\""]).console.emulation.machines ↔
        .switched ⟨0, "a"⟩ false ∉ (afterLines ["mach create \"a\""]).console.history) := by
  have isCurrent : (afterLines ["mach create \"a\""]).console.session.currentMachine? =
      some ⟨0, "a"⟩ := by
    decide +kernel
  have reached : Reached (afterLines []) (afterLines ["mach create \"a\""]) :=
    afterLines_reached Reached.start (by decide +kernel)
  exact ⟨isCurrent, currentMachine_mem_iff emptyWorld Settings.default reached isCurrent⟩

/-- A reset macro that replaces the emulation leaves a machine selected that is gone. -/
theorem currentMachine_not_mem :
    ∃ after, Reached (Shell.freshRun emptyWorld Settings.default) after ∧
      ∃ machine, after.console.session.currentMachine? = some machine ∧
        machine ∉ after.console.emulation.machines := by
  refine ⟨afterLines ["machine Reset", "macro reset \"Clear\"", "mach create \"a\""], ?_,
    ⟨0, "a"⟩, by decide +kernel, by decide +kernel⟩
  apply afterLines_reached
  · apply afterLines_reached
    · exact afterLines_reached Reached.start (by decide +kernel)
    · decide +kernel
  · decide +kernel

end Eval

end MachineConsole
