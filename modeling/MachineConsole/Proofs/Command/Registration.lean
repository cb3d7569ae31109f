import MachineConsole.Command.Table

/-!
Contract: what words mean after commands were registered one after the other.

Owns:
- `lastNamed?` and `lastAliased?`, the registrations that count for a word;
- `get?_foldl_register`: the meaning of every word in terms of these two;
- `reachable_iff`: when the command that was registered last under a name is found under it.

Names and aliases are kept apart and never compared with each other. An alias comes first, so a name
is hidden by a command that has it as an alias, whichever of the two was registered before the other.
-/

namespace MachineConsole.CommandTable

/-- The command registered last under a name. -/
def lastNamed? (commands : List Command) (name : String) : Option Command :=
  commands.findRev? fun command => command.name == name

/-- The command registered last with an alias. -/
def lastAliased? (commands : List Command) (word : String) : Option Command :=
  commands.findRev? fun command => command.aliases.contains word

theorem findRev?_cons {α : Type} (accepts : α → Bool) (first : α) (rest : List α) :
    (first :: rest).findRev? accepts =
      (rest.findRev? accepts).or (if accepts first then some first else none) := by
  rw [List.findRev?_eq_find?_reverse, List.findRev?_eq_find?_reverse, List.reverse_cons,
    List.find?_append, List.find?_singleton]

theorem name_of_lastNamed? {commands : List Command} {name : String} {command : Command}
    (isLast : lastNamed? commands name = some command) : command.name = name := by
  unfold lastNamed? at isLast
  rw [List.findRev?_eq_find?_reverse] at isLast
  have named := List.find?_some isLast
  exact eq_of_beq named

/-! ### One registration -/

section Registration

variable (table : CommandTable) (command : Command) (word : String)

theorem commands_register :
    (table.register command).commands[word]? =
      if command.name = word then some command else table.commands[word]? := by
  unfold register
  rw [Std.TreeMap.getElem?_insert]
  simp only [Std.compare_eq_iff_eq]

/-- Words entered one after the other for the same name. -/
theorem getElem?_foldl_insert (words : List String) (aliases : Std.TreeMap String String)
    (name : String) :
    (words.foldl (fun aliases entered => aliases.insert entered name) aliases)[word]? =
      if word ∈ words then some name else aliases[word]? := by
  induction words generalizing aliases with
  | nil => rfl
  | cons first rest inductionHypothesis =>
      rw [List.foldl_cons, inductionHypothesis, Std.TreeMap.getElem?_insert]
      simp only [Std.compare_eq_iff_eq, List.mem_cons, eq_comm (a := word)]
      by_cases same : first = word <;> simp [same]

theorem aliases_register :
    (table.register command).aliases[word]? =
      if word ∈ command.aliases then some command.name else table.aliases[word]? :=
  getElem?_foldl_insert word command.aliases table.aliases command.name

end Registration

/-! ### Any registrations -/

variable (commands : List Command) (table : CommandTable) (word : String)

theorem commands_foldl_register :
    (commands.foldl register table).commands[word]? =
      (lastNamed? commands word).or table.commands[word]? := by
  unfold lastNamed?
  induction commands generalizing table with
  | nil => rfl
  | cons first rest inductionHypothesis =>
      rw [List.foldl_cons, inductionHypothesis, commands_register, findRev?_cons, Option.or_assoc]
      by_cases same : first.name = word <;> simp [same]

theorem aliases_foldl_register :
    (commands.foldl register table).aliases[word]? =
      ((lastAliased? commands word).map Command.name).or table.aliases[word]? := by
  unfold lastAliased?
  induction commands generalizing table with
  | nil => rfl
  | cons first rest inductionHypothesis =>
      rw [List.foldl_cons, inductionHypothesis, aliases_register, findRev?_cons, Option.map_or,
        Option.or_assoc]
      by_cases listed : word ∈ first.aliases <;> simp [listed]

/-- A word means the command registered last under the name that it stands for. It stands for the
name of the command registered last with it as an alias, and for itself when there is none. -/
theorem get?_foldl_register :
    (commands.foldl register empty).get? word =
      lastNamed? commands (((lastAliased? commands word).map Command.name).getD word) := by
  unfold get?
  rw [aliases_foldl_register, commands_foldl_register]
  simp [empty]

/-- All registrations of a console: of the commands that every console has, then of those added. -/
def registered (added : List Command) : List Command :=
  BuiltinCommand.all.map Command.builtin ++ added

theorem foldl_register_builtin (added : List Command) :
    added.foldl register builtin = (registered added).foldl register empty :=
  List.foldl_append.symm

/-- A command that was registered last under its name is found under it exactly when no command of
another name is the one registered last with this name as an alias. -/
theorem reachable_iff (added : List Command) {command : Command}
    (isLast : lastNamed? (registered added) command.name = some command) :
    (added.foldl register builtin).get? command.name = some command ↔
      ∀ owner, lastAliased? (registered added) command.name = some owner →
        owner.name = command.name := by
  rw [foldl_register_builtin, get?_foldl_register]
  cases lastAliased? (registered added) command.name with
  | none =>
      constructor
      · intro _ owner absent
        cases absent
      · intro _
        exact isLast
  | some owner =>
      rw [Option.map_some, Option.getD_some]
      constructor
      · intro found other isOwner
        cases isOwner
        exact (name_of_lastNamed? found).symm
      · intro sameName
        rw [sameName owner rfl]
        exact isLast

/-- An added command without aliases that does nothing. -/
def idle (name : String) : Command :=
  .added
    { name := name
      aliases := []
      description := ""
      signatures := [Signature.create "run"]
      run := fun _ _ => pure true
      complete := fun _ => [] }

theorem reachable_in_place_of_builtin :
    lastNamed? (registered [idle "mach"]) (idle "mach").name = some (idle "mach") ∧
      ([idle "mach"].foldl register builtin).get? (idle "mach").name = some (idle "mach") := by
  have isLast : lastNamed? (registered [idle "mach"]) (idle "mach").name = some (idle "mach") := rfl
  refine ⟨isLast, (reachable_iff [idle "mach"] isLast).mpr ?_⟩
  intro owner isOwner
  have unaliased : lastAliased? (registered [idle "mach"]) (idle "mach").name = none := rfl
  rw [unaliased] at isOwner
  cases isOwner

/-- A command that is named like an alias of another one is not found under its name. -/
theorem hidden_by_alias :
    ∃ command, lastNamed? (registered [command]) command.name = some command ∧
      ([command].foldl register builtin).get? command.name ≠ some command := by
  refine ⟨idle "h", rfl, ?_⟩
  have found : ([idle "h"].foldl register builtin).get? (idle "h").name = some (.builtin .help) := by
    rw [foldl_register_builtin, get?_foldl_register]
    rfl
  rw [found]
  intro same
  cases Option.some.inj same

end MachineConsole.CommandTable
