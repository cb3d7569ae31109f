import Mathlib.Logic.Relation
import MachineConsole.Console.Entry
import MachineConsole.Proofs.Evaluation.Calculus
import MachineConsole.Proofs.Naming.Segments

/-!
Contract: the peripherals of a machine as a tree of dotted names.

Owns:
- `Machine.Call`, what a machine is asked to do, and the machine after any calls;
- `Machine.IsTree`, which every call preserves;
- what removal takes away, and how far the look-up of a name that is not registered comes;
- `Machine.peripherals_after_calls`: all of this for every machine that calls lead to.

Does not own: beginnings of names in use, and which machine is looked at.
-/

namespace MachineConsole

open Text (segments join)

/-! ### Names in a tree -/

/-- A name is another one, a dot, and a last segment that is not empty. -/
def IsChildName (parent name : String) : Prop :=
  ∃ leaf, leaf ≠ "" ∧ '.' ∉ leaf.toList ∧ name = parent ++ "." ++ leaf

/-- A name is a child of another, or a child of one below it. -/
def IsBelow (ancestor name : String) : Prop :=
  Relation.TransGen IsChildName ancestor name

theorem IsChildName.exists_segments {parent name : String} (child : IsChildName parent name) :
    ∃ leaf, leaf ≠ "" ∧ segments name = segments parent ++ [leaf] := by
  obtain ⟨leaf, nonempty, dotless, rfl⟩ := child
  exact ⟨leaf, nonempty, by rw [Text.segments_append, Text.segments_of_dotless dotless]⟩

theorem IsBelow.exists_rest {ancestor name : String} (below : IsBelow ancestor name) :
    ∃ rest, name = ancestor ++ "." ++ rest := by
  induction below with
  | single child =>
      obtain ⟨leaf, _, _, rfl⟩ := child
      exact ⟨leaf, rfl⟩
  | tail _ child inductionHypothesis =>
      obtain ⟨rest, rfl⟩ := inductionHypothesis
      obtain ⟨leaf, _, _, rfl⟩ := child
      exact ⟨rest ++ "." ++ leaf, by simp only [String.append_assoc]⟩

namespace Machine

variable {machine changed : Machine} {name : String}

/-! ### Calls -/

/-- Something that a machine is asked to do. -/
inductive Call where
  | register (name : String) (object : ObjectRef)
  | unregister (name : String)
  | addGroup (name : String) (members : List String)
  | setPaused (paused : Bool)
  | setResetRequested (requested : Bool)

/-- The machine as a call leaves it, unless the call is refused. -/
def Call.attempt : Call → Machine → Except Refusal Machine
  | .register name object, machine => machine.register name object
  | .unregister name, machine => machine.unregister name
  | .addGroup name members, machine => machine.addGroup name members
  | .setPaused paused, machine => .ok { machine with paused := paused }
  | .setResetRequested requested, machine => .ok { machine with resetRequested := requested }

/-- The machine after a call. One that is refused leaves it alone. -/
def perform (machine : Machine) (call : Call) : Machine :=
  match call.attempt machine with
  | .ok changed => changed
  | .error _ => machine

/-- The machine after calls, one after the other. -/
def afterCalls (machine : Machine) (calls : List Call) : Machine :=
  calls.foldl perform machine

theorem mem_peripheralNames : name ∈ machine.peripheralNames ↔ name ∈ machine.peripherals :=
  Std.TreeMap.mem_keys

/-! ### The tree -/

/-- The system bus is registered, and every other registered name is a child of one. -/
structure IsTree (machine : Machine) : Prop where
  root : rootName ∈ machine.peripheralNames
  parent : ∀ name ∈ machine.peripheralNames, name ≠ rootName →
    ∃ parent ∈ machine.peripheralNames, IsChildName parent name

theorem segments_rootName : segments rootName = [rootName] :=
  Text.segments_of_dotless (by decide)

namespace IsTree

/-- What holds of the root, and of the children of what it holds of, holds of every registered
name. -/
theorem induction (tree : machine.IsTree)
    {motive : (name : String) → name ∈ machine.peripheralNames → Prop}
    (root : motive rootName tree.root)
    (child : ∀ parent name parentMember member, IsChildName parent name →
      motive parent parentMember → motive name member)
    (name : String) (member : name ∈ machine.peripheralNames) : motive name member := by
  induction size : (segments name).length using Nat.strongRecOn generalizing name with
  | ind count inductionHypothesis =>
      by_cases isRoot : name = rootName
      · subst isRoot
        exact root
      · obtain ⟨parent, parentMember, isChild⟩ := tree.parent name member isRoot
        obtain ⟨leaf, _, split⟩ := isChild.exists_segments
        refine child parent name parentMember member isChild
          (inductionHypothesis (segments parent).length ?_ parent parentMember rfl)
        rw [← size, split]
        simp

/-- What stands in front of a dot in a registered name is registered. -/
theorem mem_of_isDottedPrefix (tree : machine.IsTree) {lead : String}
    (member : name ∈ machine.peripheralNames) (isPrefix : IsDottedPrefix lead name) :
    lead ∈ machine.peripheralNames := by
  rw [isDottedPrefix_iff] at isPrefix
  induction name, member using tree.induction with
  | root =>
      have size := List.length_pos_iff.mpr (Text.segments_ne_nil lead)
      have whole := isPrefix.eq_of_length_le (by rw [segments_rootName]; exact size)
      rw [Text.segments_injective whole]
      exact tree.root
  | child parent name parentMember member isChild inductionHypothesis =>
      obtain ⟨leaf, _, split⟩ := isChild.exists_segments
      rw [split, List.prefix_concat_iff, ← split] at isPrefix
      rcases isPrefix with whole | within
      · rw [Text.segments_injective whole]
        exact member
      · exact inductionHypothesis within

/-- A registered name is below what stands in front of a dot in it. -/
theorem isBelow_iff (tree : machine.IsTree) {ancestor : String}
    (member : name ∈ machine.peripheralNames) :
    IsBelow ancestor name ↔ ∃ rest, name = ancestor ++ "." ++ rest := by
  refine ⟨IsBelow.exists_rest, ?_⟩
  induction name, member using tree.induction with
  | root =>
      rintro ⟨rest, split⟩
      have dotted : '.' ∈ rootName.toList := by simp [split]
      exact absurd dotted (by decide)
  | child parent name parentMember member isChild inductionHypothesis =>
      rintro ⟨rest, split⟩
      obtain ⟨leaf, _, leafSplit⟩ := isChild.exists_segments
      have within : segments ancestor <+: segments parent := by
        have joined : segments parent ++ [leaf] = segments ancestor ++ segments rest := by
          rw [← leafSplit, split, Text.segments_append]
        have sizes := congrArg List.length joined
        have restSize := List.length_pos_iff.mpr (Text.segments_ne_nil rest)
        rw [List.length_append, List.length_append, List.length_singleton] at sizes
        have front : segments ancestor <+: segments parent ++ [leaf] := ⟨segments rest, joined.symm⟩
        exact List.prefix_of_prefix_length_le front (List.prefix_append _ _) (by omega)
      rcases isDottedPrefix_iff.mpr within with same | between
      · rw [same]
        exact Relation.TransGen.single isChild
      · exact Relation.TransGen.tail (inductionHypothesis between) isChild

end IsTree

/-! ### Registration -/

theorem register_eq_ok {object : ObjectRef} (registers : machine.register name object = .ok after) :
    (∃ parent ∈ machine.peripheralNames, IsChildName parent name) ∧
      name ∉ machine.peripheralNames ∧
      after = { machine with peripherals := machine.peripherals.insert name object } := by
  unfold register at registers
  split at registers
  · cases registers
  · next front back cuts =>
      obtain ⟨characters, dotless⟩ := Text.eq_of_cutLast? cuts
      dsimp only at registers
      split at registers
      · cases registers
      · next nonempty =>
          split at registers
          · cases registers
          · next parentPresent =>
              split at registers
              · cases registers
              · next absent =>
                  cases registers
                  refine ⟨⟨String.ofList front, ?_, String.ofList back, ?_, ?_, ?_⟩, ?_, rfl⟩
                  · rw [mem_peripheralNames, ← Std.TreeMap.contains_iff_mem]
                    simpa using parentPresent
                  · intro empty
                    exact nonempty (by simpa using congrArg String.toList empty)
                  · simpa using dotless
                  · apply String.toList_injective
                    simp [characters]
                  · rw [mem_peripheralNames, ← Std.TreeMap.contains_iff_mem]
                    exact absent

theorem mem_peripheralNames_insert {object : ObjectRef} {other : String} :
    other ∈ peripheralNames { machine with peripherals := machine.peripherals.insert name object } ↔
      other = name ∨ other ∈ machine.peripheralNames := by
  rw [mem_peripheralNames, mem_peripheralNames, Std.TreeMap.mem_insert, Std.compare_eq_iff_eq,
    eq_comm]

/-! ### Removal -/

theorem beginsWith_dotted {key : String} :
    Text.beginsWith key (name ++ ".") = true ↔ ∃ rest, key = name ++ "." ++ rest := by
  rw [Text.beginsWith, List.isPrefixOf_iff_prefix]
  constructor
  · rintro ⟨rest, split⟩
    refine ⟨String.ofList rest, String.toList_injective ?_⟩
    rw [← split]
    simp
  · rintro ⟨rest, rfl⟩
    exact ⟨rest.toList, String.toList_append.symm⟩

theorem unregister_eq_ok_iff :
    machine.unregister name = .ok changed ↔
      name ∈ machine.peripheralNames ∧ name ≠ rootName ∧
        { machine with
          peripherals := (machine.peripherals.erase name).filter fun key _ =>
            !Text.beginsWith key (name ++ ".") } = changed := by
  rw [mem_peripheralNames, ← Std.TreeMap.contains_iff_mem]
  unfold unregister
  by_cases isRoot : name = rootName
  · simp [isRoot]
  · by_cases present : machine.peripherals.contains name = true
    · simp [isRoot, present]
    · simp [isRoot, present]

/-- Removal takes away the peripheral with everything below it, and nothing else. -/
theorem IsTree.getElem?_unregister (tree : machine.IsTree)
    (removes : machine.unregister name = .ok changed) (other : String) (object : ObjectRef) :
    changed.peripherals[other]? = some object ↔
      machine.peripherals[other]? = some object ∧ other ≠ name ∧ ¬ IsBelow name other := by
  obtain ⟨_, _, rfl⟩ := unregister_eq_ok_iff.mp removes
  dsimp only
  rw [Std.TreeMap.getElem?_filter', Std.TreeMap.getElem?_erase, Option.filter_eq_some_iff]
  simp only [Std.compare_eq_iff_eq, Bool.not_eq_true']
  by_cases same : name = other
  · simp [same]
  · rw [if_neg same, ← Bool.not_eq_true, beginsWith_dotted]
    constructor
    · rintro ⟨found, apart⟩
      exact ⟨found, Ne.symm same, fun below => apart below.exists_rest⟩
    · rintro ⟨found, _, apart⟩
      have member : other ∈ machine.peripheralNames := by
        rw [mem_peripheralNames, Std.TreeMap.mem_iff_isSome_getElem?, found]
        rfl
      exact ⟨found, fun within => apart ((tree.isBelow_iff member).mpr within)⟩

theorem IsTree.mem_unregister (tree : machine.IsTree)
    (removes : machine.unregister name = .ok changed) {other : String} :
    other ∈ changed.peripheralNames ↔
      other ∈ machine.peripheralNames ∧ other ≠ name ∧ ¬ IsBelow name other := by
  rw [mem_peripheralNames, mem_peripheralNames, Std.TreeMap.mem_iff_isSome_getElem?,
    Std.TreeMap.mem_iff_isSome_getElem?, Option.isSome_iff_exists, Option.isSome_iff_exists]
  simp only [tree.getElem?_unregister removes]
  exact exists_and_right

/-! ### What every call preserves -/

theorem create_isTree (name : String) (bus : ObjectRef) : (create name bus).IsTree := by
  have only {other : String} : other ∈ (create name bus).peripheralNames ↔ other = rootName := by
    rw [mem_peripheralNames, create, Std.TreeMap.mem_insert, Std.compare_eq_iff_eq, eq_comm]
    simp
  exact ⟨only.mpr rfl, fun other member notRoot => absurd (only.mp member) notRoot⟩

theorem IsTree.register (tree : machine.IsTree) {object : ObjectRef}
    (registers : machine.register name object = .ok changed) : changed.IsTree := by
  obtain ⟨⟨parent, parentMember, child⟩, _, rfl⟩ := register_eq_ok registers
  refine ⟨mem_peripheralNames_insert.mpr (Or.inr tree.root), ?_⟩
  intro other member notRoot
  rcases mem_peripheralNames_insert.mp member with rfl | earlier
  · exact ⟨parent, mem_peripheralNames_insert.mpr (Or.inr parentMember), child⟩
  · obtain ⟨otherParent, otherMember, otherChild⟩ := tree.parent other earlier notRoot
    exact ⟨otherParent, mem_peripheralNames_insert.mpr (Or.inr otherMember), otherChild⟩

/-- Removal leaves no peripheral without its parent, for what is below the parent goes with it. -/
theorem IsTree.unregister (tree : machine.IsTree)
    (removes : machine.unregister name = .ok changed) : changed.IsTree := by
  obtain ⟨_, notRoot, _⟩ := unregister_eq_ok_iff.mp removes
  refine ⟨(tree.mem_unregister removes).mpr ⟨tree.root, notRoot.symm, ?_⟩, ?_⟩
  · intro below
    obtain ⟨rest, split⟩ := below.exists_rest
    have dotted : '.' ∈ rootName.toList := by simp [split]
    exact absurd dotted (by decide)
  · intro other member otherNotRoot
    obtain ⟨earlier, _, apart⟩ := (tree.mem_unregister removes).mp member
    obtain ⟨parent, parentMember, child⟩ := tree.parent other earlier otherNotRoot
    refine ⟨parent, (tree.mem_unregister removes).mpr ⟨parentMember, ?_, ?_⟩, child⟩
    · rintro rfl
      exact apart (Relation.TransGen.single child)
    · exact fun below => apart (Relation.TransGen.tail below child)

theorem addGroup_peripherals {members : List String}
    (groups : machine.addGroup name members = .ok changed) :
    changed.peripherals = machine.peripherals := by
  unfold addGroup at groups
  cases resolved : machine.membersNamed members with
  | error cause =>
      rw [resolved] at groups
      cases groups
  | ok found =>
      rw [resolved] at groups
      change (if machine.groups.contains name = true then .error (Refusal.groupExists name)
        else .ok { machine with groups := machine.groups.insert name found }) =
          Except.ok changed at groups
      split at groups
      · cases groups
      · cases groups
        rfl

theorem IsTree.of_peripherals (tree : machine.IsTree)
    (same : changed.peripherals = machine.peripherals) : changed.IsTree := by
  have sameNames : changed.peripheralNames = machine.peripheralNames :=
    congrArg Std.TreeMap.keys same
  exact ⟨by rw [sameNames]; exact tree.root, by rw [sameNames]; exact tree.parent⟩

theorem IsTree.perform (tree : machine.IsTree) (call : Call) : (machine.perform call).IsTree := by
  unfold Machine.perform
  split
  · next changed succeeds =>
      cases call with
      | register name object => exact tree.register succeeds
      | unregister name => exact tree.unregister succeeds
      | addGroup name members => exact tree.of_peripherals (addGroup_peripherals succeeds)
      | setPaused paused =>
          cases succeeds
          exact tree.of_peripherals rfl
      | setResetRequested requested =>
          cases succeeds
          exact tree.of_peripherals rfl
  · exact tree

theorem IsTree.afterCalls (tree : machine.IsTree) (calls : List Call) :
    (machine.afterCalls calls).IsTree := by
  induction calls generalizing machine with
  | nil => exact tree
  | cons call rest inductionHypothesis => exact inductionHypothesis (tree.perform call)

/-! ### Look-up -/

theorem IsTree.not_mem_empty (tree : machine.IsTree) : "" ∉ machine.peripheralNames := by
  intro member
  obtain ⟨parent, _, leaf, _, _, split⟩ := tree.parent "" member (by decide)
  have characters := congrArg String.toList split
  simp at characters

/-- The look-up stops at the first name of leading segments that is not registered. -/
theorem longestFrom_eq (nameless : "" ∉ machine.peripheralNames) (parts : List String)
    {done : List String} (reached : done = [] ∨ join "." done ∈ machine.peripheralNames) :
    ∃ count ≤ parts.length,
      machine.longestFrom (join "." done) parts = join "." (done ++ parts.take count) ∧
      (0 < count → join "." (done ++ parts.take count) ∈ machine.peripheralNames) ∧
      (count < parts.length →
        join "." (done ++ parts.take (count + 1)) ∉ machine.peripheralNames) := by
  induction parts generalizing done with
  | nil => exact ⟨0, Nat.le_refl 0, by simp [longestFrom], nofun, nofun⟩
  | cons segment rest inductionHypothesis =>
      have current : (if join "." done = "" then segment else join "." done ++ "." ++ segment) =
          join "." (done ++ [segment]) := by
        rcases reached with rfl | registered
        · rfl
        · have named : join "." done ≠ "" := fun empty => nameless (empty ▸ registered)
          have begun : done ≠ [] := fun empty => named (by rw [empty]; rfl)
          rw [if_neg named, Text.join_append begun (List.cons_ne_nil _ _)]
          rfl
      rw [longestFrom, current]
      by_cases present : join "." (done ++ [segment]) ∈ machine.peripheralNames
      · rw [if_pos (Std.TreeMap.contains_iff_mem.mpr (mem_peripheralNames.mp present))]
        obtain ⟨count, within, found, registered, stops⟩ := inductionHypothesis (Or.inr present)
        refine ⟨count + 1, by simpa using within, by simpa using found, fun _ => ?_, ?_⟩
        · by_cases further : 0 < count
          · simpa using registered further
          · have none : count = 0 := by omega
            simpa [none] using present
        · simpa using stops
      · have absent : ¬ machine.peripherals.contains (join "." (done ++ [segment])) = true := by
          rwa [Std.TreeMap.contains_iff_mem, ← mem_peripheralNames]
        rw [if_neg absent]
        exact ⟨0, Nat.zero_le _, by simp, nofun, fun _ => by simpa using present⟩

/-- Looking up a name that is not registered comes as far as its leading segments are. -/
theorem IsTree.find?_of_absent (tree : machine.IsTree) (absent : name ∉ machine.peripheralNames) :
    ∃ count ≤ (segments name).length, machine.find? name = (none, leading count name) ∧
      (0 < count → leading count name ∈ machine.peripheralNames) ∧
      ∀ more, 0 < more → leading more name ∈ machine.peripheralNames → more ≤ count := by
  have unfound : machine.peripherals[name]? = none := by
    rwa [mem_peripheralNames, Std.TreeMap.mem_iff_isSome_getElem?, Option.not_isSome_iff_eq_none]
      at absent
  obtain ⟨count, within, found, registered, stops⟩ :=
    longestFrom_eq tree.not_mem_empty (segments name) (Or.inl rfl)
  refine ⟨count, within, ?_, registered, ?_⟩
  · rw [find?, unfound]
    exact congrArg (Prod.mk none) found
  · intro more positive moreRegistered
    refine Nat.le_of_not_lt fun further => ?_
    by_cases last : count < (segments name).length
    · exact stops last (tree.mem_of_isDottedPrefix moreRegistered
        (isDottedPrefix_leading (Nat.succ_pos count) further name))
    · rw [leading_of_length_le (by omega)] at moreRegistered
      exact absent moreRegistered

/-- The longest of the dotted prefixes of a name that are registered, or the empty string where none
of them is. -/
def IsLongestRegistered (machine : Machine) (name longest : String) : Prop :=
  (longest ∈ machine.peripheralNames ∧ IsDottedPrefix longest name ∧
    ∀ lead ∈ machine.peripheralNames, IsDottedPrefix lead name → lead.length ≤ longest.length) ∨
  (longest = "" ∧ ∀ lead ∈ machine.peripheralNames, ¬ IsDottedPrefix lead name)

theorem IsTree.find?_longest (tree : machine.IsTree) (absent : name ∉ machine.peripheralNames) :
    ∃ longest, machine.find? name = (none, longest) ∧ machine.IsLongestRegistered name longest := by
  obtain ⟨count, _, found, registered, greatest⟩ := tree.find?_of_absent absent
  refine ⟨leading count name, found, ?_⟩
  by_cases positive : 0 < count
  · refine Or.inl ⟨registered positive, ?_, ?_⟩
    · rw [isDottedPrefix_iff, segments_leading positive]
      exact List.take_prefix _ _
    · intro lead member isPrefix
      obtain ⟨more, morePositive, _, rfl⟩ := isDottedPrefix_iff_leading.mp isPrefix
      have within := isDottedPrefix_leading morePositive (greatest more morePositive member) name
      exact within.length_le
  · have none : count = 0 := by omega
    refine Or.inr ⟨by rw [none]; rfl, ?_⟩
    intro lead member isPrefix
    obtain ⟨more, morePositive, _, rfl⟩ := isDottedPrefix_iff_leading.mp isPrefix
    have within := greatest more morePositive member
    omega

end Machine

/-! ### Main result -/

theorem Eval.changeMachine_of_error {change : Machine → Except Refusal Machine} {cause : Refusal}
    {run : Run} {machine : MachineHandle}
    (refused : change (run.console.world.machine machine) = .error cause) :
    changeMachine machine change run = (.error (.failed (.refused cause)), run) := by
  unfold changeMachine
  rw [console_bind_run, refused]
  rfl

namespace Machine

/-- After any calls on a new machine, its peripherals are a tree below the system bus. A call that
is refused changes nothing at all. What can be removed is everything but the root, and with it goes
exactly what is below it. The look-up of a name that is not registered tells the longest of its
dotted prefixes that is. -/
theorem peripherals_after_calls (name : String) (bus : ObjectRef) (calls : List Call) :
    let machine := (create name bus).afterCalls calls
    machine.IsTree ∧
      (∀ (call : Call) (cause : Refusal), call.attempt machine = .error cause →
        ∀ (run : Run) (handle : MachineHandle), run.console.world.machine handle = machine →
          Eval.changeMachine handle call.attempt run = (.error (.failed (.refused cause)), run)) ∧
      (∀ removed, (∃ changed, machine.unregister removed = .ok changed) ↔
        removed ∈ machine.peripheralNames ∧ removed ≠ rootName) ∧
      (∀ removed changed, machine.unregister removed = .ok changed → ∀ other object,
        changed.peripherals[other]? = some object ↔
          machine.peripherals[other]? = some object ∧ other ≠ removed ∧
            ¬ IsBelow removed other) ∧
      ∀ wanted, wanted ∉ machine.peripheralNames → ∃ longest,
        machine.find? wanted = (none, longest) ∧ machine.IsLongestRegistered wanted longest := by
  intro machine
  have tree : machine.IsTree := (create_isTree name bus).afterCalls calls
  refine ⟨tree, ?_, ?_, ?_, ?_⟩
  · intro call cause refused run handle isMachine
    exact Eval.changeMachine_of_error (isMachine ▸ refused)
  · intro removed
    simp only [unregister_eq_ok_iff, exists_and_left]
    simp
  · intro removed changed removes other object
    exact tree.getElem?_unregister removes other object
  · intro wanted absent
    exact tree.find?_longest absent

end Machine

end MachineConsole
