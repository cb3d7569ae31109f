import MachineConsole.Console.Resolver
import Mathlib.Data.List.Basic

/-!
Contract: the names that stand for an object.

Owns:
- when a name is found among the bindings, among what is registered, and among the peripherals;
- `mem_availableNames_iff`: the names that are shown are the names that are found.

Look-up puts each beginning in use in front of the name it was given, and the shown names are what is
left of peripherals behind each beginning; both ask for a beginning and a name that make up a
peripheral's name.
-/

namespace MachineConsole

namespace Text

theorem mem_eraseReps_loop {α : Type} [BEq α] [LawfulBEq α] (first : α) (rest kept : List α)
    (item : α) :
    item ∈ List.eraseRepsBy.loop (fun left right => left == right) first rest kept ↔
      item ∈ kept ∨ item = first ∨ item ∈ rest := by
  induction rest generalizing first kept with
  | nil =>
      rw [List.eraseRepsBy.loop.eq_1, List.mem_reverse, List.mem_cons, or_comm]
      simp only [List.not_mem_nil, or_false]
  | cons second more inductionHypothesis =>
      rw [List.eraseRepsBy.loop.eq_2]
      cases same : first == second with
      | true =>
          rw [inductionHypothesis, eq_of_beq same, List.mem_cons]
          simp only [or_self_left]
      | false =>
          rw [inductionHypothesis, List.mem_cons, List.mem_cons]
          simp only [or_assoc, or_left_comm]

theorem mem_sortedDistinct {texts : List String} {text : String} :
    text ∈ sortedDistinct texts ↔ text ∈ texts := by
  have inSorted : text ∈ sorted texts ↔ text ∈ texts := List.mem_mergeSort
  rw [← inSorted]
  unfold sortedDistinct List.eraseReps
  cases sorted texts with
  | nil => exact Iff.rfl
  | cons first rest =>
      refine (mem_eraseReps_loop first rest [] text).trans ?_
      rw [List.mem_cons]
      simp only [List.not_mem_nil, false_or]

end Text

/-! ### Bindings -/

namespace Bindings

variable {bindings : Bindings} {context : BindingContext} {name : String}

/-- Every rule in effect yields an object. -/
structure Yields (bindings : Bindings) (context : BindingContext) : Prop where
  fixed : ∀ (name : String) (rule : Binding), bindings.fixed[name]? = some rule →
    ∃ object, rule context = some object
  dynamic : context.machine?.isSome = true → ∀ (name : String) (rule : Binding),
    bindings.dynamic[name]? = some rule → ∃ object, rule context = some object

theorem exists_resolve?_iff (yields : bindings.Yields context) :
    (∃ object, bindings.resolve? context name = some object) ↔
      name ∈ bindings.names context.machine?.isSome := by
  unfold resolve? names
  rw [List.mem_append, Std.TreeMap.mem_keys, Std.TreeMap.mem_iff_isSome_getElem?]
  cases fixed : bindings.fixed[name]? with
  | some rule =>
      obtain ⟨object, yielded⟩ := yields.fixed name rule fixed
      simp [yielded]
  | none =>
      cases present : context.machine?.isSome with
      | false => simp
      | true =>
          simp only [if_true, Option.isSome_none, Bool.false_eq_true, false_or,
            Std.TreeMap.mem_keys, Std.TreeMap.mem_iff_isSome_getElem?]
          cases dynamic : bindings.dynamic[name]? with
          | none => simp
          | some rule =>
              obtain ⟨object, yielded⟩ := yields.dynamic present name rule dynamic
              simp [yielded]

theorem empty_yields (context : BindingContext) : empty.Yields context where
  fixed := by
    intro name rule bound
    cases Std.TreeMap.getElem?_emptyc.symm.trans bound
  dynamic := by
    intro _ name rule bound
    cases Std.TreeMap.getElem?_emptyc.symm.trans bound

theorem Yields.bindFixed (yields : bindings.Yields context) (bound : String) {added : Binding}
    (yieldsAdded : ∃ object, added context = some object) :
    (bindings.bindFixed bound added).Yields context where
  fixed := by
    intro name rule found
    unfold Bindings.bindFixed at found
    rw [Std.TreeMap.getElem?_insert] at found
    split at found
    · cases found
      exact yieldsAdded
    · exact yields.fixed name rule found
  dynamic := yields.dynamic

theorem Yields.bindDynamic (yields : bindings.Yields context) (bound : String) {added : Binding}
    (yieldsAdded : context.machine?.isSome = true → ∃ object, added context = some object) :
    (bindings.bindDynamic bound added).Yields context where
  fixed := yields.fixed
  dynamic := by
    intro present name rule found
    unfold Bindings.bindDynamic at found
    rw [Std.TreeMap.getElem?_insert] at found
    split at found
    · cases found
      exact yieldsAdded present
    · exact yields.dynamic present name rule found

theorem standard_yields (context : BindingContext) : standard.Yields context := by
  unfold standard
  refine (((empty_yields context).bindFixed _ ⟨_, rfl⟩).bindFixed _ ⟨_, rfl⟩).bindDynamic _ ?_
  intro present
  obtain ⟨machine, isMachine⟩ := Option.isSome_iff_exists.mp present
  exact ⟨.machine machine, by rw [isMachine]; rfl⟩

end Bindings

/-! ### Peripherals -/

namespace Machine

variable {machine : Machine} {name : String}

theorem find?_of_mem (member : name ∈ machine.peripheralNames) :
    ∃ object, machine.find? name = (some object, name) := by
  unfold peripheralNames at member
  rw [Std.TreeMap.mem_keys, Std.TreeMap.mem_iff_isSome_getElem?] at member
  obtain ⟨object, found⟩ := Option.isSome_iff_exists.mp member
  unfold find?
  rw [found]
  exact ⟨object, rfl⟩

theorem find?_of_not_mem (absent : name ∉ machine.peripheralNames) :
    ∃ longest, machine.find? name = (none, longest) := by
  unfold peripheralNames at absent
  rw [Std.TreeMap.mem_keys, Std.TreeMap.mem_iff_isSome_getElem?, Option.not_isSome_iff_eq_none]
    at absent
  unfold find?
  rw [absent]
  exact ⟨_, rfl⟩

end Machine

namespace Surroundings

variable {surroundings : Surroundings} {machine : Machine} {name : String}

theorem exists_findBehind_iff {best : String} {bestDepth : Nat} {beginnings : List String} :
    (∃ resolved, findBehind machine name best bestDepth beginnings = .ok resolved) ↔
      ∃ beginning ∈ beginnings, beginning ++ name ∈ machine.peripheralNames := by
  induction beginnings generalizing best bestDepth with
  | nil => simp [findBehind]
  | cons beginning rest inductionHypothesis =>
      rw [List.exists_mem_cons_iff]
      unfold findBehind
      by_cases member : beginning ++ name ∈ machine.peripheralNames
      · obtain ⟨object, found⟩ := Machine.find?_of_mem member
        simp [found, member]
      · obtain ⟨longest, unfound⟩ := Machine.find?_of_not_mem member
        simp only [unfound, member, false_or]
        split <;> exact inductionHypothesis

/-- What is left of a peripheral's name is shown for each beginning that it has. -/
theorem mem_shownNames_iff {usings : List String} {peripheral : String} :
    name ∈ shownNames usings peripheral ↔
      name = peripheral ∨ ∃ beginning ∈ usings, beginning ++ name = peripheral := by
  unfold shownNames
  rw [List.mem_append, List.mem_singleton, or_comm, List.mem_filterMap]
  simp only [Option.map_eq_some_iff, List.isPrefixOf?_eq_some_iff_append_eq]
  refine or_congr_right (exists_congr fun beginning => and_congr_right fun _ => ?_)
  constructor
  · rintro ⟨left, whole, rfl⟩
    exact String.toList_inj.mp (by simpa using whole)
  · rintro rfl
    exact ⟨name.toList, by simp, by simp⟩

/-- A peripheral is found by its name, and by what is left of it behind a beginning in use. -/
theorem exists_findPeripheral_iff :
    (∃ resolved, surroundings.findPeripheral name = .ok resolved) ↔
      ∃ current ∈ surroundings.machine?,
        name ∈ current.2.peripheralNames.flatMap (shownNames surroundings.usings) := by
  unfold findPeripheral
  cases surroundings.machine? with
  | none => simp
  | some current =>
      obtain ⟨handle, machine⟩ := current
      simp only [Option.mem_some, exists_eq_left', List.mem_flatMap, mem_shownNames_iff]
      by_cases member : name ∈ machine.peripheralNames
      · obtain ⟨object, found⟩ := Machine.find?_of_mem member
        simp only [found]
        exact ⟨fun _ => ⟨name, member, .inl rfl⟩, fun _ => ⟨_, rfl⟩⟩
      · obtain ⟨longest, unfound⟩ := Machine.find?_of_not_mem member
        simp only [unfound]
        rw [exists_findBehind_iff]
        constructor
        · rintro ⟨beginning, used, within⟩
          exact ⟨_, within, .inr ⟨beginning, used, rfl⟩⟩
        · rintro ⟨peripheral, within, rfl | ⟨beginning, used, rfl⟩⟩
          · exact absurd within member
          · exact ⟨beginning, used, within⟩

theorem exists_registered?_iff :
    (∃ object, surroundings.registered? name = some object) ↔
      name ∈ surroundings.externals.keys ∨
        ∃ current ∈ surroundings.machine?, name ∈ current.2.groupNames := by
  unfold registered? group? Machine.groupNames
  rw [Std.TreeMap.mem_keys, Std.TreeMap.mem_iff_isSome_getElem?]
  cases surroundings.externals[name]? with
  | some object => simp
  | none =>
      cases surroundings.machine? with
      | none => simp
      | some current =>
          simp only [Option.mem_some, exists_eq_left', Std.TreeMap.mem_keys,
            ← Std.TreeMap.contains_iff_mem]
          by_cases grouped : current.2.groups.contains name = true <;> simp [grouped]

theorem exists_resolve_iff :
    (∃ resolved, surroundings.resolve name = .ok resolved) ↔
      (∃ object, surroundings.bindings.resolve? surroundings.context name = some object) ∨
        (∃ object, surroundings.registered? name = some object) ∨
          ∃ resolved, surroundings.findPeripheral name = .ok resolved := by
  unfold resolve
  cases surroundings.bindings.resolve? surroundings.context name with
  | some object => simp
  | none => cases surroundings.registered? name <;> simp

theorem mem_availableNames_iff_of_yields
    (yields : surroundings.bindings.Yields surroundings.context)
    (sameMachine : surroundings.context.machine?.isSome = surroundings.machine?.isSome) :
    name ∈ surroundings.availableNames ↔
      ∃ resolved, surroundings.resolve name = .ok resolved := by
  rw [exists_resolve_iff, Bindings.exists_resolve?_iff yields, exists_registered?_iff,
    exists_findPeripheral_iff, sameMachine]
  unfold availableNames
  rw [Text.mem_sortedDistinct, List.mem_append, List.mem_append]
  cases surroundings.machine? with
  | none => simp
  | some current => simp [or_assoc]

/-- The names that are shown for a world are the names that stand for an object of it, whichever
machine is current and whatever beginnings are in use. -/
theorem mem_availableNames_iff (world : World) (manager : Nat) (machine? : Option MachineHandle)
    (usings : List String) (name : String) :
    name ∈ (ofWorld world .standard manager machine? usings).availableNames ↔
      ∃ resolved, (ofWorld world .standard manager machine? usings).resolve name = .ok resolved :=
  mem_availableNames_iff_of_yields (Bindings.standard_yields _) (by
    unfold ofWorld
    rw [Option.isSome_map])

end Surroundings

end MachineConsole
