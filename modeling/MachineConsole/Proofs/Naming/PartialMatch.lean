import Mathlib.Data.List.DropRight
import Mathlib.Data.List.MinMax
import Mathlib.Data.Nat.Find
import MachineConsole.Console.Builtin
import MachineConsole.Proofs.Emulation.PeripheralTree
import MachineConsole.Proofs.Evaluation.Commands
import MachineConsole.Proofs.Naming.Resolution

/-!
Contract: what the look-up of a peripheral finds behind beginnings in use, and what it reports when
it finds nothing.

Owns:
- `Builtin.InUse`, the beginnings that the command for them leads to;
- `Machine.coveredBehind`, how much of a name is registered behind a beginning;
- the look-up behind one beginning, which compares depths of whole paths, in these terms;
- `Surroundings.findPeripheral_of_inUse`: the outcome of every look-up.

The look-up subtracts the depth of the beginning from the depth of the path. This is what the path
covers of the name because a path that reaches into the name has the whole beginning in it.
-/

namespace MachineConsole

open Text (segments)

/-! ### Beginnings in use -/

/-- A text that ends in one dot and no more. -/
def EndsInOneDot (beginning : String) : Prop :=
  beginning = String.ofList (Text.dropEndWhile (· == '.') beginning.toList) ++ "."

namespace Builtin

/-- Beginnings that are in use after the command for them was given any number of times. -/
inductive InUse : List String → Prop
  | none : InUse []
  | given (arguments : List Token) (run : Run) (earlier : InUse run.console.session.usings) :
      InUse (addBeginning arguments run).2.console.session.usings

theorem endsInOneDot_of_word (word : String) :
    EndsInOneDot (String.ofList (Text.dropEndWhile (· == '.') word.toList) ++ ".") := by
  have dotted : (String.ofList (Text.dropEndWhile (· == '.') word.toList) ++ ".").toList =
      word.toList.rdropWhile (· == '.') ++ ['.'] := by
    rw [String.toList_append, String.toList_ofList]
    rfl
  have shorn : Text.dropEndWhile (· == '.') (word.toList.rdropWhile (· == '.') ++ ['.']) =
      Text.dropEndWhile (· == '.') word.toList :=
    (List.rdropWhile_concat_pos _ _ _ rfl).trans (List.rdropWhile_idempotent _ _)
  rw [EndsInOneDot, dotted, shorn]

theorem addBeginning_usings (arguments : List Token) (run : Run) :
    ∀ beginning ∈ (addBeginning arguments run).2.console.session.usings,
      beginning ∈ run.console.session.usings ∨ EndsInOneDot beginning := by
  intro beginning member
  cases found : arguments[0]? with
  | none =>
      unfold addBeginning wordArgument argument at member
      rw [found] at member
      exact Or.inl member
  | some token =>
      unfold addBeginning at member
      rw [bind_run_of_ok (wordArgument_run found run)] at member
      by_cases dash : token.word = "-"
      · rw [if_pos dash] at member
        cases member
      · rw [if_neg dash] at member
        change beginning ∈ Session.usings (if _ then _ else _) at member
        split at member
        · exact Or.inl member
        · rcases List.mem_append.mp member with earlier | added
          · exact Or.inl earlier
          · rw [List.mem_singleton.mp added]
            exact Or.inr (endsInOneDot_of_word token.word)

theorem InUse.endsInOneDot {usings : List String} (inUse : InUse usings) :
    ∀ beginning ∈ usings, EndsInOneDot beginning := by
  induction inUse with
  | none => exact nofun
  | given arguments run earlier inductionHypothesis =>
      intro beginning member
      exact (addBeginning_usings arguments run beginning member).elim
        (inductionHypothesis beginning) id

end Builtin

/-! ### Behind one beginning -/

namespace Machine

variable {machine : Machine} {name beginning : String}

/-- How many leading segments of a name are registered behind a beginning, at the most. -/
def coveredBehind (machine : Machine) (name beginning : String) : Nat :=
  Nat.findGreatest (fun count => beginning ++ leading count name ∈ machine.peripheralNames)
    (segments name).length

/-- The registered path that covers so many; there is none when no segment is covered. -/
def pathBehind? (machine : Machine) (name beginning : String) : Option String :=
  let count := machine.coveredBehind name beginning
  if count = 0 then none else some (beginning ++ leading count name)

theorem pathBehind?_eq_none_iff :
    machine.pathBehind? name beginning = none ↔ machine.coveredBehind name beginning = 0 := by
  unfold pathBehind?
  simp

theorem pathBehind?_eq_some {path : String}
    (isPath : machine.pathBehind? name beginning = some path) :
    path ∈ machine.peripheralNames ∧
      path = beginning ++ leading (machine.coveredBehind name beginning) name := by
  unfold pathBehind? at isPath
  dsimp only at isPath
  split at isPath
  · cases isPath
  · next covers =>
      cases isPath
      exact ⟨Nat.findGreatest_of_ne_zero rfl covers, rfl⟩

theorem find?_of_getElem? {object : ObjectRef}
    (registered : machine.peripherals[name]? = some object) :
    machine.find? name = (some object, name) := by
  unfold find?
  rw [registered]

theorem depth_leading {count : Nat} (within : count ≤ (segments name).length)
    (named : 0 < count → leading count name ≠ "") :
    Surroundings.depth (leading count name) = count := by
  rcases Nat.eq_zero_or_pos count with rfl | positive
  · rfl
  · rw [Surroundings.depth, if_neg (named positive), segments_leading positive,
      List.length_take_of_le within]

/-- How far the look-up comes behind a beginning that has so many segments. -/
theorem IsTree.find?_behind (tree : machine.IsTree) (beginning name : String) (skipped : Nat)
    (sizes : (segments (beginning ++ name)).length = skipped + (segments name).length)
    (pathsBehind : ∀ count, 0 < count →
      leading (skipped + count) (beginning ++ name) = beginning ++ leading count name)
    (absent : beginning ++ name ∉ machine.peripheralNames) :
    ∃ count,
      machine.find? (beginning ++ name) = (none, leading count (beginning ++ name)) ∧
      (0 < count → leading count (beginning ++ name) ∈ machine.peripheralNames) ∧
      Surroundings.depth (leading count (beginning ++ name)) = count ∧
      machine.coveredBehind name beginning = count - skipped ∧
      (skipped < count →
        machine.pathBehind? name beginning = some (leading count (beginning ++ name))) := by
  obtain ⟨count, within, found, registered, greatest⟩ := tree.find?_of_absent absent
  have named (positive : 0 < count) : leading count (beginning ++ name) ≠ "" := fun empty =>
    tree.not_mem_empty (empty ▸ registered positive)
  have reaches (covers : skipped < count) :
      beginning ++ leading (count - skipped) name = leading count (beginning ++ name) := by
    rw [← pathsBehind (count - skipped) (by omega), Nat.add_sub_cancel' (by omega)]
  have covered : machine.coveredBehind name beginning = count - skipped := by
    refine Nat.findGreatest_eq_iff.mpr ⟨by omega, ?_, ?_⟩
    · intro covers
      rw [reaches (by omega)]
      exact registered (by omega)
    · intro more further _ moreRegistered
      rw [← pathsBehind more (by omega)] at moreRegistered
      have := greatest (skipped + more) (by omega) moreRegistered
      omega
  refine ⟨count, found, registered, depth_leading within named, covered, ?_⟩
  intro covers
  unfold pathBehind?
  dsimp only
  rw [covered, if_neg (by omega), reaches covers]

/-- Without a beginning, the depth of the longest match is what is covered. -/
theorem IsTree.find?_direct (tree : machine.IsTree) (absent : name ∉ machine.peripheralNames) :
    machine.find? name = (none, (machine.pathBehind? name "").getD "") ∧
      Surroundings.depth ((machine.pathBehind? name "").getD "") =
        machine.coveredBehind name "" := by
  have whole : "" ++ name = name := String.empty_append
  obtain ⟨count, found, _, depth, covered, path⟩ := tree.find?_behind "" name 0
    (by rw [whole, Nat.zero_add]) (fun _ _ => by rw [whole, Nat.zero_add, String.empty_append])
    (by rwa [whole])
  rw [whole] at found depth path
  have longest : (machine.pathBehind? name "").getD "" = leading count name := by
    rcases Nat.eq_zero_or_pos count with rfl | positive
    · rw [pathBehind?_eq_none_iff.mpr covered]
      rfl
    · rw [path positive]
      rfl
  exact ⟨longest ▸ found, by rw [longest, depth, covered, Nat.sub_zero]⟩

/-- Behind a beginning, the depth that the longest match has beyond it is what is covered. -/
theorem IsTree.find?_beyond (tree : machine.IsTree) (ends : EndsInOneDot beginning)
    (absent : beginning ++ name ∉ machine.peripheralNames) :
    ∃ longest,
      machine.find? (beginning ++ name) = (none, longest) ∧
      Surroundings.depthBeyond beginning longest = machine.coveredBehind name beginning ∧
      (0 < machine.coveredBehind name beginning →
        machine.pathBehind? name beginning = some longest) := by
  obtain ⟨stem, isStem⟩ : ∃ stem, stem = String.ofList
    (Text.dropEndWhile (· == '.') beginning.toList) := ⟨_, rfl⟩
  have split : beginning = stem ++ "." := isStem ▸ ends
  obtain ⟨count, found, registered, depth, covered, path⟩ :=
    tree.find?_behind beginning name (segments stem).length
      (by rw [split, Text.segments_append, List.length_append])
      (fun count positive => by rw [split, leading_append positive]) absent
  refine ⟨_, found, ?_, fun covers => path (by omega)⟩
  rw [Surroundings.depthBeyond, ← isStem, depth, covered]
  by_cases nameless : stem = ""
  · -- The empty stem is one segment but has no depth, so here the two differences must both be zero:
    -- nothing is registered under a name that starts with a dot.
    have none : count = 0 := by
      refine Nat.eq_zero_of_not_pos fun positive => tree.not_mem_empty ?_
      have first : leading 1 (beginning ++ name) = "" := by
        rw [leading, split, Text.segments_append, nameless]
        rfl
      rw [← first]
      exact tree.mem_of_isDottedPrefix (registered positive)
        (isDottedPrefix_leading Nat.one_pos positive _)
    rw [none, Nat.zero_sub, Nat.zero_sub]
  · rw [Surroundings.depth, if_neg nameless]

end Machine

/-! ### Behind all of them -/

namespace Surroundings

variable {machine : Machine} {name : String}

theorem findBehind_of_first {beginning best : String} {bestDepth : Nat} {object : ObjectRef}
    {before after : List String}
    (earlier : ∀ other ∈ before, other ++ name ∉ machine.peripheralNames)
    (registered : machine.peripherals[beginning ++ name]? = some object) :
    findBehind machine name best bestDepth (before ++ beginning :: after) =
      .ok ⟨object, beginning ++ name⟩ := by
  induction before generalizing best bestDepth with
  | nil =>
      rw [List.nil_append, findBehind, Machine.find?_of_getElem? registered]
  | cons other rest inductionHypothesis =>
      obtain ⟨absent, restAbsent⟩ := List.forall_mem_cons.mp earlier
      obtain ⟨longest, unfound⟩ := Machine.find?_of_not_mem absent
      rw [List.cons_append, findBehind, unfound]
      dsimp only
      split
      · exact inductionHypothesis restAbsent
      · exact inductionHypothesis restAbsent

/-- The search keeps the first of the beginnings seen so far that cover most, and its path. -/
theorem findBehind_of_absent (tree : machine.IsTree) {beginnings seen : List String} {best : String}
    (isBest : best ∈ seen.argmax (machine.coveredBehind name))
    (ends : ∀ beginning ∈ beginnings, EndsInOneDot beginning)
    (absent : ∀ beginning ∈ beginnings, beginning ++ name ∉ machine.peripheralNames) :
    ∃ winner ∈ (seen ++ beginnings).argmax (machine.coveredBehind name),
      findBehind machine name ((machine.pathBehind? name best).getD "")
          (machine.coveredBehind name best) beginnings =
        .error (.noSuchName name (machine.pathBehind? name winner)) := by
  induction beginnings generalizing seen best with
  | nil =>
      refine ⟨best, by rwa [List.append_nil], ?_⟩
      rw [findBehind]
      cases isPath : machine.pathBehind? name best with
      | none => rfl
      | some path =>
          have named : path ≠ "" := fun empty =>
            tree.not_mem_empty (empty ▸ (Machine.pathBehind?_eq_some isPath).1)
          rw [Option.getD_some, if_neg named]
  | cons beginning rest inductionHypothesis =>
      obtain ⟨endsFirst, endsRest⟩ := List.forall_mem_cons.mp ends
      obtain ⟨absentFirst, absentRest⟩ := List.forall_mem_cons.mp absent
      obtain ⟨longest, unfound, beyond, isPath⟩ := tree.find?_beyond endsFirst absentFirst
      have bestNow : (if machine.coveredBehind name best < machine.coveredBehind name beginning
          then beginning else best) ∈
          (seen ++ [beginning]).argmax (machine.coveredBehind name) := by
        rw [List.argmax_concat, Option.mem_def.mp isBest, Option.mem_def, apply_ite some]
      obtain ⟨winner, wins, found⟩ := inductionHypothesis bestNow endsRest absentRest
      refine ⟨winner, by rwa [List.append_assoc] at wins, ?_⟩
      rw [findBehind, unfound]
      dsimp only
      rw [beyond, ← found]
      by_cases deeper : machine.coveredBehind name best < machine.coveredBehind name beginning
      · rw [if_pos deeper, if_pos deeper, isPath (by omega), Option.getD_some]
      · rw [if_neg deeper, if_neg deeper]

theorem findPeripheral_of_found {surroundings : Surroundings} {handle : MachineHandle}
    {object : ObjectRef} (current : surroundings.machine? = some (handle, machine))
    (found : machine.find? name = (some object, name)) :
    surroundings.findPeripheral name = .ok ⟨object, name⟩ := by
  simp only [findPeripheral, current, found]

theorem findPeripheral_of_missing {surroundings : Surroundings} {handle : MachineHandle}
    {longest : String} (current : surroundings.machine? = some (handle, machine))
    (missing : machine.find? name = (none, longest)) :
    surroundings.findPeripheral name =
      findBehind machine name longest (depth longest) surroundings.usings := by
  simp only [findPeripheral, current, missing]

/-! ### Main result -/

/-- A name stands for the peripheral of this name, or for the first whose name is a beginning in use
and the name. When there is none, what is reported is the registered path that covers most of the
leading segments of the name, the first of such paths in the same order; nothing is reported exactly
when no segment is covered. -/
theorem findPeripheral_of_inUse {surroundings : Surroundings} {handle : MachineHandle}
    {machineName : String} {bus : ObjectRef} {calls : List Machine.Call}
    (current : surroundings.machine? =
      some (handle, (Machine.create machineName bus).afterCalls calls))
    (inUse : Builtin.InUse surroundings.usings) (wanted : String) :
    let machine := (Machine.create machineName bus).afterCalls calls
    let beginnings := "" :: surroundings.usings
    (∀ before beginning after object, beginnings = before ++ beginning :: after →
      (∀ earlier ∈ before, earlier ++ wanted ∉ machine.peripheralNames) →
      machine.peripherals[beginning ++ wanted]? = some object →
      surroundings.findPeripheral wanted = .ok ⟨object, beginning ++ wanted⟩) ∧
    ((∀ beginning ∈ beginnings, beginning ++ wanted ∉ machine.peripheralNames) →
      ∃ best ∈ beginnings.argmax (machine.coveredBehind wanted), ∃ longest?,
        surroundings.findPeripheral wanted = .error (.noSuchName wanted longest?) ∧
        (∀ path, longest? = some path →
          path ∈ machine.peripheralNames ∧
            path = best ++ leading (machine.coveredBehind wanted best) wanted) ∧
        (longest? = none ↔
          ∀ beginning ∈ beginnings, machine.coveredBehind wanted beginning = 0)) := by
  intro machine beginnings
  have tree : machine.IsTree := (Machine.create_isTree machineName bus).afterCalls calls
  have unprefixed : "" ++ wanted = wanted := String.empty_append
  refine ⟨?_, ?_⟩
  · intro before beginning after object split earlier registered
    cases before with
    | nil =>
        obtain ⟨rfl, -⟩ := List.cons.inj split
        rw [unprefixed] at registered ⊢
        exact findPeripheral_of_found current (Machine.find?_of_getElem? registered)
    | cons first others =>
        obtain ⟨rfl, othersSplit⟩ := List.cons.inj split
        obtain ⟨absent, othersAbsent⟩ := List.forall_mem_cons.mp earlier
        rw [unprefixed] at absent
        rw [findPeripheral_of_missing current (tree.find?_direct absent).1, othersSplit]
        exact findBehind_of_first othersAbsent registered
  · intro nowhere
    obtain ⟨absent, absentBehind⟩ := List.forall_mem_cons.mp nowhere
    rw [unprefixed] at absent
    obtain ⟨unfound, depth⟩ := tree.find?_direct absent
    obtain ⟨best, isBest, found⟩ := findBehind_of_absent tree
      (List.argmax_singleton : ([""] : List String).argmax (machine.coveredBehind wanted) = some "")
      inUse.endsInOneDot absentBehind
    refine ⟨best, isBest, machine.pathBehind? wanted best, ?_, ?_, ?_⟩
    · rw [findPeripheral_of_missing current unfound, depth]
      exact found
    · intro path isPath
      exact Machine.pathBehind?_eq_some isPath
    · rw [Machine.pathBehind?_eq_none_iff]
      constructor
      · intro none beginning member
        have most := List.le_of_mem_argmax member isBest
        omega
      · exact fun none => none best (List.argmax_mem isBest)

/-- A machine with a peripheral below the system bus. -/
def board : Machine :=
  (Machine.create "board" (.bus 0)).afterCalls [.register "sysbus.gpio" (.device "gpio" 0)]

/-- The machine, looked at with the beginning of the system bus in use. -/
def boardSurroundings : Surroundings :=
  { bindings := .standard
    context := ⟨0, 0, some ⟨0, "board"⟩⟩
    externals := ∅
    machine? := some (⟨0, "board"⟩, board)
    usings := ["sysbus."] }

theorem findPeripheral_of_inUse_board :
    Builtin.InUse boardSurroundings.usings ∧
      boardSurroundings.findPeripheral "gpio" = .ok ⟨.device "gpio" 0, "sysbus.gpio"⟩ ∧
      boardSurroundings.findPeripheral "gpio.button" =
        .error (.noSuchName "gpio.button" (some "sysbus.gpio")) := by
  let world := World.create (FileTree.empty "/work") fun uri => .error (.fetch uri)
  have inUse : Builtin.InUse boardSurroundings.usings :=
    Builtin.InUse.given [Token.literal "sysbus"]
      ⟨Console.create Settings.default world 0, Sink.empty⟩ .none
  have sysbusIsBest :
      "sysbus." ∈ (["", "sysbus."] : List String).argmax (board.coveredBehind "gpio.button") := by
    decide +kernel
  have sysbusCovers : board.coveredBehind "gpio.button" "sysbus." = 1 := by decide +kernel
  obtain ⟨found, _⟩ := findPeripheral_of_inUse rfl inUse "gpio"
  obtain ⟨_, missed⟩ := findPeripheral_of_inUse rfl inUse "gpio.button"
  refine ⟨inUse, ?_, ?_⟩
  · exact found [""] "sysbus." [] _ rfl (by decide +kernel) (by decide +kernel)
  · obtain ⟨best, isBest, longest?, reported, isPath, isNone⟩ := missed (by decide +kernel)
    obtain rfl := Option.mem_unique sysbusIsBest isBest
    rw [reported]
    cases longest? with
    | none =>
        have uncovered := isNone.mp rfl "sysbus." (by decide)
        exact absurd (sysbusCovers.symm.trans uncovered) (by decide)
    | some path =>
        have whole : path =
            "sysbus." ++ leading (board.coveredBehind "gpio.button" "sysbus.") "gpio.button" :=
          (isPath path rfl).2
        rw [whole, sysbusCovers]
        rfl

end Surroundings

end MachineConsole
