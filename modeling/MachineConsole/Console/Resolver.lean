import MachineConsole.World.Basic

/-!
Contract: the objects that names stand for.

Owns:
- `Bindings`, names bound to objects by rule;
- `Surroundings`, what a name is looked up in, and `Surroundings.resolve`;
- the names that can be resolved.

A name is looked up among the bindings, the externals, the groups of the current machine and its
peripherals, in this order; a peripheral also by the part of its name behind a beginning in use.
-/

namespace MachineConsole

/-- What the rule of a binding can see. -/
structure BindingContext where
  manager : Nat
  emulation : Nat
  machine? : Option MachineHandle
deriving DecidableEq, Repr

/-- The rule by which a name is bound; it may yield nothing. -/
abbrev Binding := BindingContext → Option ObjectRef

/-- Names bound at all times, and names bound while a machine is current. -/
structure Bindings where
  fixed : Std.TreeMap String Binding
  dynamic : Std.TreeMap String Binding

namespace Bindings

def empty : Bindings := ⟨∅, ∅⟩

def bindFixed (bindings : Bindings) (name : String) (rule : Binding) : Bindings :=
  { bindings with fixed := bindings.fixed.insert name rule }

def bindDynamic (bindings : Bindings) (name : String) (rule : Binding) : Bindings :=
  { bindings with dynamic := bindings.dynamic.insert name rule }

/-- The emulation and its manager at all times, and the current machine. -/
def standard : Bindings :=
  empty
    |>.bindFixed "emulation" (fun context => some (.emulation context.emulation))
    |>.bindFixed "EmulationManager" (fun context => some (.manager context.manager))
    |>.bindDynamic "machine" (fun context => context.machine?.map ObjectRef.machine)

/-- The object bound to a name. A name that is bound at all times is bound by that rule alone. -/
def resolve? (bindings : Bindings) (context : BindingContext) (name : String) :
    Option ObjectRef :=
  match bindings.fixed[name]? with
  | some rule => rule context
  | none => if context.machine?.isSome then bindings.dynamic[name]? >>= fun rule => rule context
    else none

/-- The bound names. -/
def names (bindings : Bindings) (withDynamic : Bool) : List String :=
  bindings.fixed.keys ++ if withDynamic then bindings.dynamic.keys else []

end Bindings

/-- An object and the name it was found under. -/
structure Resolved where
  object : ObjectRef
  name : String
deriving DecidableEq, Repr

/-- What a name is looked up in. -/
structure Surroundings where
  bindings : Bindings
  context : BindingContext
  externals : Std.TreeMap String ObjectRef
  /-- The current machine with its state. -/
  machine? : Option (MachineHandle × Machine)
  usings : List String

namespace Surroundings

/-- The surroundings of a manager's current emulation. -/
def ofWorld (world : World) (bindings : Bindings) (manager : Nat)
    (machine? : Option MachineHandle) (usings : List String) : Surroundings :=
  { bindings := bindings
    context := ⟨manager, (world.manager manager).current, machine?⟩
    externals := (world.currentEmulation manager).externals
    machine? := machine?.map fun handle => (handle, world.machine handle)
    usings := usings }

/-- How many segments a name has; the empty name has none. -/
def depth (name : String) : Nat :=
  if name = "" then 0 else (Text.segments name).length

/-- How deep a partial match reaches into the name proper, beyond the beginning put in front. -/
def depthBeyond (beginning longest : String) : Nat :=
  let shorn := String.ofList (Text.dropEndWhile (· == '.') beginning.toList)
  depth longest - depth shorn

/-- Looks a name up behind each beginning; `best` is the deepest partial match so far. -/
def findBehind (machine : Machine) (name : String) (best : String) (bestDepth : Nat) :
    List String → Except Fault Resolved
  | [] => .error (.noSuchName name (if best = "" then none else some best))
  | beginning :: rest =>
    let full := beginning ++ name
    match machine.find? full with
    | (some object, _) => .ok ⟨object, full⟩
    | (none, longest) =>
      if bestDepth < depthBeyond beginning longest then
        findBehind machine name longest (depthBeyond beginning longest) rest
      else findBehind machine name best bestDepth rest

/-- The peripheral that a name stands for. -/
def findPeripheral (surroundings : Surroundings) (name : String) : Except Fault Resolved :=
  match surroundings.machine? with
  | none => .error (.noSuchName name none)
  | some (_, machine) =>
    match machine.find? name with
    | (some object, _) => .ok ⟨object, name⟩
    | (none, longest) => findBehind machine name longest (depth longest) surroundings.usings

/-- The group of the current machine that has a name. -/
def group? (surroundings : Surroundings) (name : String) : Option ObjectRef :=
  match surroundings.machine? with
  | some (handle, machine) =>
    if machine.groups.contains name then some (.group handle name) else none
  | none => none

/-- The external or group that has a name. -/
def registered? (surroundings : Surroundings) (name : String) : Option ObjectRef :=
  surroundings.externals[name]? <|> surroundings.group? name

/-- The object that a name stands for. -/
def resolve (surroundings : Surroundings) (name : String) : Except Fault Resolved :=
  match surroundings.bindings.resolve? surroundings.context name <|>
      surroundings.registered? name with
  | some object => .ok ⟨object, name⟩
  | none => surroundings.findPeripheral name

/-- The object that a name stands for as an argument; bindings do not count there. -/
def findObject? (surroundings : Surroundings) (name : String) : Option ObjectRef :=
  surroundings.registered? name <|>
    (surroundings.findPeripheral name).toOption.map Resolved.object

/-- A peripheral's name, and what is left of it behind each beginning that it has. -/
def shownNames (usings : List String) (peripheral : String) : List String :=
  usings.filterMap (fun beginning =>
    (beginning.toList.isPrefixOf? peripheral.toList).map String.ofList) ++ [peripheral]

/-- The names that can be resolved, in order. -/
def availableNames (surroundings : Surroundings) : List String :=
  let ofMachine := match surroundings.machine? with
    | none => []
    | some (_, machine) =>
      machine.groupNames ++ machine.peripheralNames.flatMap (shownNames surroundings.usings)
  Text.sortedDistinct
    (surroundings.bindings.names surroundings.machine?.isSome ++ surroundings.externals.keys ++
      ofMachine)

end Surroundings

end MachineConsole
