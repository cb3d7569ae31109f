import MachineConsole.Device.Builtin
import MachineConsole.Device.Cells

/-!
Contract: stub devices, whose members answer as they were told to.

Owns:
- `Stub.Reaction`, what a method does after its call was recorded;
- adding stub members to the table of a type.

A property, field or indexer stores what is written to it in a cell of the device and reads it back;
a cell never written reads as a given value. Calls of methods are recorded in the journal.
-/

namespace MachineConsole.Stub

/-- What a method does once its call was recorded. -/
inductive Reaction where
  | give (value : Value)
  /-- Returns the argument at a position. -/
  | argument (position : Nat)
  /-- Returns all arguments as a list. -/
  | arguments
  | fail (fault : Fault)

/-- Which accessors a member has. -/
structure Access where
  readable : Bool
  writable : Bool
deriving DecidableEq, Repr

/-- Records a call and reacts to it. -/
def call (member : String) (reaction : Reaction) (object : ObjectRef) (arguments : List Value) :
    Act Value := do
  modify fun world => world.record (.called (world.label object) member arguments)
  match reaction with
  | .give value => return value
  | .argument position => return arguments[position]?.getD .null
  | .arguments => return .list arguments
  | .fail fault => throw fault

/-- Reads a cell, unless reading is to fail. -/
def load (cell : String) (initial : Value) (failure? : Option Fault) (device : Nat) : Act Value :=
  match failure? with
  | some fault => throw fault
  | none => return (← Device.load device cell).getD initial

/-- Writes a cell, unless writing is to fail. -/
def store (cell : String) (failure? : Option Fault) (device : Nat) (value : Value) : Act Unit :=
  match failure? with
  | some fault => throw fault
  | none => Device.store device cell value

/-- The cell for a member at some indices. -/
def indexedCell (name : String) (indices : List Value) : Act String := do
  let labels := (← get).label
  return name ++ "[" ++ Text.join "," (indices.map (Value.display labels)) ++ "]"

/-- A value held by a stub device. -/
structure Holder where
  name : String
  type : ValueType
  initial : Value
  access : Access
  getFailure? : Option Fault
  setFailure? : Option Fault

/-- A builder for the stub devices of a model. -/
def builder (name model : String) : TableBuilder Nat :=
  TableBuilder.create name (ObjectRef.deviceOf? model)

/-- Adds a method that records its calls. -/
def method (builder : TableBuilder Nat) (model name : String) (parameters : List Parameter)
    (result : ValueType) (takesRest : Bool) (reaction : Reaction) : TableBuilder Nat :=
  builder.addMethod takesRest name parameters result fun device arguments =>
    call name reaction (.device model device) arguments

/-- A method for a type from outside its table. -/
def extension (owner name : String) (parameters : List Parameter) (result : ValueType)
    (takesRest : Bool) (belongs : ObjectRef → Bool) (reaction : Reaction) : Method :=
  { name := name
    parameters := parameters
    result := result
    takesRest := takesRest
    owner := owner
    call := fun object arguments =>
      if belongs object then call name reaction object arguments
      else throw (.device (.wrongTarget owner)) }

def property (builder : TableBuilder Nat) (holder : Holder) : TableBuilder Nat :=
  let get := load holder.name holder.initial holder.getFailure?
  let set := store holder.name holder.setFailure?
  match holder.access with
  | ⟨true, true⟩ => builder.property holder.name holder.type get set
  | ⟨true, false⟩ => builder.getter holder.name holder.type get
  | ⟨false, true⟩ => builder.setter holder.name holder.type set
  | ⟨false, false⟩ => builder.addProperty ⟨holder.name, holder.type, none, none⟩

def field (builder : TableBuilder Nat) (holder : Holder) : TableBuilder Nat :=
  builder.field holder.name holder.type
    (load holder.name holder.initial holder.getFailure?)
    (if holder.access.writable then some (store holder.name holder.setFailure?) else none)

def indexer (builder : TableBuilder Nat) (parameters : List Parameter) (holder : Holder) :
    TableBuilder Nat :=
  builder.addIndexer
    { name := holder.name
      parameters := parameters
      type := holder.type
      get? :=
        if holder.access.readable then some fun object indices => do
          let device ← builder.targetOf object
          load (← indexedCell holder.name indices) holder.initial none device
        else none
      set? :=
        if holder.access.writable then some fun object indices value => do
          let device ← builder.targetOf object
          store (← indexedCell holder.name indices) none device value
        else none }

/-- The finished table. Accessors are withheld by name: when one indexer cannot be read, none of its
name can, and when one property has no accessor, none of its name has. -/
def build (builder : TableBuilder Nat) : MemberTable :=
  let unreadable := (builder.own.indexers ++ builder.shared.indexers).filter fun indexer =>
    indexer.get?.isNone
  let inert := (builder.own.properties ++ builder.shared.properties).filter fun property =>
    property.get?.isNone && property.set?.isNone
  let table := builder.build
  { table with
    indexers := table.indexers.map fun indexer =>
      if unreadable.any fun other => other.name == indexer.name then { indexer with get? := none }
      else indexer
    properties := table.properties.map fun property =>
      if inert.any fun other => other.name == property.name then
        { property with get? := none, set? := none }
      else property }

end MachineConsole.Stub
