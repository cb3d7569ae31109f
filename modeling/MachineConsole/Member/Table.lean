import MachineConsole.Member.Basic

/-!
Contract: the members of one concrete type.

Owns:
- `MemberTable`, with look-up by name;
- `TableBuilder`, which collects the members a type declares itself and the members it shares with
  other types, and `TableBuilder.build`, by which its own members hide shared ones.

Every accessor that a builder makes checks that it is applied to an object of the right type.
-/

namespace MachineConsole

/-- The members of a type and the interfaces it satisfies. -/
structure MemberTable where
  name : String
  interfaces : List String
  methods : List Method
  properties : List Property
  fields : List Field
  indexers : List Indexer

namespace MemberTable

/-- A table without members. -/
def empty (name : String) : MemberTable :=
  ⟨name, [], [], [], [], []⟩

/-- Whether the type has this name or satisfies an interface of this name. -/
def satisfies (table : MemberTable) (name : String) : Bool :=
  table.name == name || table.interfaces.contains name

def methodsNamed (table : MemberTable) (name : String) : List Method :=
  table.methods.filter fun method => method.name == name

def property? (table : MemberTable) (name : String) : Option Property :=
  table.properties.find? fun property => property.name == name

def field? (table : MemberTable) (name : String) : Option Field :=
  table.fields.find? fun field => field.name == name

def indexersNamed (table : MemberTable) (name : String) : List Indexer :=
  table.indexers.filter fun indexer => indexer.name == name

/-- The name of the indexers, when there are some and all have the same. -/
def defaultIndexerName? (table : MemberTable) : Option String :=
  match table.indexers with
  | [] => none
  | first :: rest =>
    if rest.all fun indexer => indexer.name == first.name then some first.name else none

/-- The names of all members in order. -/
def memberNames (table : MemberTable) : List String :=
  Text.sortedDistinct
    (table.methods.map Method.name ++ table.properties.map Property.name ++
      table.fields.map Field.name ++ table.indexers.map Indexer.name)

def hasMember (table : MemberTable) (name : String) : Bool :=
  !(table.methodsNamed name).isEmpty || (table.property? name).isSome ||
    (table.field? name).isSome || !(table.indexersNamed name).isEmpty

/-- The text of a table for inspection: its names and how many members of each sort it has. -/
def inspect (table : MemberTable) : String :=
  "TypeInfo \x7b name: " ++ Text.quoted table.name ++
    ", interfaces: [" ++ Text.join ", " (table.interfaces.map Text.quoted) ++ "]" ++
    ", methods: " ++ toString table.methods.length ++
    ", properties: " ++ toString table.properties.length ++
    ", fields: " ++ toString table.fields.length ++
    ", indexers: " ++ toString table.indexers.length ++ " \x7d"

/-- Adds each item that the items present do not hide. -/
def extendUnless {α : Type} (hides : α → α → Bool) : List α → List α → List α
  | present, [] => present
  | present, item :: rest =>
    if present.any fun other => hides other item then extendUnless hides present rest
    else extendUnless hides (present ++ [item]) rest

/-- A table with shared members that its own ones do not hide: a method is hidden by an own method
of the same signature, other members by any member present with the same key. -/
def withShared (own shared : MemberTable) : MemberTable :=
  let signatures := own.methods.map Method.signature
  { own with
    methods := own.methods ++
      shared.methods.filter fun method => !signatures.contains method.signature
    properties := extendUnless (fun property other => property.name == other.name)
      own.properties shared.properties
    fields := extendUnless (fun field other => field.name == other.name) own.fields shared.fields
    indexers := extendUnless Indexer.sameKey own.indexers shared.indexers }

end MemberTable

/-- Collects the members of a type whose objects are seen as `Target`. -/
structure TableBuilder (Target : Type) where
  target? : ObjectRef → Option Target
  own : MemberTable
  shared : MemberTable
  /-- Whether members are being added as shared ones. -/
  sharing : Bool

namespace TableBuilder

variable {Target : Type}

def create (name : String) (target? : ObjectRef → Option Target) : TableBuilder Target :=
  ⟨target?, MemberTable.empty name, MemberTable.empty name, false⟩

/-- The object as the builder's type sees it, or the fault of applying an accessor to another. -/
def targetOf (builder : TableBuilder Target) (object : ObjectRef) : Act Target :=
  match builder.target? object with
  | some target => pure target
  | none => throw (.device (.wrongTarget builder.own.name))

/-- Changes the table to which members are being added. -/
def change (builder : TableBuilder Target) (step : MemberTable → MemberTable) :
    TableBuilder Target :=
  if builder.sharing then { builder with shared := step builder.shared }
  else { builder with own := step builder.own }

def implements (builder : TableBuilder Target) (interface : String) : TableBuilder Target :=
  { builder with own :=
      { builder.own with interfaces := builder.own.interfaces ++ [interface] } }

/-- Adds members as shared ones. -/
def inherit (builder : TableBuilder Target)
    (members : TableBuilder Target → TableBuilder Target) : TableBuilder Target :=
  { members { builder with sharing := true } with sharing := builder.sharing }

def addMethod (builder : TableBuilder Target) (takesRest : Bool) (name : String)
    (parameters : List Parameter) (result : ValueType) (run : Target → List Value → Act Value) :
    TableBuilder Target :=
  let method : Method :=
    { name := name
      parameters := parameters
      result := result
      takesRest := takesRest
      owner := builder.own.name
      call := fun object arguments => do run (← builder.targetOf object) arguments }
  builder.change fun table => { table with methods := table.methods ++ [method] }

def method (builder : TableBuilder Target) : String → List Parameter → ValueType →
    (Target → List Value → Act Value) → TableBuilder Target :=
  builder.addMethod false

/-- A method whose last parameter takes all remaining arguments. -/
def variadicMethod (builder : TableBuilder Target) : String → List Parameter → ValueType →
    (Target → List Value → Act Value) → TableBuilder Target :=
  builder.addMethod true

def guardGet (builder : TableBuilder Target) (get : Target → Act Value) : Getter :=
  fun object => do get (← builder.targetOf object)

def guardSet (builder : TableBuilder Target) (set : Target → Value → Act Unit) : Setter :=
  fun object value => do set (← builder.targetOf object) value

def addProperty (builder : TableBuilder Target) (property : Property) : TableBuilder Target :=
  builder.change fun table => { table with properties := table.properties ++ [property] }

/-- A property that can be read and written. -/
def property (builder : TableBuilder Target) (name : String) (type : ValueType)
    (get : Target → Act Value) (set : Target → Value → Act Unit) : TableBuilder Target :=
  builder.addProperty ⟨name, type, some (builder.guardGet get), some (builder.guardSet set)⟩

/-- A property that can only be read. -/
def getter (builder : TableBuilder Target) (name : String) (type : ValueType)
    (get : Target → Act Value) : TableBuilder Target :=
  builder.addProperty ⟨name, type, some (builder.guardGet get), none⟩

/-- A property that can only be written. -/
def setter (builder : TableBuilder Target) (name : String) (type : ValueType)
    (set : Target → Value → Act Unit) : TableBuilder Target :=
  builder.addProperty ⟨name, type, none, some (builder.guardSet set)⟩

/-- A field, which is read-only without a setter. -/
def field (builder : TableBuilder Target) (name : String) (type : ValueType)
    (get : Target → Act Value) (set? : Option (Target → Value → Act Unit)) :
    TableBuilder Target :=
  let field : Field := ⟨name, type, builder.guardGet get, set?.map builder.guardSet⟩
  builder.change fun table => { table with fields := table.fields ++ [field] }

def addIndexer (builder : TableBuilder Target) (indexer : Indexer) : TableBuilder Target :=
  builder.change fun table => { table with indexers := table.indexers ++ [indexer] }

/-- An indexer; without a setter it can only be read. -/
def indexer (builder : TableBuilder Target) (name : String) (parameters : List Parameter)
    (type : ValueType) (get : Target → List Value → Act Value)
    (set? : Option (Target → List Value → Value → Act Unit)) : TableBuilder Target :=
  builder.addIndexer
    { name := name
      parameters := parameters
      type := type
      get? := some fun object indices => do get (← builder.targetOf object) indices
      set? := set?.map fun set object indices value => do
        set (← builder.targetOf object) indices value }

/-- The finished table. -/
def build (builder : TableBuilder Target) : MemberTable :=
  builder.own.withShared builder.shared

end TableBuilder

end MachineConsole
