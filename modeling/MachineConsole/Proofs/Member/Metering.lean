import MachineConsole.Proofs.Member.Agreement

/-!
Contract: members whose accessors keep count of their uses.

Owns:
- `Act.metered`: an action that leaves exactly one entry in the journal, whatever it enters itself;
- tables, registries and contexts in which every accessor is metered;
- conversion of values and the acceptance of arguments, which metering does not alter.

Metering replaces the accessors and nothing else, and no accessor is looked into before it is used.
-/

namespace MachineConsole

/-- The action, with one entry for itself in place of its own entries in the journal. -/
def Act.metered {α : Type} (event : Event) (action : Act α) : Act α :=
  ExceptT.mk fun world =>
    let (result, after) := action world
    (result, { after with journal := world.journal ++ [event] })

namespace Method

/-- The entry for a use of the method. -/
def use (method : Method) (arguments : List Value) : Event :=
  .called method.owner method.name arguments

def metered (method : Method) : Method :=
  { method with call := fun object arguments =>
      (method.call object arguments).metered (method.use arguments) }

end Method

/-- A place of an object that can be read or written: a field, a property, or an indexer at some
indices. -/
structure Slot where
  name : String
  indices : List Value
  type : ValueType
  get? : Option Getter
  set? : Option Setter

namespace Slot

/-- The entry for a use of the getter. -/
def reading (slot : Slot) : Event :=
  .called "get" slot.name slot.indices

/-- The entry for a use of the setter. -/
def writing (slot : Slot) (value : Value) : Event :=
  .called "set" slot.name (slot.indices ++ [value])

def metered (slot : Slot) : Slot :=
  { slot with
    get? := slot.get?.map fun get object => (get object).metered slot.reading
    set? := slot.set?.map fun set object value => (set object value).metered (slot.writing value) }

end Slot

namespace Field

def slot (field : Field) : Slot :=
  ⟨field.name, [], field.type, some field.get, field.set?⟩

def metered (field : Field) : Field :=
  { field with
    get := fun object => (field.get object).metered field.slot.reading
    set? := field.slot.metered.set? }

theorem slot_metered (field : Field) : field.metered.slot = field.slot.metered := rfl

end Field

namespace Property

def slot (property : Property) : Slot :=
  ⟨property.name, [], property.type, property.get?, property.set?⟩

def metered (property : Property) : Property :=
  { property with get? := property.slot.metered.get?, set? := property.slot.metered.set? }

theorem slot_metered (property : Property) : property.metered.slot = property.slot.metered := rfl

end Property

namespace Indexer

def slot (indexer : Indexer) (indices : List Value) : Slot :=
  { name := indexer.name
    indices := indices
    type := indexer.type
    get? := indexer.get?.map fun get object => get object indices
    set? := indexer.set?.map fun set object value => set object indices value }

def metered (indexer : Indexer) : Indexer :=
  { indexer with
    get? := indexer.get?.map fun get object indices =>
      (get object indices).metered (indexer.slot indices).reading
    set? := indexer.set?.map fun set object indices value =>
      (set object indices value).metered ((indexer.slot indices).writing value) }

theorem slot_metered (indexer : Indexer) (indices : List Value) :
    indexer.metered.slot indices = (indexer.slot indices).metered := by
  unfold slot metered Slot.metered
  simp only [Option.map_map]
  rfl

end Indexer

namespace MemberTable

def metered (table : MemberTable) : MemberTable :=
  { table with
    methods := table.methods.map Method.metered
    properties := table.properties.map Property.metered
    fields := table.fields.map Field.metered
    indexers := table.indexers.map Indexer.metered }

variable (table : MemberTable) (name : String)

theorem methodsNamed_metered :
    table.metered.methodsNamed name = (table.methodsNamed name).map Method.metered :=
  List.filter_map

theorem property?_metered :
    table.metered.property? name = (table.property? name).map Property.metered :=
  List.find?_map

theorem field?_metered : table.metered.field? name = (table.field? name).map Field.metered :=
  List.find?_map

theorem indexersNamed_metered :
    table.metered.indexersNamed name = (table.indexersNamed name).map Indexer.metered :=
  List.filter_map

theorem defaultIndexerName?_metered :
    table.metered.defaultIndexerName? = table.defaultIndexerName? := by
  unfold defaultIndexerName? metered
  cases table.indexers with
  | nil => rfl
  | cons first rest => simp only [List.map_cons, List.all_map]; rfl

end MemberTable

namespace Registry

def metered (registry : Registry) : Registry where
  tables := registry.tables.map fun entry => (entry.1, entry.2.metered)
  extensions := registry.extensions.map fun entry => (entry.1, entry.2.metered)

variable (registry : Registry) (object : ObjectRef)

theorem table?_metered :
    registry.metered.table? object = (registry.table? object).map MemberTable.metered := by
  unfold table? metered
  dsimp only
  induction registry.tables with
  | nil => rfl
  | cons entry rest inductionHypothesis =>
      obtain ⟨key, table⟩ := entry
      simp only [List.map_cons, List.lookup_cons]
      cases object.typeKey == key with
      | true => rfl
      | false => exact inductionHypothesis

theorem extensionsOf_metered :
    registry.metered.extensionsOf object =
      (registry.extensionsOf object).map Method.metered := by
  unfold extensionsOf metered
  rw [List.filter_map, List.map_map, List.map_map]
  rfl

theorem isInstance_metered : registry.metered.isInstance = registry.isInstance := by
  funext object name
  unfold isInstance
  rw [table?_metered, Option.any_map]
  rfl

theorem typeName_metered : registry.metered.typeName = registry.typeName := by
  funext object
  unfold typeName
  rw [table?_metered, Option.map_map]
  rfl

end Registry

namespace ConversionContext

def metered (context : ConversionContext) : ConversionContext :=
  { context with registry := context.registry.metered }

variable (context : ConversionContext)

theorem table?_metered (object : ObjectRef) :
    context.metered.registry.table? object =
      (context.registry.table? object).map MemberTable.metered :=
  context.registry.table?_metered object

/-- Metering leaves the types of objects as they are. -/
theorem agrees_metered : context.Agrees context.metered :=
  ⟨rfl, rfl, context.registry.isInstance_metered, context.registry.typeName_metered⟩

theorem convert_metered (token : Token) (type : ValueType) :
    context.metered.convert token type = context.convert token type :=
  context.agrees_metered.convert token type

theorem arguments?_metered (method : Method) (tokens : List Token) :
    context.metered.arguments? method.metered tokens = context.arguments? method tokens :=
  context.agrees_metered.arguments? method tokens

end ConversionContext

namespace ActionRequest

variable (context : ConversionContext)

theorem indices?_metered (indexer : Indexer) (tokens : List Token) :
    indices? context.metered indexer.metered tokens = indices? context indexer tokens :=
  context.agrees_metered.indices? indexer tokens

/-- The same indexer accepts the tokens, with the same indices. -/
theorem findSome?_indices?_metered (indexers : List Indexer) (tokens : List Token) :
    ((indexers.map Indexer.metered).findSome? fun indexer =>
        (indices? context.metered indexer tokens).map fun indices => (indexer, indices)) =
      (indexers.findSome? fun indexer =>
        (indices? context indexer tokens).map fun indices => (indexer, indices)).map
          (Prod.map Indexer.metered id) := by
  rw [List.findSome?_map, List.map_findSome?]
  congr 1
  funext indexer
  simp only [Function.comp_apply, indices?_metered, Option.map_map]
  rfl

end ActionRequest

end MachineConsole
