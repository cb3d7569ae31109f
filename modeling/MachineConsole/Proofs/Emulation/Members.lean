import MachineConsole.Device.Builtin
import MachineConsole.Proofs.Emulation.Advancing
import MachineConsole.Proofs.Member.Access
import MachineConsole.Proofs.Member.Sharing

/-!
Contract: what actions of objects do to the emulation of a manager.

Owns:
- actions that advance the world, and members whose accessors all do;
- invocations, each of which is one use of an accessor that advances the world;
- `Registry.builtin_advances`: no member of the objects that every console has removes a machine
  otherwise than by replacing the emulation.
-/

namespace MachineConsole

variable {manager : Nat}

/-! ### Actions -/

namespace Act

/-- The action advances every world. -/
def Advances {α : Type} (manager : Nat) (action : Act α) : Prop :=
  ∀ world : World, world.Advances manager (action world).2

namespace Advances

variable {α β : Type}

theorem pure (value : α) : Advances manager (Pure.pure value : Act α) :=
  fun world => World.Advances.refl world

theorem throw (fault : Fault) : Advances manager (MonadExcept.throw fault : Act α) :=
  fun world => World.Advances.refl world

theorem bind {action : Act α} {next : α → Act β} (first : Advances manager action)
    (rest : ∀ value, Advances manager (next value)) : Advances manager (action >>= next) := by
  intro world
  have firstAdvances := first world
  rw [bind_run]
  cases outcome : action world with
  | mk result after =>
      rw [outcome] at firstAdvances
      cases result with
      | ok value => exact firstAdvances.trans (rest value after)
      | error fault => exact firstAdvances

theorem reading (read : World → Value) : Advances manager (Builtin.reading read) :=
  fun world => World.Advances.refl world

theorem effect {change : World → World}
    (advances : ∀ world : World, world.Advances manager (change world)) :
    Advances manager (Builtin.effect change) :=
  advances

end Advances

end Act

/-! ### Members -/

def Method.Advances (manager : Nat) (method : Method) : Prop :=
  ∀ object arguments, Act.Advances manager (method.call object arguments)

def Property.Advances (manager : Nat) (property : Property) : Prop :=
  (∀ get ∈ property.get?, ∀ object, Act.Advances manager (get object)) ∧
    ∀ set ∈ property.set?, ∀ object value, Act.Advances manager (set object value)

def Field.Advances (manager : Nat) (field : Field) : Prop :=
  (∀ object, Act.Advances manager (field.get object)) ∧
    ∀ set ∈ field.set?, ∀ object value, Act.Advances manager (set object value)

def Slot.Advances (manager : Nat) (slot : Slot) : Prop :=
  (∀ get ∈ slot.get?, ∀ object, Act.Advances manager (get object)) ∧
    ∀ set ∈ slot.set?, ∀ object value, Act.Advances manager (set object value)

def Indexer.Advances (manager : Nat) (indexer : Indexer) : Prop :=
  (∀ get ∈ indexer.get?, ∀ object indices, Act.Advances manager (get object indices)) ∧
    ∀ set ∈ indexer.set?, ∀ object indices value, Act.Advances manager (set object indices value)

namespace Slot.Advances

theorem field {field : Field} (advances : field.Advances manager) : field.slot.Advances manager := by
  refine ⟨?_, advances.2⟩
  rintro _ ⟨⟩
  exact advances.1

theorem indexer {indexer : Indexer} (advances : indexer.Advances manager)
    (indices : List Value) : (indexer.slot indices).Advances manager := by
  constructor
  · intro get readable object
    obtain ⟨indexGet, isReadable, rfl⟩ := Option.map_eq_some_iff.mp readable
    exact advances.1 indexGet isReadable object indices
  · intro set writable object value
    obtain ⟨indexSet, isWritable, rfl⟩ := Option.map_eq_some_iff.mp writable
    exact advances.2 indexSet isWritable object indices value

end Slot.Advances

/-- Every accessor of the table advances the world. -/
structure MemberTable.Advances (manager : Nat) (table : MemberTable) : Prop where
  methods : ∀ method ∈ table.methods, method.Advances manager
  properties : ∀ property ∈ table.properties, property.Advances manager
  fields : ∀ field ∈ table.fields, field.Advances manager
  indexers : ∀ indexer ∈ table.indexers, indexer.Advances manager

/-- Every registered accessor advances the world. -/
structure Registry.Advances (manager : Nat) (registry : Registry) : Prop where
  tables : ∀ entry ∈ registry.tables, entry.2.Advances manager
  extensions : ∀ entry ∈ registry.extensions, entry.2.Advances manager

namespace Registry.Advances

variable {registry : Registry}

theorem table (advances : registry.Advances manager) {object : ObjectRef} {table : MemberTable}
    (found : registry.table? object = some table) : table.Advances manager := by
  obtain ⟨before, after, split, _⟩ := List.lookup_eq_some_iff.mp found
  apply advances.tables (object.typeKey, table)
  rw [split]
  exact List.mem_append_right before List.mem_cons_self

theorem extension (advances : registry.Advances manager) {object : ObjectRef} {method : Method}
    (member : method ∈ registry.extensionsOf object) : method.Advances manager := by
  obtain ⟨entry, filtered, rfl⟩ := List.mem_map.mp member
  exact advances.extensions entry (List.mem_filter.mp filtered).1

end Registry.Advances

/-! ### Invocations -/

/-- Using the accessor advances the world. -/
def Action.Advances (manager : Nat) (action : Action) : Prop :=
  ∀ object, Act.Advances manager (action.perform object)

namespace Action.Advances

theorem call {method : Method} (advances : method.Advances manager) (arguments : List Value) :
    Action.Advances manager (.call method arguments) :=
  fun object => Act.Advances.bind (advances object arguments) fun _ => Act.Advances.pure _

theorem read {get : Getter} (advances : ∀ object, Act.Advances manager (get object))
    (type : ValueType) : Action.Advances manager (.read get type) :=
  fun object => Act.Advances.bind (advances object) fun _ => Act.Advances.pure _

theorem write {set : Setter} {value : Value}
    (advances : ∀ object, Act.Advances manager (set object value)) :
    Action.Advances manager (.write set value) :=
  fun object => Act.Advances.bind (advances object) fun _ => Act.Advances.pure _

end Action.Advances

namespace Registry.Advances

variable {registry : Registry} {object : ObjectRef}

theorem callable (advances : registry.Advances manager) {method : Method}
    (callable : registry.Callable object method) : method.Advances manager := by
  cases callable with
  | own found member => exact (advances.table found).methods method member
  | extension member => exact advances.extension member

theorem provided (advances : registry.Advances manager) {slot : Slot}
    (provided : registry.Provides object slot) : slot.Advances manager := by
  cases provided with
  | field found member => exact Slot.Advances.field ((advances.table found).fields _ member)
  | property found member => exact (advances.table found).properties _ member
  | indexer found member indices =>
      exact Slot.Advances.indexer ((advances.table found).indexers _ member) indices

/-- Whatever an object offers, it is one use of a registered accessor. -/
theorem offered (advances : registry.Advances manager) {event : Event} {action : Action}
    (offered : registry.Offers object event action) : action.Advances manager := by
  cases offered with
  | call callable arguments => exact Action.Advances.call (advances.callable callable) arguments
  | read provided readable =>
      exact Action.Advances.read ((advances.provided provided).1 _ readable) _
  | write provided writable value =>
      exact Action.Advances.write fun object =>
        (advances.provided provided).2 _ writable object value

end Registry.Advances

namespace ActionRequest

variable {request : ActionRequest} {context : ConversionContext}

theorem invoke_advances (advances : context.registry.Advances manager) :
    Act.Advances manager (request.invoke context) := by
  unfold invoke
  split
  · exact Act.Advances.throw _
  · next action asked =>
      obtain ⟨event, offered⟩ := action?_offered asked
      exact advances.offered offered request.object

end ActionRequest

/-! ### Tables -/

namespace MemberTable

theorem mem_of_mem_extendUnless {α : Type} {hides : α → α → Bool} {present items : List α}
    {item : α} (member : item ∈ extendUnless hides present items) :
    item ∈ present ∨ item ∈ items := by
  obtain ⟨kept, split, keeps, _⟩ := extendUnless_keeps hides present items
  rw [split] at member
  exact (List.mem_append.mp member).imp_right fun added => keeps.sublist.subset added

namespace Advances

theorem empty (name : String) : (MemberTable.empty name).Advances manager :=
  ⟨nofun, nofun, nofun, nofun⟩

theorem withShared {own shared : MemberTable} (ownAdvances : own.Advances manager)
    (sharedAdvances : shared.Advances manager) : (own.withShared shared).Advances manager where
  methods method member := by
    cases List.mem_append.mp member with
    | inl early => exact ownAdvances.methods method early
    | inr late => exact sharedAdvances.methods method (List.mem_filter.mp late).1
  properties property member := by
    cases mem_of_mem_extendUnless member with
    | inl early => exact ownAdvances.properties property early
    | inr late => exact sharedAdvances.properties property late
  fields field member := by
    cases mem_of_mem_extendUnless member with
    | inl early => exact ownAdvances.fields field early
    | inr late => exact sharedAdvances.fields field late
  indexers indexer member := by
    cases mem_of_mem_extendUnless member with
    | inl early => exact ownAdvances.indexers indexer early
    | inr late => exact sharedAdvances.indexers indexer late

end Advances

end MemberTable

namespace TableBuilder

variable {Target : Type} {builder : TableBuilder Target}

/-- Every accessor collected so far advances the world. -/
structure Advances (manager : Nat) (builder : TableBuilder Target) : Prop where
  own : builder.own.Advances manager
  shared : builder.shared.Advances manager

namespace Advances

theorem create (name : String) (target? : ObjectRef → Option Target) :
    (TableBuilder.create name target?).Advances manager :=
  ⟨MemberTable.Advances.empty name, MemberTable.Advances.empty name⟩

theorem build (advances : builder.Advances manager) : builder.build.Advances manager :=
  advances.own.withShared advances.shared

theorem implements (advances : builder.Advances manager) (interface : String) :
    (builder.implements interface).Advances manager :=
  ⟨⟨advances.own.methods, advances.own.properties, advances.own.fields, advances.own.indexers⟩,
    advances.shared⟩

theorem change {step : MemberTable → MemberTable} (advances : builder.Advances manager)
    (stepAdvances : ∀ table, table.Advances manager → (step table).Advances manager) :
    (builder.change step).Advances manager := by
  unfold TableBuilder.change
  split
  · exact ⟨advances.own, stepAdvances builder.shared advances.shared⟩
  · exact ⟨stepAdvances builder.own advances.own, advances.shared⟩

theorem targetOf (object : ObjectRef) : Act.Advances manager (builder.targetOf object) := by
  unfold TableBuilder.targetOf
  split
  · exact Act.Advances.pure _
  · exact Act.Advances.throw _

theorem addMethod (advances : builder.Advances manager) (takesRest : Bool) (name : String)
    (parameters : List Parameter) (result : ValueType) {run : Target → List Value → Act Value}
    (runAdvances : ∀ target arguments, Act.Advances manager (run target arguments)) :
    (builder.addMethod takesRest name parameters result run).Advances manager := by
  unfold TableBuilder.addMethod
  apply advances.change
  intro table tableAdvances
  refine { tableAdvances with methods := ?_ }
  intro method member
  cases List.mem_append.mp member with
  | inl earlier => exact tableAdvances.methods method earlier
  | inr added =>
      rw [List.mem_singleton.mp added]
      exact fun object arguments =>
        Act.Advances.bind (targetOf object) fun target => runAdvances target arguments

theorem addProperty (advances : builder.Advances manager) {property : Property}
    (propertyAdvances : property.Advances manager) :
    (builder.addProperty property).Advances manager := by
  apply advances.change
  intro table tableAdvances
  refine { tableAdvances with properties := ?_ }
  intro other member
  cases List.mem_append.mp member with
  | inl earlier => exact tableAdvances.properties other earlier
  | inr added =>
      rw [List.mem_singleton.mp added]
      exact propertyAdvances

theorem getter (advances : builder.Advances manager) (name : String) (type : ValueType)
    {get : Target → Act Value} (getAdvances : ∀ target, Act.Advances manager (get target)) :
    (builder.getter name type get).Advances manager := by
  apply advances.addProperty
  refine ⟨?_, nofun⟩
  rintro _ ⟨⟩ object
  exact Act.Advances.bind (targetOf object) getAdvances

end Advances

end TableBuilder

namespace Builtin

theorem managerTable_advances : managerTable.Advances manager := by
  apply TableBuilder.Advances.build
  apply TableBuilder.Advances.getter _ _ _ fun _ => Act.Advances.pure _
  apply TableBuilder.Advances.getter _ _ _ fun _ => Act.Advances.reading _
  apply TableBuilder.Advances.addMethod (TableBuilder.Advances.create _ _)
  exact fun replaced _ => Act.Advances.effect fun world => world.replaceEmulation_advances replaced

theorem emulationTable_advances : emulationTable.Advances manager := by
  apply TableBuilder.Advances.build
  have pausing (emulation : Nat) (paused : Bool) : Act.Advances manager
      (effect fun world => world.setAllPaused emulation paused) :=
    Act.Advances.effect fun world => world.setAllPaused_advances emulation paused
  apply TableBuilder.Advances.addMethod _ _ _ _ _ fun emulation _ => pausing emulation true
  apply TableBuilder.Advances.addMethod _ _ _ _ _ fun emulation _ => pausing emulation false
  apply TableBuilder.Advances.addMethod _ _ _ _ _ fun _ _ => Act.Advances.reading _
  apply TableBuilder.Advances.getter (TableBuilder.Advances.create _ _)
  exact fun _ => Act.Advances.reading _

theorem machineTable_advances : machineTable.Advances manager := by
  have changing (machine : MachineHandle) (change : Machine → Machine) : Act.Advances manager
      (effect fun world => world.updateMachine machine change) :=
    Act.Advances.effect fun world => world.updateMachine_advances machine change
  apply TableBuilder.Advances.build
  apply TableBuilder.Advances.addMethod _ _ _ _ _ fun _ _ => Act.Advances.reading _
  apply TableBuilder.Advances.addMethod _ _ _ _ _ fun machine _ => changing machine _
  apply TableBuilder.Advances.addMethod _ _ _ _ _ fun machine _ => changing machine _
  apply TableBuilder.Advances.addMethod _ _ _ _ _ fun machine _ => changing machine _
  apply TableBuilder.Advances.getter _ _ _ fun _ => Act.Advances.reading _
  apply TableBuilder.Advances.getter (TableBuilder.Advances.create _ _)
  exact fun _ => Act.Advances.pure _

theorem addressArgument_advances (arguments : List Value) :
    Act.Advances manager (addressArgument arguments) := by
  unfold addressArgument
  split
  · exact Act.Advances.pure _
  · exact Act.Advances.throw _

theorem busTable_advances : busTable.Advances manager := by
  have changing (bus : Nat) (change : Bus → Bus) : Act.Advances manager
      (effect fun world => world.updateBus bus change) :=
    Act.Advances.effect fun world => world.updateBus_advances bus change
  apply TableBuilder.Advances.build
  apply TableBuilder.Advances.addMethod _ _ _ _ _ fun bus arguments =>
    Act.Advances.bind (addressArgument_advances arguments) fun _ => changing bus _
  apply TableBuilder.Advances.addMethod _ _ _ _ _ fun _ arguments =>
    Act.Advances.bind (addressArgument_advances arguments) fun _ => Act.Advances.reading _
  apply TableBuilder.Advances.addMethod _ _ _ _ _ fun bus arguments =>
    Act.Advances.bind (addressArgument_advances arguments) fun _ => changing bus _
  apply TableBuilder.Advances.addMethod _ _ _ _ _ fun _ arguments =>
    Act.Advances.bind (addressArgument_advances arguments) fun _ => Act.Advances.reading _
  exact (TableBuilder.Advances.create _ _).implements _

theorem groupTable_advances : groupTable.Advances manager := by
  apply TableBuilder.Advances.build
  apply TableBuilder.Advances.addMethod _ _ _ _ _ fun _ _ => Act.Advances.reading _
  apply TableBuilder.Advances.getter _ _ _ fun _ => Act.Advances.reading _
  apply TableBuilder.Advances.getter _ _ _ fun _ => Act.Advances.pure _
  exact (TableBuilder.Advances.create _ _).implements _

end Builtin

namespace Registry

theorem Advances.register {registry : Registry} {table : MemberTable}
    (advances : registry.Advances manager) (key : TypeKey) (tableAdvances : table.Advances manager) :
    (registry.register key table).Advances manager := by
  refine { advances with tables := ?_ }
  intro entry member
  cases List.mem_append.mp member with
  | inl earlier => exact advances.tables entry (List.mem_filter.mp earlier).1
  | inr added =>
      rw [List.mem_singleton.mp added]
      exact tableAdvances

theorem builtin_advances : builtin.Advances manager := by
  have empty : Registry.empty.Advances manager := ⟨nofun, nofun⟩
  exact empty
    |>.register _ Builtin.managerTable_advances
    |>.register _ Builtin.emulationTable_advances
    |>.register _ Builtin.machineTable_advances
    |>.register _ Builtin.busTable_advances
    |>.register _ Builtin.groupTable_advances

end Registry

end MachineConsole
