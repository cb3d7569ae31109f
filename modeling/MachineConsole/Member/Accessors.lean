import MachineConsole.Member.Table

/-!
Contract: the accessors of members, applied to an object without regard to overloads.

Owns: `accessors`, every accessor of a table and of extension methods as a named action on an
object: methods without arguments, reads, and writes of null, in the order in which the members are
declared.

Does not own: the check that the object is of the right type, which each accessor makes itself.
-/

namespace MachineConsole

/-- A write of null as an action whose value is null. -/
def Act.writing (action : Act Unit) : Act Value := do
  action
  return .null

def Method.accessor (method : Method) (object : ObjectRef) : String × Act Value :=
  (method.name, method.call object [])

/-- The read and the write that a property offers. -/
def Property.accessors (property : Property) (object : ObjectRef) : List (String × Act Value) :=
  (property.get?.map fun get => (property.name, get object)).toList ++
    (property.set?.map fun set => (property.name, Act.writing (set object .null))).toList

def Field.accessor (field : Field) (object : ObjectRef) : String × Act Value :=
  (field.name, field.get object)

/-- The read and the write without indices that an indexer offers. -/
def Indexer.accessors (indexer : Indexer) (object : ObjectRef) : List (String × Act Value) :=
  (indexer.get?.map fun get => (indexer.name, get object [])).toList ++
    (indexer.set?.map fun set => (indexer.name, Act.writing (set object [] .null))).toList

/-- Every accessor of a table and of extension methods on an object. -/
def MemberTable.accessors (table : MemberTable) (extensions : List Method) (object : ObjectRef) :
    List (String × Act Value) :=
  (table.methods ++ extensions).map (fun method => method.accessor object) ++
    table.properties.flatMap (fun property => property.accessors object) ++
    table.fields.map (fun field => field.accessor object) ++
    table.indexers.flatMap (fun indexer => indexer.accessors object)

end MachineConsole
