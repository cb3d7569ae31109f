import MachineConsole.Member.Table

/-!
Contract: the member tables of all concrete types and the methods added to types from outside.

Owns: `Registry`, registration, and what is known about an object through its concrete type.
-/

namespace MachineConsole

/-- At most one table for a type, and extension methods in order of registration. -/
structure Registry where
  tables : List (TypeKey × MemberTable)
  extensions : List (TypeKey × Method)

namespace Registry

def empty : Registry := ⟨[], []⟩

/-- Registers the table of a type in place of any earlier one. -/
def register (registry : Registry) (key : TypeKey) (table : MemberTable) : Registry :=
  { registry with tables := registry.tables.filter (fun entry => entry.1 != key) ++ [(key, table)] }

/-- Adds a method to a type from outside its table. -/
def registerExtension (registry : Registry) (key : TypeKey) (method : Method) : Registry :=
  { registry with extensions := registry.extensions ++ [(key, method)] }

/-- The table of an object's type. -/
def table? (registry : Registry) (object : ObjectRef) : Option MemberTable :=
  registry.tables.lookup object.typeKey

/-- The extension methods of an object's type. -/
def extensionsOf (registry : Registry) (object : ObjectRef) : List Method :=
  (registry.extensions.filter fun entry => entry.1 == object.typeKey).map Prod.snd

/-- Whether an object's type has a name or satisfies the interface of that name. -/
def isInstance (registry : Registry) (object : ObjectRef) (name : String) : Bool :=
  (registry.table? object).any fun table => table.satisfies name

/-- The name of an object's type. -/
def typeName (registry : Registry) (object : ObjectRef) : String :=
  ((registry.table? object).map MemberTable.name).getD "object"

/-- The number of types with a table. -/
def size (registry : Registry) : Nat :=
  registry.tables.length

end Registry

end MachineConsole
