import MachineConsole.Text.Pieces

/-!
Contract: the scopes of variable and macro names.

Owns:
- `Scopes`: the scope of the current machine and the scopes of all machines;
- when a name is bare, and its full form;
- the full names that a name is looked up under, in order.

A full name is a scope, a dot and the rest of the name. The global scope is always known.
-/

namespace MachineConsole

/-- The scope in effect, if a machine is current, and every scope of a machine. -/
structure Scopes where
  current? : Option String
  machines : List String
deriving DecidableEq, Repr

/-- A name cut at its first dot. -/
def headAndRest? (name : String) : Option (String × String) :=
  (Text.cut? '.' name.toList).map fun parts =>
    (String.ofList parts.1, String.ofList parts.2)

namespace Scopes

/-- The scope of names that do not depend on the current machine. -/
def globalScope : String := "global"

/-- A name in a scope. -/
def inScope (scope name : String) : String :=
  scope ++ "." ++ name

/-- The full form of a global name. -/
def global (name : String) : String :=
  inScope globalScope name

/-- Whether a text is a known scope. -/
def isKnown (scopes : Scopes) (scope : String) : Bool :=
  scope == globalScope || scopes.machines.contains scope

/-- A name is bare unless what stands in front of its first dot is a known scope. -/
def isBare (scopes : Scopes) (name : String) : Bool :=
  match headAndRest? name with
  | none => true
  | some (head, _) => !scopes.isKnown head

/-- The full form of a name: a bare one belongs to the scope in effect. -/
def qualify (scopes : Scopes) (name : String) : String :=
  if scopes.isBare name then inScope (scopes.current?.getD globalScope) name else name

/-- The full names a name may mean, the most specific first. -/
def candidates (scopes : Scopes) (name : String) : List String :=
  [name] ++ (scopes.current?.map fun scope => inScope scope name).toList ++ [global name]

/-- A name as shown to the user: without the global scope or the scope in effect. -/
def unqualified (scopes : Scopes) (name : String) : String :=
  match headAndRest? name with
  | none => name
  | some (head, rest) =>
    if head = globalScope || scopes.current? = some head then rest else name

end Scopes

end MachineConsole
