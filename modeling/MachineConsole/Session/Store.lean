import MachineConsole.Fault
import MachineConsole.Session.Scope
import MachineConsole.Token.Basic
import Std.Data.TreeMap

/-!
Contract: variables and macros, tokens stored under full names.

Owns:
- `VariableStore` with storing, removal and look-up under the scopes in effect;
- replacing variable tokens by the tokens stored for them.
-/

namespace MachineConsole

/-- The two stores of a session. -/
inductive StoreKind where
  | variables
  | macros
deriving DecidableEq, Repr

/-- The command that writes to a store. -/
def StoreKind.commandName : StoreKind → String
  | .variables => "set"
  | .macros => "macro"

/-- Tokens by full name. -/
structure VariableStore where
  entries : Std.TreeMap String Token

namespace VariableStore

def empty : VariableStore := ⟨∅⟩

def get? (store : VariableStore) (fullName : String) : Option Token :=
  store.entries[fullName]?

def insert (store : VariableStore) (fullName : String) (value : Token) : VariableStore :=
  ⟨store.entries.insert fullName value⟩

def erase (store : VariableStore) (fullName : String) : VariableStore :=
  ⟨store.entries.erase fullName⟩

/-- Stores a token under the full form of a name. -/
def set (store : VariableStore) (scopes : Scopes) (name : String) (value : Token) :
    VariableStore :=
  store.insert (scopes.qualify name) value

/-- The first of the full names a name may mean that has a token, with that token. -/
def lookup? (store : VariableStore) (scopes : Scopes) (name : String) : Option (String × Token) :=
  (scopes.candidates name).findSome? fun candidate =>
    (store.get? candidate).map fun value => (candidate, value)

def contains (store : VariableStore) (scopes : Scopes) (name : String) : Bool :=
  (store.lookup? scopes name).isSome

/-- A variable token becomes the token stored for it; any other stays. -/
def expand (store : VariableStore) (scopes : Scopes) (token : Token) : Except Fault Token :=
  match token.kind with
  | .variable name =>
    match store.lookup? scopes name with
    | some (_, value) => .ok value
    | none => .error (.noSuchVariable name)
  | _ => .ok token

/-- Expands every token; the first unknown variable is a fault. -/
def expandAll (store : VariableStore) (scopes : Scopes) (tokens : List Token) :
    Except Fault (List Token) :=
  tokens.mapM (store.expand scopes)

/-- Expands the variables that are known and leaves the others as they are. -/
def expandKnown (store : VariableStore) (scopes : Scopes) (tokens : List Token) : List Token :=
  tokens.map fun token => (store.expand scopes token).toOption.getD token

/-- The full names in order. -/
def names (store : VariableStore) : List String :=
  store.entries.keys

def size (store : VariableStore) : Nat :=
  store.entries.size

def isEmpty (store : VariableStore) : Bool :=
  store.entries.isEmpty

end VariableStore

end MachineConsole
