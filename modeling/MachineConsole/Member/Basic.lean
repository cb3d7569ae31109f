import MachineConsole.World.Basic

/-!
Contract: the members of objects that commands can use.

Owns:
- `Parameter`, `Method`, `Property`, `Field` and `Indexer`, each with its accessors;
- the texts that show parameters and methods;
- `Method.element?`: the type of the arguments that a method takes without a bound on their number.

Does not own: which member an invocation means, which is `MachineConsole.Member.Action`.
-/

namespace MachineConsole

/-- A declared parameter. A parameter with a default may be left out. -/
structure Parameter where
  name : String
  type : ValueType
  default? : Option Value
  /-- The values that are allowed, if not all are. -/
  allowed? : Option (List Value)

namespace Parameter

/-- A required parameter that takes every value of its type. -/
def required (name : String) (type : ValueType) : Parameter :=
  ⟨name, type, none, none⟩

def isOptional (parameter : Parameter) : Bool :=
  parameter.default?.isSome

/-- Whether a value is allowed. -/
def allows (parameter : Parameter) (value : Value) : Bool :=
  match parameter.allowed? with
  | none => true
  | some allowed => allowed.any fun item => item.same value

/-- The text of a default value. -/
def defaultText (labels : Labels) : Value → String
  | .null => "null"
  | .string text => "\x22" ++ text ++ "\x22"
  | value => value.display labels

/-- The type and the name, and the default if there is one. -/
def text (labels : Labels) (parameter : Parameter) : String :=
  match parameter.default? with
  | none => parameter.type.name ++ " " ++ parameter.name
  | some value =>
    parameter.type.name ++ " " ++ parameter.name ++ " = " ++ defaultText labels value

/-- Whether two optional values are both missing or equal. -/
def sameDefault : Option Value → Option Value → Bool
  | none, none => true
  | some value, some other => value.same other
  | _, _ => false

/-- Whether two restrictions are both missing or equal. -/
def sameAllowed : Option (List Value) → Option (List Value) → Bool
  | none, none => true
  | some values, some others => Value.sameItems values others
  | _, _ => false

/-- Equality of parameters. -/
def same (parameter other : Parameter) : Bool :=
  parameter.name == other.name && parameter.type == other.type &&
    sameDefault parameter.default? other.default? &&
    sameAllowed parameter.allowed? other.allowed?

/-- Equality of parameter lists. -/
def sameAll : List Parameter → List Parameter → Bool
  | [], [] => true
  | parameter :: rest, other :: others => parameter.same other && sameAll rest others
  | _, _ => false

end Parameter

/-- Texts of parameters with commas between them. -/
def parameterTexts (labels : Labels) (parameters : List Parameter) : String :=
  Text.join ", " (parameters.map (Parameter.text labels))

/-- A method. -/
structure Method where
  name : String
  parameters : List Parameter
  result : ValueType
  /-- The last parameter, if it is an array, takes all remaining arguments. -/
  takesRest : Bool
  /-- The name of the table or group of extensions that declares the method. -/
  owner : String
  call : ObjectRef → List Value → Act Value

namespace Method

/-- The element type of the array that takes all remaining arguments. -/
def element? (method : Method) : Option ValueType :=
  if method.takesRest then
    match method.parameters.getLast? with
    | some ⟨_, .array element, _, _⟩ => some element
    | _ => none
  else none

/-- How many parameters are strings; overloads with fewer are tried first. -/
def stringParameters (method : Method) : Nat :=
  method.parameters.countP fun parameter => parameter.type == .string

/-- The name with the types of the parameters. -/
def signature (method : Method) : String :=
  method.name ++ "(" ++
    Text.join ", " (method.parameters.map fun parameter => parameter.type.name) ++ ")"

/-- The declaration of the method. -/
def text (labels : Labels) (method : Method) : String :=
  method.result.name ++ " " ++ method.name ++ " (" ++ parameterTexts labels method.parameters ++ ")"

/-- The text of a method for inspection. -/
def inspect (method : Method) : String :=
  "MethodDescriptor(" ++ method.signature ++ " -> " ++ method.result.name ++ ")"

/-- The types of the parameters in order. -/
def parameterTypes (method : Method) : List ValueType :=
  method.parameters.map Parameter.type

end Method

abbrev Getter := ObjectRef → Act Value

abbrev Setter := ObjectRef → Value → Act Unit

abbrev IndexGetter := ObjectRef → List Value → Act Value

abbrev IndexSetter := ObjectRef → List Value → Value → Act Unit

/-- A property; either accessor may be missing. -/
structure Property where
  name : String
  type : ValueType
  get? : Option Getter
  set? : Option Setter

/-- A field; it can always be read. -/
structure Field where
  name : String
  type : ValueType
  get : Getter
  set? : Option Setter

def Field.isReadOnly (field : Field) : Bool :=
  field.set?.isNone

/-- Values stored under indices. -/
structure Indexer where
  name : String
  parameters : List Parameter
  type : ValueType
  get? : Option IndexGetter
  set? : Option IndexSetter

/-- Whether two indexers are told apart by neither name nor parameters. -/
def Indexer.sameKey (indexer other : Indexer) : Bool :=
  indexer.name == other.name && Parameter.sameAll indexer.parameters other.parameters

end MachineConsole
