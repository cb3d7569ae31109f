import MachineConsole.Member.Registry

/-!
Contract: values as values of a declared type.

Owns:
- which kinds of token may stand for a value of a type;
- the value that a token contributes as an argument;
- `coerce`: the value as a value of a type, or the cause for which there is none.
-/

namespace MachineConsole

open Number (Binary64)

/-- What conversion of values depends on. -/
structure ConversionContext where
  registry : Registry
  labels : Labels
  /-- The object that a name stands for. -/
  find? : String → Option ObjectRef

namespace Token

/-- Whether a token is the bare word `null`. -/
def isNullLiteral (token : Token) : Bool :=
  match token.kind with
  | .literal text => text == "null"
  | _ => false

/-- Whether a token of this kind may stand for a value of a type. -/
def isAcceptable (token : Token) : ValueType → Bool
  | .string =>
    match token.kind with
    | .string _ | .path _ => true
    | _ => false
  | .int _ =>
    match token.kind with
    | .integer _ => true
    | _ => false
  | .bool =>
    match token.kind with
    | .boolean _ => true
    | _ => false
  | .nullable inner => token.isNullLiteral || token.isAcceptable inner
  | _ => true

/-- The value a token contributes as an argument. -/
def argumentValue (token : Token) : Value :=
  if token.isNullLiteral then .null else token.value

end Token

namespace ConversionContext

/-- The cause for a value of the wrong kind. -/
def wrongKind (context : ConversionContext) (value : Value) (type : ValueType) : ConversionCause :=
  if value.isNull then .null type
  else .wrongKind value.kindName (value.display context.labels) type

/-- An integer within the bounds of a kind; bits above 63 are kept as a negative number. -/
def boundedInt (integer : Int) (kind : IntKind) : Except ConversionCause Value :=
  if kind.admits integer then .ok (.int (Int64.ofInt integer))
  else .error (.outOfRange (toString integer) kind)

/-- Whether an integer lies beyond the bounds of a kind even when these are rounded to numbers in
double precision. -/
def isFarBeyond (integer : Int) (kind : IntKind) : Bool :=
  integer < (Binary64.ofInt kind.least).truncate ||
    (Binary64.ofInt kind.greatest).truncate < integer

/-- A number as an integer: fractions are cut off. -/
def intOfFloat (number : Binary64) (kind : IntKind) : Except ConversionCause Value :=
  if !number.isFinite then .error (.notFinite number.text kind)
  else if isFarBeyond number.truncate kind then .error (.outOfRange number.text kind)
  else boundedInt number.truncate kind

/-- A value as an integer. A 64-bit pattern is taken as it is. -/
def toInt (context : ConversionContext) (kind : IntKind) : Value → Except ConversionCause Value
  | .int value => if kind = .u64 then .ok (.int value) else boundedInt value.toInt kind
  | .enum _ value => boundedInt value.toInt kind
  | .float number => intOfFloat number kind
  | value => .error (context.wrongKind value (.int kind))

/-- A value as a value of an enumeration: by name, by number, or as it is. -/
def toEnum (context : ConversionContext) (spec : EnumSpec) : Value → Except ConversionCause Value
  | .string name =>
    match spec.valueOf? name with
    | some value => .ok (.enum spec value)
    | none => .error (.undeclaredMember name spec.name)
  | .int value =>
    if spec.flags || spec.isDeclared value then .ok (.enum spec value)
    else .error (.undeclaredMember (toString value.toInt) spec.name)
  | .enum other value =>
    if other.name = spec.name then .ok (.enum other value)
    else .error (context.wrongKind (.enum other value) (.enum spec))
  | value => .error (context.wrongKind value (.enum spec))

/-- An object that satisfies a restriction. -/
def checkObject (context : ConversionContext) (required? : Option String) (object : ObjectRef) :
    Except ConversionCause Value :=
  match required? with
  | none => .ok (.object object)
  | some required =>
    if context.registry.isInstance object required then .ok (.object object)
    else .error (.wrongObject (context.registry.typeName object) (.object required?))

/-- A value as an object: null, an object, or the name of one. -/
def toObject (context : ConversionContext) (required? : Option String) :
    Value → Except ConversionCause Value
  | .null => .ok .null
  | .object object => context.checkObject required? object
  | .string name =>
    match context.find? name with
    | some object => context.checkObject required? object
    | none => .error (.noSuchObject name (.object required?))
  | value => .error (context.wrongKind value (.object required?))

/-- A value as a value of a type. -/
def coerce (context : ConversionContext) : ValueType → Value → Except ConversionCause Value
  | .any, value => .ok value
  | .nullable inner, value => if value.isNull then .ok .null else context.coerce inner value
  | .array element, .list items => (items.mapM (context.coerce element)).map .list
  | .int kind, value => context.toInt kind value
  | .enum spec, value => context.toEnum spec value
  | .object required?, value => context.toObject required? value
  | .bool, .bool value => .ok (.bool value)
  | .float, .float number => .ok (.float number)
  | .float, .int value => .ok (.float (Binary64.ofInt value.toInt))
  | .string, .string text => .ok (.string text)
  | .range, .range first last => .ok (.range first last)
  | type, value => .error (context.wrongKind value type)

/-- The value of a type that a token stands for. -/
def convert (context : ConversionContext) (token : Token) (type : ValueType) :
    Except ConversionCause Value :=
  if token.isAcceptable type then context.coerce type token.argumentValue
  else .error (.wrongToken token.kind.name token.raw type)

end ConversionContext

end MachineConsole
