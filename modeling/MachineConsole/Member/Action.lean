import MachineConsole.Member.Coercion

/-!
Contract: what an invocation does with an object.

Owns:
- finding the member that the arguments name, and among overloads the one that accepts them;
- `Action`, the single use of one accessor that an invocation comes down to;
- `ActionRequest.action?`, which decides on the action without touching any object, and
  `Action.perform`.

Methods come before fields, fields before properties, properties before indexers, and a type's own
methods before its extensions.
-/

namespace MachineConsole

/-- The value of an action and its declared type, by which it is shown. -/
structure ActionResult where
  value : Value
  type : ValueType

/-- The result of an action that only has an effect. -/
def ActionResult.unit : ActionResult := ⟨.null, .void⟩

/-- One use of one accessor. -/
inductive Action where
  | call (method : Method) (arguments : List Value)
  | read (get : Getter) (type : ValueType)
  | write (set : Setter) (value : Value)

/-- Uses the accessor on an object. -/
def Action.perform (object : ObjectRef) : Action → Act ActionResult
  | .call method arguments => return ⟨← method.call object arguments, method.result⟩
  | .read get type => return ⟨← get object, type⟩
  | .write set value => do
    set object value
    return .unit

namespace ConversionContext

/-- The argument for a parameter: the converted token, or the default without one. -/
def argument? (context : ConversionContext) (parameter : Parameter) (token? : Option Token) :
    Option Value := do
  let value ← match token? with
    | some token => (context.convert token parameter.type).toOption
    | none => parameter.default?
  if parameter.allows value then some value else none

/-- The arguments for parameters, and the tokens that are left. -/
def leadingArguments? (context : ConversionContext) :
    List Parameter → List Token → Option (List Value × List Token)
  | [], tokens => some ([], tokens)
  | parameter :: rest, tokens => do
    let value ← context.argument? parameter tokens.head?
    let (values, remaining) ← context.leadingArguments? rest tokens.tail
    return (value :: values, remaining)

/-- The converted arguments for a method, if it accepts the tokens. -/
def arguments? (context : ConversionContext) (method : Method) (tokens : List Token) :
    Option (List Value) :=
  match method.element? with
  | none => do
    let (values, remaining) ← context.leadingArguments? method.parameters tokens
    if remaining.isEmpty then some values else none
  | some element => do
    let (values, remaining) ← context.leadingArguments? method.parameters.dropLast tokens
    let absorbed ← remaining.mapM fun token => (context.convert token element).toOption
    return values ++ [.list absorbed]

/-- Whether an overload is tried no later than another: fewer parameters first, then fewer
strings. -/
def triedBefore (method other : Method) : Bool :=
  method.parameters.length < other.parameters.length ||
    (method.parameters.length == other.parameters.length &&
      method.stringParameters ≤ other.stringParameters)

/-- Whether an overload that accepts the tokens cannot be told apart from another. -/
def rivals (context : ConversionContext) (tokens : List Token) (method other : Method) : Bool :=
  other.owner == method.owner && other.parameterTypes == method.parameterTypes &&
    (context.arguments? other tokens).isSome

/-- The first overload that accepts the tokens, which none of the later ones may rival. -/
def firstAccepting (context : ConversionContext) (tokens : List Token) :
    List Method → Except Fault (Option Action)
  | [] => .ok none
  | method :: rest =>
    match context.arguments? method tokens with
    | none => context.firstAccepting tokens rest
    | some values =>
      match rest.find? (context.rivals tokens method) with
      | some rival =>
        .error (.ambiguous method.owner (method.text context.labels) (rival.text context.labels))
      | none => .ok (some (.call method values))

/-- The overload to call. -/
def chooseOverload (context : ConversionContext) (tokens : List Token) (methods : List Method) :
    Except Fault (Option Action) :=
  context.firstAccepting tokens (methods.mergeSort triedBefore)

/-- The conversion of a value to be stored. -/
def stored (context : ConversionContext) (token : Token) (type : ValueType) : Except Fault Value :=
  (context.convert token type).mapError Fault.conversion

end ConversionContext

/-- An invocation of an object under the name by which it was addressed. -/
structure ActionRequest where
  object : ObjectRef
  target : String
  /-- The name of a member, or a left bracket for the only indexer, and what follows. -/
  arguments : List Token

namespace ActionRequest

/-- The name of the member meant and the arguments for it. -/
def member (request : ActionRequest) (table? : Option MemberTable) :
    Except Fault (String × List Token) :=
  match request.arguments with
  | [] => .error (.refused (.memberMissing request.target))
  | first :: rest =>
    match first.kind with
    | .literal name => .ok (name, rest)
    | .leftBracket =>
      match table?.bind MemberTable.defaultIndexerName? with
      | some name => .ok (name, first :: rest)
      | none => .error (.noSuchMember request.target "default-named indexer")
    | _ => .error (.noSuchMember request.target first.raw)

/-- Reading or writing a field. -/
def fieldAction (request : ActionRequest) (context : ConversionContext) (field : Field) :
    List Token → Except Fault Action
  | [] => .ok (.read field.get field.type)
  | token :: _ =>
    match field.set? with
    | none => .error (.readOnly (request.target ++ "." ++ field.name))
    | some set => return .write set (← context.stored token field.type)

/-- Reading or writing a property. -/
def propertyAction (request : ActionRequest) (context : ConversionContext) (property : Property) :
    List Token → Except Fault Action
  | [] =>
    match property.get? with
    | none => .error (.refused (.propertyNotReadable property.name))
    | some get => .ok (.read get property.type)
  | token :: _ =>
    match property.set? with
    | none => .error (.readOnly (request.target ++ "." ++ property.name))
    | some set => return .write set (← context.stored token property.type)

/-- The indices for an indexer, if it accepts the tokens. -/
def indices? (context : ConversionContext) (indexer : Indexer) (tokens : List Token) :
    Option (List Value) :=
  if indexer.parameters.length = tokens.length then
    (indexer.parameters.zip tokens).mapM fun pair => (context.convert pair.2 pair.1.type).toOption
  else none

/-- Reading or writing at indices. -/
def indexedAction (request : ActionRequest) (context : ConversionContext) (indexer : Indexer)
    (indices : List Value) : Option Token → Except Fault Action
  | none =>
    match indexer.get? with
    | none => .error (.refused (.indexerNotReadable indexer.name))
    | some get => .ok (.read (fun object => get object indices) indexer.type)
  | some token =>
    match indexer.set? with
    | none => .error (.readOnly (request.target ++ "." ++ indexer.name))
    | some set =>
      return .write (fun object value => set object indices value)
        (← context.stored token indexer.type)

/-- The action of the first indexer that accepts the indices in brackets. -/
def indexerAction (request : ActionRequest) (context : ConversionContext) (name : String)
    (indexers : List Indexer) : List Token → Except Fault Action
  | ⟨.leftBracket, _⟩ :: rest =>
    match rest.dropWhile fun token => token.kind != .rightBracket with
    | [] => .error (.refused (.bracketMissing name))
    | _ :: afterBracket =>
      let tokens := rest.takeWhile fun token => token.kind != .rightBracket
      match indexers.findSome? fun indexer =>
          (indices? context indexer tokens).map fun indices => (indexer, indices) with
      | some (indexer, indices) =>
        request.indexedAction context indexer indices afterBracket.head?
      | none => .error (.parametersMismatch name)
  | _ => .error (.refused (.indexerForm name request.target))

/-- The action of a member that is no method. -/
def dataAction (request : ActionRequest) (context : ConversionContext) (table : MemberTable)
    (name : String) (arguments : List Token) : Except Fault Action :=
  match table.field? name with
  | some field => request.fieldAction context field arguments
  | none =>
    match table.property? name with
    | some property => request.propertyAction context property arguments
    | none =>
      match table.indexersNamed name with
      | [] => .error (.noSuchMember request.target name)
      | indexers => request.indexerAction context name indexers arguments

/-- The action that the invocation asks for. -/
def action? (request : ActionRequest) (context : ConversionContext) : Except Fault Action := do
  let table? := context.registry.table? request.object
  let (name, arguments) ← request.member table?
  let methods := (table?.map fun table => table.methodsNamed name).getD []
  let extensions := (context.registry.extensionsOf request.object).filter fun method =>
    method.name == name
  if methods.isEmpty && extensions.isEmpty then
    match table? with
    | some table => request.dataAction context table name arguments
    | none => throw (.noSuchMember request.target name)
  else
    match ← context.chooseOverload arguments methods with
    | some action => return action
    | none =>
      match ← context.chooseOverload arguments extensions with
      | some action => return action
      | none => throw (.parametersMismatch name)

/-- Decides on the action and performs it. -/
def invoke (request : ActionRequest) (context : ConversionContext) : Act ActionResult :=
  match request.action? context with
  | .error fault => throw fault
  | .ok action => action.perform request.object

end ActionRequest

end MachineConsole
