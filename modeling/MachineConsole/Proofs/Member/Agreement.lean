import MachineConsole.Member.Action

/-!
Contract: what conversions and decisions about members depend on.

Owns:
- `ConversionContext.Agrees`: contexts in which objects have the same names and types, whatever the
  members of these types are;
- conversion of values, the acceptance of arguments and the use of members that are no methods, all
  of which are the same in contexts that agree.
-/

namespace MachineConsole

namespace ConversionContext

/-- Objects are found by the same names and shown alike, and they have the same types. -/
structure Agrees (context other : ConversionContext) : Prop where
  labels : other.labels = context.labels
  find? : other.find? = context.find?
  isInstance : other.registry.isInstance = context.registry.isInstance
  typeName : other.registry.typeName = context.registry.typeName

namespace Agrees

variable {context other : ConversionContext} (agrees : context.Agrees other)
include agrees

theorem wrongKind (value : Value) (type : ValueType) :
    other.wrongKind value type = context.wrongKind value type := by
  unfold ConversionContext.wrongKind
  rw [agrees.labels]

theorem toInt (kind : IntKind) (value : Value) :
    other.toInt kind value = context.toInt kind value := by
  unfold ConversionContext.toInt
  simp only [agrees.wrongKind]

theorem toEnum (spec : EnumSpec) (value : Value) :
    other.toEnum spec value = context.toEnum spec value := by
  unfold ConversionContext.toEnum
  simp only [agrees.wrongKind]

theorem checkObject (required? : Option String) (object : ObjectRef) :
    other.checkObject required? object = context.checkObject required? object := by
  unfold ConversionContext.checkObject
  rw [agrees.isInstance, agrees.typeName]

theorem toObject (required? : Option String) (value : Value) :
    other.toObject required? value = context.toObject required? value := by
  unfold ConversionContext.toObject
  simp only [agrees.find?, agrees.checkObject, agrees.wrongKind]

/-- Objects are told apart by their types alone, so what a value is converted to does not depend on
the members of these types. -/
theorem coerce (type : ValueType) (value : Value) :
    other.coerce type value = context.coerce type value := by
  induction type generalizing value with
  | nullable inner inductionHypothesis =>
      unfold ConversionContext.coerce
      rw [inductionHypothesis]
  | array element inductionHypothesis =>
      have sameItems : other.coerce element = context.coerce element := funext inductionHypothesis
      cases value <;> unfold ConversionContext.coerce <;> simp only [sameItems, agrees.wrongKind]
  | int kind => cases value <;> exact agrees.toInt kind _
  | enum spec => cases value <;> exact agrees.toEnum spec _
  | object required? => cases value <;> exact agrees.toObject required? _
  | _ => cases value <;> unfold ConversionContext.coerce <;> simp only [agrees.wrongKind]

theorem convert (token : Token) (type : ValueType) :
    other.convert token type = context.convert token type := by
  unfold ConversionContext.convert
  rw [agrees.coerce]

theorem leadingArguments? (parameters : List Parameter) (tokens : List Token) :
    other.leadingArguments? parameters tokens = context.leadingArguments? parameters tokens := by
  induction parameters generalizing tokens with
  | nil => rfl
  | cons parameter rest inductionHypothesis =>
      unfold ConversionContext.leadingArguments? argument?
      simp only [agrees.convert, inductionHypothesis]

theorem arguments? (method : Method) (tokens : List Token) :
    other.arguments? method tokens = context.arguments? method tokens := by
  unfold ConversionContext.arguments?
  simp only [agrees.leadingArguments?, agrees.convert]

theorem rivals (tokens : List Token) (method rival : Method) :
    other.rivals tokens method rival = context.rivals tokens method rival := by
  unfold ConversionContext.rivals
  rw [agrees.arguments?]

theorem firstAccepting (tokens : List Token) (methods : List Method) :
    other.firstAccepting tokens methods = context.firstAccepting tokens methods := by
  induction methods with
  | nil => rfl
  | cons method rest inductionHypothesis =>
      have sameRivals : other.rivals tokens method = context.rivals tokens method :=
        funext fun rival => agrees.rivals tokens method rival
      unfold ConversionContext.firstAccepting
      rw [agrees.arguments?, inductionHypothesis, sameRivals, agrees.labels]

theorem chooseOverload (tokens : List Token) (methods : List Method) :
    other.chooseOverload tokens methods = context.chooseOverload tokens methods :=
  agrees.firstAccepting tokens _

theorem stored (token : Token) (type : ValueType) :
    other.stored token type = context.stored token type := by
  unfold ConversionContext.stored
  rw [agrees.convert]

theorem indices? (indexer : Indexer) (tokens : List Token) :
    ActionRequest.indices? other indexer tokens = ActionRequest.indices? context indexer tokens := by
  unfold ActionRequest.indices?
  simp only [agrees.convert]

end Agrees

end ConversionContext

end MachineConsole
