import MachineConsole.Value.ValueType

/-!
Contract: everything that can go wrong in the console, by cause.

Owns:
- `Fault` and the causes it is made of, with the one wording of each;
- `Fault.isRecoverable`: whether a fault ends only the invocation it arose in.

Does not own: how a fault is reported, which is `MachineConsole.Report.Failure`.
-/

namespace MachineConsole

/-- Why a value does not fit a declared type. -/
inductive ConversionCause where
  | null (target : ValueType)
  | notFinite (shown : String) (kind : IntKind)
  | outOfRange (shown : String) (kind : IntKind)
  | undeclaredMember (shown : String) (enumeration : String)
  | noSuchObject (name : String) (target : ValueType)
  | wrongObject (typeName : String) (target : ValueType)
  | wrongKind (kindName : String) (shown : String) (target : ValueType)
  | wrongToken (kindName : String) (raw : String) (target : ValueType)
  /-- A cause stated by a device model. -/
  | stated (text : String)
deriving DecidableEq, Repr

def ConversionCause.message : ConversionCause → String
  | .null target => s!"Cannot convert null to {target.name}"
  | .notFinite shown kind => s!"Value {shown} cannot be represented as {kind.name}"
  | .outOfRange shown kind => s!"Value {shown} is out of range for {kind.name}"
  | .undeclaredMember shown enumeration =>
    s!"Enum value {shown} is not defined for {enumeration}!"
  | .noSuchObject name target =>
    s!"Cannot convert {name} to {target.name}: no such peripheral or external"
  | .wrongObject typeName target => s!"Cannot convert {typeName} to {target.name}"
  | .wrongKind kindName shown target =>
    s!"Cannot convert {kindName} value '{shown}' to {target.name}"
  | .wrongToken kindName raw target => s!"Cannot use {kindName} {raw} as {target.name}"
  | .stated text => text

/-- On which side of its bounds a numeral lies. -/
inductive Overflow where
  | tooLarge
  | tooSmall
deriving DecidableEq, Repr

def Overflow.message : Overflow → String
  | .tooLarge => "number too large to fit in target type"
  | .tooSmall => "number too small to fit in target type"

/-- Why the files of the host could not be used. -/
inductive StorageCause where
  | notFound
  | notDirectory
  | isDirectory
  | nameTooLong
  | notText
  | stated (text : String)
deriving DecidableEq, Repr

def StorageCause.message : StorageCause → String
  | .notFound => "No such file or directory (os error 2)"
  | .notDirectory => "Not a directory (os error 20)"
  | .isDirectory => "Is a directory (os error 21)"
  | .nameTooLong => "File name too long (os error 36)"
  | .notText => "stream did not contain valid UTF-8"
  | .stated text => text

/-- Why a request was refused in a controlled way. -/
inductive Refusal where
  | rangeBound (overflow : Overflow)
  | rangeSizeNotPositive (raw : String)
  | rangeSizeOverflow (raw : String)
  | rangeBoundsInvalid (raw : String)
  | hexadecimalOverflow (raw : String)
  | integerOverflow (raw : String) (overflow : Overflow)
  | nestingTooDeep (bound : Nat)
  | nameNotRooted (name root : String)
  | nameWithoutLeaf (name : String)
  | parentMissing (name parent : String)
  | peripheralExists (name : String)
  | busIsPermanent
  | noSuchPeripheral (name : String)
  | groupExists (name : String)
  | externalExists (name : String)
  | machineExists (name : String)
  | noSuchMachine (name : String)
  | noMachineAt (index : Int)
  | noMachineSelected
  | noSuchMacro (name : String)
  | storeCommandMissing
  | memberMissing (target : String)
  | propertyNotReadable (name : String)
  | indexerNotReadable (name : String)
  | indexerForm (name target : String)
  | bracketMissing (name : String)
  | addressMissing
  | argumentMissing (position : Nat)
  | unreadableScript (path : String) (cause : StorageCause)
  | fileNotFound (file : String)
  | noHostForFile (file : String)
  | noHost
  | offsetOutside (offset : Int)
  /-- A cause stated by a command or a device model. -/
  | stated (text : String)
deriving DecidableEq, Repr

def Refusal.message : Refusal → String
  | .rangeBound overflow => s!"Invalid range bound: {overflow.message}"
  | .rangeSizeNotPositive raw => s!"Could not create range: size must be positive in {raw}"
  | .rangeSizeOverflow raw => s!"Could not create range: size overflows in {raw}"
  | .rangeBoundsInvalid raw => s!"Could not create range: invalid bounds in {raw}"
  | .hexadecimalOverflow raw =>
    s!"Invalid hexadecimal number {raw}: {Overflow.tooLarge.message}"
  | .integerOverflow raw overflow => s!"Invalid integer {raw}: {overflow.message}"
  | .nestingTooDeep bound => s!"Maximum nesting depth of {bound} exceeded"
  | .nameNotRooted name root => s!"Peripheral name {name} must be rooted at {root}"
  | .nameWithoutLeaf name => s!"Invalid peripheral name: {name}"
  | .parentMissing name parent => s!"Cannot register {name}: parent {parent} does not exist"
  | .peripheralExists name => s!"Peripheral {name} is already registered"
  | .busIsPermanent => "Cannot remove the system bus"
  | .noSuchPeripheral name => s!"No such peripheral: {name}"
  | .groupExists name => s!"Group {name} already exists"
  | .externalExists name => s!"External {name} is already registered"
  | .machineExists name => s!"Machine {name} already exists"
  | .noSuchMachine name => s!"No machine named {name}"
  | .noMachineAt index => s!"No machine with index {index}"
  | .noMachineSelected => "Select active machine."
  | .noSuchMacro name => s!"No such macro: {name}"
  | .storeCommandMissing => "The set command is not registered"
  | .memberMissing target => s!"No member of {target} given"
  | .propertyNotReadable name => s!"Could not execute this action on property {name}"
  | .indexerNotReadable name => s!"Could not execute this action on indexer {name}"
  | .indexerForm name target => s!"Indexer {name} is accessed as: {target} {name} [index] [value]"
  | .bracketMissing name => s!"Missing ] after index of {name}"
  | .addressMissing => "missing address argument"
  | .argumentMissing position => s!"missing argument {position}"
  | .unreadableScript path cause => s!"Could not read {path}: {cause.message}"
  | .fileNotFound file => s!"Could not find file: {file}"
  | .noHostForFile file => s!"No scripting host is available to run {file}"
  | .noHost => "No scripting host is available"
  | .offsetOutside offset => s!"Offset {offset} is outside the memory"
  | .stated text => text

/-- What is defective in a device model. -/
inductive DeviceCause where
  /-- An action of one type was applied to an object of another. -/
  | wrongTarget (typeName : String)
  | stated (text : String)
deriving DecidableEq, Repr

def DeviceCause.message : DeviceCause → String
  | .wrongTarget typeName => s!"target is not a {typeName}"
  | .stated text => text

/-- Why settings could not be used. -/
inductive SettingsCause where
  | unknownNumberMode (name : String)
  | malformed
  | stated (text : String)
deriving DecidableEq, Repr

def SettingsCause.message : SettingsCause → String
  | .unknownNumberMode name => s!"unknown number format: {name}"
  | .malformed => "monitor config: malformed document"
  | .stated text => text

/-- A failure of the console. -/
inductive Fault where
  /-- The input could not be split into tokens past `offset`. -/
  | lexical (offset : Nat) (detail : Option String)
  | noSuchVariable (name : String)
  /-- A name that is no command and no device, with the longest part of it that is known. -/
  | noSuchName (name : String) (longest : Option String)
  | noSuchMember (target member : String)
  | parametersMismatch (member : String)
  | conversion (cause : ConversionCause)
  | ambiguous (owner first second : String)
  | readOnly (member : String)
  /-- A controlled failure of a command or a device action. -/
  | refused (cause : Refusal)
  /-- Several independent failures. -/
  | aggregate (faults : List Fault)
  /-- A failure in a context; without a message the context adds nothing. -/
  | wrapped (context : Option String) (inner : Fault)
  /-- A defect of a device model. -/
  | device (cause : DeviceCause)
  | settings (cause : SettingsCause)
  | fetch (detail : String)
  | storage (cause : StorageCause)
deriving Repr

namespace Fault

/-- The wording of a fault. -/
def message : Fault → String
  | .lexical offset none => s!"could not tokenize input at offset {offset}"
  | .lexical offset (some detail) => s!"could not tokenize input at offset {offset}: {detail}"
  | .noSuchVariable name => s!"No such variable: ${name}"
  | .noSuchName name none => s!"No such command or device: {name}"
  | .noSuchName name (some longest) =>
    s!"No such command or device: {name}, the longest match is {longest}"
  | .noSuchMember target member =>
    s!"{target} does not provide a field, method or property {member}."
  | .parametersMismatch member => s!"Parameters did not match the signature of {member}"
  | .conversion cause => cause.message
  | .ambiguous owner first second => s!"Ambiguous choice between {first} and {second} of {owner}"
  | .readOnly member => s!"{member} is read only"
  | .refused cause => cause.message
  | .aggregate faults => s!"{faults.length} errors occurred"
  | .wrapped none _ => "wrapped error"
  | .wrapped (some context) _ => context
  | .device cause => s!"device error: {cause.message}"
  | .settings cause => s!"config error: {cause.message}"
  | .fetch detail => s!"fetch error: {detail}"
  | .storage cause => s!"I/O error: {cause.message}"

mutual

/-- Whether a fault ends only the invocation it arose in. Defects of devices, settings, downloads
and files do not; a composite fault does when all its parts do. -/
def isRecoverable : Fault → Bool
  | .device _ | .settings _ | .fetch _ | .storage _ => false
  | .aggregate faults => allRecoverable faults
  | .wrapped _ inner => isRecoverable inner
  | _ => true

/-- Whether all of some faults are recoverable. -/
def allRecoverable : List Fault → Bool
  | [] => true
  | fault :: rest => isRecoverable fault && allRecoverable rest

end

end Fault

end MachineConsole
