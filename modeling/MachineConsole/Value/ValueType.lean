import MachineConsole.Number.Numeral
import MachineConsole.Value.EnumSpec

/-!
Contract: the types that parameters, members and results are declared with.

Owns:
- `IntKind`, the widths of integers with their bounds and names;
- `ValueType`, its name as shown to the user, and which types have a null.
-/

namespace MachineConsole

/-- Width and signedness of an integer. -/
inductive IntKind where
  | i8
  | i16
  | i32
  | i64
  | u8
  | u16
  | u32
  | u64
deriving DecidableEq, Repr

namespace IntKind

/-- Size in bytes. -/
def bytes : IntKind → Nat
  | .i8 | .u8 => 1
  | .i16 | .u16 => 2
  | .i32 | .u32 => 4
  | .i64 | .u64 => 8

def isSigned : IntKind → Bool
  | .i8 | .i16 | .i32 | .i64 => true
  | .u8 | .u16 | .u32 | .u64 => false

/-- The least integer of the kind. -/
def least (kind : IntKind) : Int :=
  if kind.isSigned then -(Number.twoTo (8 * kind.bytes - 1)) else 0

/-- The greatest integer of the kind. -/
def greatest (kind : IntKind) : Int :=
  if kind.isSigned then Number.twoTo (8 * kind.bytes - 1) - 1 else Number.twoTo (8 * kind.bytes) - 1

/-- Whether an integer lies within the bounds of the kind. -/
def admits (kind : IntKind) (integer : Int) : Bool :=
  decide (kind.least ≤ integer) && decide (integer ≤ kind.greatest)

theorem admits_iff {kind : IntKind} {integer : Int} :
    kind.admits integer = true ↔ kind.least ≤ integer ∧ integer ≤ kind.greatest := by
  rw [admits, Bool.and_eq_true, decide_eq_true_iff, decide_eq_true_iff]

def name : IntKind → String
  | .i8 => "SByte"
  | .i16 => "Int16"
  | .i32 => "Int32"
  | .i64 => "Int64"
  | .u8 => "Byte"
  | .u16 => "UInt16"
  | .u32 => "UInt32"
  | .u64 => "UInt64"

end IntKind

/-- Declared type of a parameter, member or result. -/
inductive ValueType where
  | void
  /-- Takes every value as it is. -/
  | any
  | bool
  | int (kind : IntKind)
  | float
  | string
  | range
  | enum (spec : EnumSpec)
  | nullable (inner : ValueType)
  /-- An object, of any type or of those that satisfy a name. -/
  | object (required : Option String)
  | array (element : ValueType)
deriving DecidableEq, Repr

namespace ValueType

/-- The name shown to the user. -/
def name : ValueType → String
  | .void => "Void"
  | .any => "Object"
  | .bool => "Boolean"
  | .int kind => kind.name
  | .float => "Double"
  | .string => "String"
  | .range => "Range"
  | .enum spec => spec.name
  | .nullable inner => inner.name ++ "?"
  | .object (some required) => required
  | .object none => "Object"
  | .array element => element.name ++ "[]"

/-- Whether null is a value of the type. -/
def acceptsNull : ValueType → Bool
  | .nullable _ | .object _ | .any => true
  | _ => false

/-- The integer kind that values of the type are shown with. -/
def shownKind : ValueType → IntKind
  | .int kind => kind
  | .nullable inner => inner.shownKind
  | .array element => element.shownKind
  | _ => .i64

end ValueType

end MachineConsole
