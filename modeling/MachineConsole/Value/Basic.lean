import MachineConsole.Number.Shortest
import MachineConsole.Text.Quoted
import MachineConsole.Value.EnumSpec
import MachineConsole.Value.ObjectRef

/-!
Contract: the values that tokens decode to, actions take and actions return.

Owns:
- `Value` and the names of its kinds;
- equality of values;
- the plain text of a value and its text for inspection.

Texts show an object by its label, which the caller supplies.
-/

namespace MachineConsole

open Number (Binary64)

/-- A runtime value. -/
inductive Value where
  /-- The missing value, and the result of actions that return nothing. -/
  | null
  | bool (value : Bool)
  | int (value : Int64)
  | float (value : Binary64)
  | string (text : String)
  /-- A range of addresses, both ends included. -/
  | range (first last : UInt64)
  | enum (spec : EnumSpec) (value : Int64)
  | list (items : List Value)
  /-- Rows of a key and a value, in order. -/
  | map (rows : List (String × Value))
  /-- Rows of cells; the first row is the header. -/
  | table (rows : List (List String))
  | object (ref : ObjectRef)
deriving Repr

/-- How objects are shown. -/
abbrev Labels := ObjectRef → String

namespace Value

def isNull : Value → Bool
  | .null => true
  | _ => false

def string? : Value → Option String
  | .string text => some text
  | _ => none

/-- The integer of an integer or an enumeration value. -/
def int? : Value → Option Int64
  | .int value => some value
  | .enum _ value => some value
  | _ => none

def bool? : Value → Option Bool
  | .bool value => some value
  | _ => none

def object? : Value → Option ObjectRef
  | .object ref => some ref
  | _ => none

/-- The name of a value's kind in messages. -/
def kindName : Value → String
  | .null => "null"
  | .bool _ => "Boolean"
  | .int _ => "Int64"
  | .float _ => "Double"
  | .string _ => "String"
  | .range _ _ => "Range"
  | .enum _ _ => "Enum"
  | .list _ => "List"
  | .map _ => "Map"
  | .table _ => "Table"
  | .object _ => "Object"

mutual

/-- Equality of values. Enumeration values are equal when their enumerations share a name and their
numbers agree. -/
def same : Value → Value → Bool
  | .null, .null => true
  | .bool left, .bool right => left == right
  | .int left, .int right => left == right
  | .float left, .float right => left.equals right
  | .string left, .string right => left == right
  | .range first last, .range otherFirst otherLast => first == otherFirst && last == otherLast
  | .enum spec value, .enum otherSpec other => spec.name == otherSpec.name && value == other
  | .list items, .list others => sameItems items others
  | .map rows, .map others => sameRows rows others
  | .table rows, .table others => rows == others
  | .object ref, .object other => ref == other
  | _, _ => false

/-- Item by item equality. -/
def sameItems : List Value → List Value → Bool
  | [], [] => true
  | item :: items, other :: others => same item other && sameItems items others
  | _, _ => false

/-- Row by row equality. -/
def sameRows : List (String × Value) → List (String × Value) → Bool
  | [], [] => true
  | (key, value) :: rows, (otherKey, other) :: others =>
    key == otherKey && same value other && sameRows rows others
  | _, _ => false

end

mutual

/-- The plain text of a value. -/
def display (labels : Labels) : Value → String
  | .null => ""
  | .bool value => toString value
  | .int value => toString value.toInt
  | .float value => value.text
  | .string text => text
  | .range first last =>
    "<0x" ++ Number.upperHex first.toNat ++ ", 0x" ++ Number.upperHex last.toNat ++ ">"
  | .enum spec value => spec.describe value
  | .list items => "[" ++ Text.join ", " (displayItems labels items) ++ "]"
  | .map rows => "\x7b" ++ Text.join ", " (displayRows labels rows) ++ "\x7d"
  | .table rows => "<table with " ++ toString rows.length ++ " rows>"
  | .object ref => labels ref

/-- The plain texts of items. -/
def displayItems (labels : Labels) : List Value → List String
  | [] => []
  | item :: items => display labels item :: displayItems labels items

/-- The plain texts of rows. -/
def displayRows (labels : Labels) : List (String × Value) → List String
  | [] => []
  | (key, value) :: rows => (key ++ ": " ++ display labels value) :: displayRows labels rows

end

mutual

/-- The text of a value for inspection: its kind and its content. -/
def inspect (labels : Labels) : Value → String
  | .null => "Null"
  | .bool value => "Bool(" ++ toString value ++ ")"
  | .int value => "Int(" ++ toString value.toInt ++ ")"
  | .float value => "Float(" ++ value.text ++ ")"
  | .string text => "String(" ++ Text.quoted text ++ ")"
  | .range first last =>
    "Range(0x" ++ Number.lowerHex first.toNat ++ "..=0x" ++ Number.lowerHex last.toNat ++ ")"
  | .enum spec value => "Enum(" ++ spec.name ++ "::" ++ spec.describe value ++ ")"
  | .list items => "[" ++ Text.join ", " (inspectItems labels items) ++ "]"
  | .map rows => "\x7b" ++ Text.join ", " (inspectRows labels rows) ++ "\x7d"
  | .table rows => "Table([" ++ Text.join ", " (rows.map inspectCells) ++ "])"
  | .object ref => "Object(" ++ labels ref ++ ")"
where
  inspectCells (cells : List String) : String :=
    "[" ++ Text.join ", " (cells.map Text.quoted) ++ "]"

/-- The inspection texts of items. -/
def inspectItems (labels : Labels) : List Value → List String
  | [] => []
  | item :: items => inspect labels item :: inspectItems labels items

/-- The inspection texts of rows. -/
def inspectRows (labels : Labels) : List (String × Value) → List String
  | [] => []
  | (key, value) :: rows =>
    (Text.quoted key ++ ": " ++ inspect labels value) :: inspectRows labels rows

end

end Value

end MachineConsole
