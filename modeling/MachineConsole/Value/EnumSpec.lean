import MachineConsole.Text.Pieces

/-!
Contract: named enumerations over 64-bit integers.

Owns: look-up of members by name and by value, and the text that shows a value.
-/

namespace MachineConsole

/-- A named enumeration. In a `flags` enumeration every combination of bits is a value. -/
structure EnumSpec where
  name : String
  members : List (String × Int64)
  flags : Bool
deriving DecidableEq, Repr

namespace EnumSpec

/-- The value of the first member with this name, letter case included. -/
def valueOf? (spec : EnumSpec) (name : String) : Option Int64 :=
  (spec.members.find? fun member => member.1 == name).map Prod.snd

/-- The name of the first member with this value. -/
def nameOf? (spec : EnumSpec) (value : Int64) : Option String :=
  (spec.members.find? fun member => member.2 == value).map Prod.fst

/-- Whether some member has this value. -/
def isDeclared (spec : EnumSpec) (value : Int64) : Bool :=
  (spec.nameOf? value).isSome

/-- The non-zero members all of whose bits are set in a value. -/
def contained (spec : EnumSpec) (value : Int64) : List (String × Int64) :=
  spec.members.filter fun member => member.2 != 0 && value &&& member.2 == member.2

/-- The bits of some members taken together. -/
def union (members : List (String × Int64)) : Int64 :=
  members.foldl (fun bits member => bits ||| member.2) 0

/-- The text of a value: its name, the flags it consists of, or its number. -/
def describe (spec : EnumSpec) (value : Int64) : String :=
  match spec.nameOf? value with
  | some name => name
  | none =>
    let members := spec.contained value
    if spec.flags && value != 0 && !members.isEmpty && union members == value then
      Text.join " | " (members.map Prod.fst)
    else
      toString value.toInt

end EnumSpec

end MachineConsole
