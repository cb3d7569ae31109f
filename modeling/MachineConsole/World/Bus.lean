import Std.Data.TreeMap

/-!
Contract: the system bus, a flat memory of bytes with 64-bit addresses.

Owns: reading and writing of single bytes and of little-endian double words.

Addresses wrap at the top of the address space.
-/

namespace MachineConsole

/-- The bytes written so far, by address. -/
structure Bus where
  memory : Std.TreeMap UInt64 UInt8

namespace Bus

/-- A bus on which nothing was written. -/
def blank : Bus := ⟨∅⟩

/-- The byte at an address; zero where nothing was written. -/
def readByte (bus : Bus) (address : UInt64) : UInt8 :=
  bus.memory[address]?.getD 0

def writeByte (bus : Bus) (address : UInt64) (value : UInt8) : Bus :=
  ⟨bus.memory.insert address value⟩

/-- The four bytes from an address on, least significant first. -/
def readDoubleWord (bus : Bus) (address : UInt64) : UInt32 :=
  (bus.readByte address).toUInt32 ||| ((bus.readByte (address + 1)).toUInt32 <<< 8) |||
    ((bus.readByte (address + 2)).toUInt32 <<< 16) |||
    ((bus.readByte (address + 3)).toUInt32 <<< 24)

/-- Writes the four bytes of a double word, least significant first. -/
def writeDoubleWord (bus : Bus) (address : UInt64) (value : UInt32) : Bus :=
  (((bus.writeByte address value.toUInt8).writeByte (address + 1) (value >>> 8).toUInt8).writeByte
    (address + 2) (value >>> 16).toUInt8).writeByte (address + 3) (value >>> 24).toUInt8

end Bus

end MachineConsole
