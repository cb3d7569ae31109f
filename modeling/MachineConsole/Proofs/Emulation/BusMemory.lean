import Mathlib.Algebra.BigOperators.Fin
import MachineConsole.World.Bus

/-!
Contract: the system bus as a flat little-endian memory.

Owns:
- `BusWrite`, a write of a byte or of a double word, and the byte that it puts at an address;
- `reads_after_writes`: after any writes, an address holds what was written there last, and a double
  word is the number whose digits to the base 256 are its four bytes.

Does not own: double words that wrap at the top of the address space.
-/

namespace MachineConsole

/-- Where a double word lies: at four addresses in a row, below the top of the address space. -/
structure DoubleWordPlace where
  first : UInt64
  fits : first.toNat + 4 ≤ 2 ^ 64

namespace DoubleWordPlace

/-- The address of one of the four bytes. -/
def byte (place : DoubleWordPlace) (offset : Fin 4) : UInt64 :=
  UInt64.ofNatLT (place.first.toNat + offset) (by
    have fits := place.fits
    show place.first.toNat + offset < 2 ^ 64
    omega)

/-- Whether an address is one of the four. -/
def Covers (place : DoubleWordPlace) (address : UInt64) : Prop :=
  place.first.toNat ≤ address.toNat ∧ address.toNat < place.first.toNat + 4

instance (place : DoubleWordPlace) (address : UInt64) : Decidable (place.Covers address) :=
  inferInstanceAs (Decidable (_ ∧ _))

theorem toNat_byte (place : DoubleWordPlace) (offset : Fin 4) :
    (place.byte offset).toNat = place.first.toNat + offset :=
  UInt64.toNat_ofNatLT

/-- The addresses as the bus computes them. -/
theorem byte_eq (place : DoubleWordPlace) :
    place.byte 0 = place.first ∧ place.byte 1 = place.first + 1 ∧
      place.byte 2 = place.first + 2 ∧ place.byte 3 = place.first + 3 := by
  have fits := place.fits
  simp only [← UInt64.toNat_inj, toNat_byte, UInt64.toNat_add, UInt64.reduceToNat]
  refine ⟨rfl, ?_, ?_, ?_⟩ <;> simp <;> omega

theorem byte_inj (place : DoubleWordPlace) {first second : Fin 4} :
    place.byte first = place.byte second ↔ first = second := by
  rw [← UInt64.toNat_inj, toNat_byte, toNat_byte]
  omega

theorem covers_iff (place : DoubleWordPlace) (address : UInt64) :
    place.Covers address ↔ ∃ offset, place.byte offset = address := by
  simp only [← UInt64.toNat_inj, toNat_byte]
  constructor
  · rintro ⟨reaches, below⟩
    exact ⟨⟨address.toNat - place.first.toNat, by omega⟩, by dsimp only; omega⟩
  · rintro ⟨offset, same⟩
    constructor <;> omega

end DoubleWordPlace

/-- A write to a bus. -/
inductive BusWrite where
  | byte (address : UInt64) (value : UInt8)
  | doubleWord (place : DoubleWordPlace) (value : UInt32)

namespace BusWrite

/-- The bus after the write. -/
def apply (bus : Bus) : BusWrite → Bus
  | .byte address value => bus.writeByte address value
  | .doubleWord place value => bus.writeDoubleWord place.first value

/-- A digit of a double word to the base 256. -/
def digit (value : UInt32) (place : Nat) : UInt8 :=
  UInt8.ofNat (value.toNat / 256 ^ place)

/-- The byte that the write puts at an address, if any. The bytes of a double word are its digits to
the base 256, the least significant one at its first address. -/
def byteAt? (address : UInt64) : BusWrite → Option UInt8
  | .byte target value => if target = address then some value else none
  | .doubleWord place value =>
    if place.Covers address then some (digit value (address.toNat - place.first.toNat)) else none

/-- The byte that the last of the writes to an address put there, if there was one. -/
def lastByteAt? (writes : List BusWrite) (address : UInt64) : Option UInt8 :=
  writes.reverse.findSome? (byteAt? address)

end BusWrite

namespace Bus

open BusWrite

/-! ### Writing -/

@[simp]
theorem readByte_blank (address : UInt64) : blank.readByte address = 0 := by
  unfold readByte blank
  rw [Std.TreeMap.getElem?_emptyc]
  rfl

@[simp]
theorem readByte_writeByte (bus : Bus) (target address : UInt64) (value : UInt8) :
    (bus.writeByte target value).readByte address =
      if target = address then value else bus.readByte address := by
  unfold readByte writeByte
  rw [Std.TreeMap.getElem?_insert]
  simp only [Std.compare_eq_iff_eq]
  split <;> rfl

theorem shiftAmount_mod (offset : Fin 4) : (UInt32.ofNat (8 * offset)).toNat % 32 = 8 * offset := by
  rw [UInt32.toNat_ofNat']
  omega

/-- Shifted to the end and cut off, a double word leaves one of its digits. -/
theorem toUInt8_shiftRight (value : UInt32) (offset : Fin 4) :
    (value >>> UInt32.ofNat (8 * offset)).toUInt8 = digit value offset := by
  apply UInt8.toNat_inj.mp
  rw [UInt32.toNat_toUInt8, UInt32.toNat_shiftRight, shiftAmount_mod, Nat.shiftRight_eq_div_pow,
    Nat.pow_mul, digit, UInt8.toNat_ofNat']

theorem writeDoubleWord_eq (bus : Bus) (place : DoubleWordPlace) (value : UInt32) :
    bus.writeDoubleWord place.first value =
      (((bus.writeByte (place.byte 0) (digit value 0)).writeByte (place.byte 1)
        (digit value 1)).writeByte (place.byte 2) (digit value 2)).writeByte (place.byte 3)
          (digit value 3) := by
  have lowest : digit value 0 = value.toUInt8 := by simp [digit]
  obtain ⟨first, second, third, fourth⟩ := place.byte_eq
  rw [first, second, third, fourth, lowest,
    show digit value 1 = (value >>> 8).toUInt8 from (toUInt8_shiftRight value 1).symm,
    show digit value 2 = (value >>> 16).toUInt8 from (toUInt8_shiftRight value 2).symm,
    show digit value 3 = (value >>> 24).toUInt8 from (toUInt8_shiftRight value 3).symm]
  rfl

theorem readByte_writeDoubleWord (bus : Bus) (place : DoubleWordPlace) (value : UInt32)
    (address : UInt64) :
    (bus.writeDoubleWord place.first value).readByte address =
      if place.Covers address then digit value (address.toNat - place.first.toNat)
      else bus.readByte address := by
  rw [writeDoubleWord_eq]
  simp only [readByte_writeByte]
  by_cases covers : place.Covers address
  · rw [if_pos covers]
    obtain ⟨offset, rfl⟩ := (place.covers_iff address).mp covers
    rw [place.toNat_byte, Nat.add_sub_cancel_left]
    simp only [place.byte_inj]
    match offset with
    | 0 | 1 | 2 | 3 => rfl
  · have other (offset : Fin 4) : place.byte offset ≠ address :=
      fun same => covers ((place.covers_iff address).mpr ⟨offset, same⟩)
    simp only [other, covers, if_false]

theorem readByte_apply (bus : Bus) (write : BusWrite) (address : UInt64) :
    (write.apply bus).readByte address =
      (write.byteAt? address).getD (bus.readByte address) := by
  cases write with
  | byte target value =>
      rw [apply, readByte_writeByte, byteAt?]
      split <;> rfl
  | doubleWord place value =>
      rw [apply, readByte_writeDoubleWord, byteAt?]
      split <;> rfl

theorem readByte_foldl (bus : Bus) (writes : List BusWrite) (address : UInt64) :
    (writes.foldl apply bus).readByte address =
      (lastByteAt? writes address).getD (bus.readByte address) := by
  induction writes generalizing bus with
  | nil => rfl
  | cons write rest inductionHypothesis =>
      rw [List.foldl_cons, inductionHypothesis, readByte_apply, lastByteAt?, lastByteAt?,
        List.reverse_cons, List.findSome?_append]
      cases rest.reverse.findSome? (byteAt? address) with
      | none => simp
      | some byte => rfl

/-! ### Reading double words -/

/-- A byte in front of a number that has as many digits as the byte is shifted by. -/
theorem toNat_or_shiftLeft {low : UInt32} (byte : UInt8) (offset : Fin 4)
    (short : low.toNat < 256 ^ offset.val) :
    (low ||| byte.toUInt32 <<< UInt32.ofNat (8 * offset)).toNat =
      low.toNat + byte.toNat * 256 ^ offset.val := by
  have power : 2 ^ (8 * offset.val) = 256 ^ offset.val := Nat.pow_mul 2 8 offset
  have within : byte.toNat <<< (8 * offset.val) < 2 ^ 32 := by
    have small : byte.toNat < 2 ^ 8 := byte.toNat_lt
    calc byte.toNat <<< (8 * offset.val) = byte.toNat * 2 ^ (8 * offset.val) :=
          Nat.shiftLeft_eq _ _
      _ < 2 ^ 8 * 2 ^ (8 * offset.val) := Nat.mul_lt_mul_of_pos_right small (Nat.two_pow_pos _)
      _ = 2 ^ (8 + 8 * offset.val) := (Nat.pow_add 2 8 _).symm
      _ ≤ 2 ^ 32 := Nat.pow_le_pow_right (by decide) (by omega)
  rw [UInt32.toNat_or, UInt32.toNat_shiftLeft, shiftAmount_mod, UInt8.toNat_toUInt32,
    Nat.mod_eq_of_lt within, Nat.or_comm,
    ← Nat.shiftLeft_add_eq_or_of_lt (by rw [power]; exact short), Nat.shiftLeft_eq, power,
    Nat.add_comm]

/-- Four bytes put together are the number with these digits. -/
theorem toNat_or_bytes (byte0 byte1 byte2 byte3 : UInt8) :
    (byte0.toUInt32 ||| byte1.toUInt32 <<< 8 ||| byte2.toUInt32 <<< 16 |||
        byte3.toUInt32 <<< 24).toNat =
      byte0.toNat + byte1.toNat * 256 ^ 1 + byte2.toNat * 256 ^ 2 + byte3.toNat * 256 ^ 3 := by
  have small0 : byte0.toNat < 256 := byte0.toNat_lt
  have small1 : byte1.toNat < 256 := byte1.toNat_lt
  have small2 : byte2.toNat < 256 := byte2.toNat_lt
  -- Each byte goes in front of those before it, which are short enough for it.
  have one : byte0.toUInt32.toNat = byte0.toNat := byte0.toNat_toUInt32
  have two : (byte0.toUInt32 ||| byte1.toUInt32 <<< 8).toNat = _ :=
    toNat_or_shiftLeft byte1 1 (by rw [one]; simpa using small0)
  have three : (byte0.toUInt32 ||| byte1.toUInt32 <<< 8 ||| byte2.toUInt32 <<< 16).toNat = _ :=
    toNat_or_shiftLeft byte2 2 (by rw [two, one]; simp; omega)
  have four : (byte0.toUInt32 ||| byte1.toUInt32 <<< 8 ||| byte2.toUInt32 <<< 16 |||
      byte3.toUInt32 <<< 24).toNat = _ :=
    toNat_or_shiftLeft byte3 3 (by rw [three, two, one]; simp; omega)
  rw [four, three, two, one]
  rfl

theorem readDoubleWord_eq (bus : Bus) (place : DoubleWordPlace) :
    bus.readDoubleWord place.first =
      (bus.readByte (place.byte 0)).toUInt32 ||| (bus.readByte (place.byte 1)).toUInt32 <<< 8 |||
        (bus.readByte (place.byte 2)).toUInt32 <<< 16 |||
        (bus.readByte (place.byte 3)).toUInt32 <<< 24 := by
  obtain ⟨first, second, third, fourth⟩ := place.byte_eq
  rw [first, second, third, fourth]
  rfl

theorem toNat_readDoubleWord (bus : Bus) (place : DoubleWordPlace) :
    (bus.readDoubleWord place.first).toNat =
      ∑ offset : Fin 4, (bus.readByte (place.byte offset)).toNat * 256 ^ offset.val := by
  rw [readDoubleWord_eq, toNat_or_bytes, Fin.sum_univ_four]
  simp

/-- After any writes, a byte is read as the last of them left it, and a double word as the number
that its bytes write to the base 256. -/
theorem reads_after_writes (writes : List BusWrite) :
    (∀ address, (writes.foldl apply blank).readByte address =
      (lastByteAt? writes address).getD 0) ∧
    ∀ place : DoubleWordPlace, ((writes.foldl apply blank).readDoubleWord place.first).toNat =
      ∑ offset : Fin 4,
        ((writes.foldl apply blank).readByte (place.byte offset)).toNat * 256 ^ offset.val := by
  constructor
  · intro address
    rw [readByte_foldl, readByte_blank]
  · exact toNat_readDoubleWord _

example : ((blank.writeDoubleWord 0x100 0xDEADBEEF).writeByte 0x102 0).readDoubleWord 0x101 =
    0x00DE00BE := by
  decide

end Bus

end MachineConsole
