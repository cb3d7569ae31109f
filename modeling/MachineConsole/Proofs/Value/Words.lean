import Mathlib.Data.Int.ModEq
import MachineConsole.Value.ValueType

/-!
Contract: words of 64 bits as integers.

Owns:
- which integers a signed word keeps, and the pattern of bits that stands for an integer;
- `IntKind.Holds`, the words that stand for an integer of a kind;
- `IntKind.Holds.eq_of_emod_eq`: words of a kind are told apart by their bits at its width.
-/

namespace MachineConsole

/-! ### Integers and patterns -/

/-- Every kind but the unsigned one of 64 bits has only integers that a signed word can hold. -/
theorem IntKind.fits_of_admits {kind : IntKind} {integer : Int} (isNarrow : kind ≠ .u64)
    (admitted : kind.admits integer = true) : IntKind.i64.admits integer = true := by
  obtain ⟨lower, upper⟩ := admits_iff.mp admitted
  have bounds : IntKind.i64.least ≤ kind.least ∧ kind.greatest ≤ IntKind.i64.greatest := by
    revert isNarrow
    cases kind <;> decide
  exact admits_iff.mpr ⟨Int.le_trans bounds.1 lower, Int.le_trans upper bounds.2⟩

/-- A signed word keeps the integers that it can hold. -/
theorem IntKind.toInt_ofInt {integer : Int} (fits : IntKind.i64.admits integer = true) :
    (Int64.ofInt integer).toInt = integer := by
  obtain ⟨lower, upper⟩ := admits_iff.mp fits
  exact Int64.toInt_ofInt_of_le lower (Int.lt_of_le_sub_one upper)

/-- The pattern of an integer. -/
theorem toNat_toUInt64_ofInt (integer : Int) :
    ((Int64.ofInt integer).toUInt64.toNat : Int) = integer % Number.twoTo 64 := by
  change ((BitVec.ofInt 64 integer).toNat : Int) = integer % Number.twoTo 64
  rw [BitVec.toNat_ofInt, Int.toNat_of_nonneg (Int.emod_nonneg _ (by decide))]
  rfl

/-- The pattern of a word. -/
theorem toNat_toUInt64 (word : Int64) : (word.toUInt64.toNat : Int) = word.toInt % 2 ^ 64 := by
  have pattern := toNat_toUInt64_ofInt word.toInt
  rwa [Int64.ofInt_toInt] at pattern

/-- Integers of an interval that is no longer than the modulus are told apart by their remainders. -/
theorem eq_of_emod_eq {lower modulus left right : Int} (leftLower : lower ≤ left)
    (leftUpper : left < lower + modulus) (rightLower : lower ≤ right)
    (rightUpper : right < lower + modulus) (same : left % modulus = right % modulus) :
    left = right := by
  have shifted : (left - lower) % modulus = (right - lower) % modulus :=
    Int.ModEq.sub_right lower same
  rw [Int.emod_eq_of_lt (by omega) (by omega), Int.emod_eq_of_lt (by omega) (by omega)] at shifted
  omega

namespace IntKind

/-! ### Words of a kind -/

/-- The words that stand for an integer of a kind: those within its bounds, and every word for the
unsigned kind of 64 bits. -/
def Holds (kind : IntKind) (word : Int64) : Prop :=
  kind = .u64 ∨ kind.admits word.toInt = true

/-- The least integer of the words of a kind. -/
def leastWord (kind : IntKind) : Int :=
  if kind = .u64 then IntKind.i64.least else kind.least

variable {kind : IntKind} {word left right : Int64}

theorem Holds.bounds (held : kind.Holds word) :
    kind.leastWord ≤ word.toInt ∧ word.toInt < kind.leastWord + 2 ^ (8 * kind.bytes) := by
  unfold leastWord
  by_cases wide : kind = .u64
  · rw [if_pos wide, wide]
    exact ⟨word.le_toInt, word.toInt_lt⟩
  · rw [if_neg wide]
    obtain ⟨lower, upper⟩ := admits_iff.mp (held.resolve_left wide)
    have width : kind.greatest < kind.least + 2 ^ (8 * kind.bytes) := by
      cases kind <;> decide
    exact ⟨lower, Int.lt_of_le_of_lt upper width⟩

/-- The words of a kind are told apart by their bits at its width. -/
theorem Holds.eq_of_emod_eq (leftHeld : kind.Holds left) (rightHeld : kind.Holds right)
    (same : left.toInt % 2 ^ (8 * kind.bytes) = right.toInt % 2 ^ (8 * kind.bytes)) :
    left = right := by
  obtain ⟨leftLower, leftUpper⟩ := leftHeld.bounds
  obtain ⟨rightLower, rightUpper⟩ := rightHeld.bounds
  exact Int64.toInt.inj
    (MachineConsole.eq_of_emod_eq leftLower leftUpper rightLower rightUpper same)

end IntKind

end MachineConsole
