import Mathlib.Algebra.Group.Nat.Defs
import MachineConsole.Number.Numeral

/-!
Contract: digits write the numbers that they were made from.

Owns:
- `isUpperHexDigit`, the hexadecimal digits that numbers are printed with;
- `ofHexDigits_hexAtWidth`: digits at a fixed width write the number modulo a power of sixteen;
- `ofHexDigits_upperHexDigits`: as few digits as possible write the number itself;
- `head?_toDigits_eq_zero`: among decimal digits as few as possible, only the number zero begins with
  a zero.

Does not own: signs and radix marks.
-/

namespace MachineConsole.Number

/-! ### Single digits -/

/-- Whether a character is a hexadecimal digit, and no lower case letter. -/
def isUpperHexDigit (character : Char) : Bool :=
  character.isDigit || ('A' ≤ character && character ≤ 'F')

theorem isHexDigit_of_isUpperHexDigit {character : Char} (isUpper : isUpperHexDigit character = true) :
    isHexDigit character = true := by
  unfold isUpperHexDigit at isUpper
  unfold isHexDigit
  rcases Bool.or_eq_true_iff.mp isUpper with isDigit | isLetter
  · rw [isDigit, Bool.true_or, Bool.true_or]
  · rw [isLetter, Bool.or_true]

theorem isUpperHexDigit_upperHexDigit :
    ∀ value < 16, isUpperHexDigit (upperHexDigit value) = true := by
  decide

theorem hexDigitValue_upperHexDigit : ∀ value < 16, hexDigitValue (upperHexDigit value) = value := by
  decide

theorem toUpper_digitChar : ∀ value < 16, (Nat.digitChar value).toUpper = upperHexDigit value := by
  decide

/-! ### Runs of hexadecimal digits -/

theorem ofHexDigits_concat (digits : List Char) (digit : Char) :
    ofHexDigits (digits ++ [digit]) = 16 * ofHexDigits digits + hexDigitValue digit :=
  List.foldl_append

theorem length_hexAtWidth (width number : Nat) : (hexAtWidth width number).length = width := by
  induction width generalizing number with
  | zero => rfl
  | succ width inductionHypothesis =>
      rw [hexAtWidth, List.length_append, inductionHypothesis, List.length_singleton]

theorem isUpperHexDigit_of_mem_hexAtWidth {width number : Nat} :
    ∀ digit ∈ hexAtWidth width number, isUpperHexDigit digit = true := by
  induction width generalizing number with
  | zero => exact nofun
  | succ width inductionHypothesis =>
      rw [hexAtWidth, List.forall_mem_append, List.forall_mem_singleton]
      exact ⟨inductionHypothesis, isUpperHexDigit_upperHexDigit _ (Nat.mod_lt _ (by decide))⟩

/-- Digits at a fixed width write the number as far as it fits. -/
theorem ofHexDigits_hexAtWidth (width number : Nat) :
    ofHexDigits (hexAtWidth width number) = number % 16 ^ width := by
  induction width generalizing number with
  | zero => rw [Nat.pow_zero, Nat.mod_one]; rfl
  | succ width inductionHypothesis =>
      rw [hexAtWidth, ofHexDigits_concat, inductionHypothesis,
        hexDigitValue_upperHexDigit _ (Nat.mod_lt _ (by decide)), Nat.pow_succ', Nat.mod_mul,
        Nat.add_comm]

/-- The upper case hexadecimal digits of a number, as few as possible. -/
def upperHexDigits (number : Nat) : List Char :=
  (Nat.toDigits 16 number).map Char.toUpper

theorem upperHex_eq (number : Nat) : upperHex number = String.ofList (upperHexDigits number) :=
  rfl

theorem upperHexDigits_of_lt {number : Nat} (small : number < 16) :
    upperHexDigits number = [upperHexDigit number] := by
  rw [upperHexDigits, Nat.toDigits_of_lt_base small, List.map_singleton,
    toUpper_digitChar number small]

theorem upperHexDigits_of_le {number : Nat} (large : 16 ≤ number) :
    upperHexDigits number = upperHexDigits (number / 16) ++ [upperHexDigit (number % 16)] := by
  rw [upperHexDigits, Nat.toDigits_of_base_le (by decide) large, List.map_append,
    List.map_singleton, toUpper_digitChar _ (Nat.mod_lt _ (by decide))]
  rfl

theorem upperHexDigits_ne_nil (number : Nat) : upperHexDigits number ≠ [] :=
  fun empty => Nat.toDigits_ne_nil (List.map_eq_nil_iff.mp empty)

theorem isUpperHexDigit_of_mem_upperHexDigits (number : Nat) :
    ∀ digit ∈ upperHexDigits number, isUpperHexDigit digit = true := by
  induction number using Nat.strongRecOn with
  | ind number inductionHypothesis =>
      rcases Nat.lt_or_ge number 16 with small | large
      · rw [upperHexDigits_of_lt small, List.forall_mem_singleton]
        exact isUpperHexDigit_upperHexDigit number small
      · rw [upperHexDigits_of_le large, List.forall_mem_append, List.forall_mem_singleton]
        exact ⟨inductionHypothesis (number / 16) (by omega),
          isUpperHexDigit_upperHexDigit _ (Nat.mod_lt _ (by decide))⟩

/-- As few digits as possible write the number itself. -/
theorem ofHexDigits_upperHexDigits (number : Nat) : ofHexDigits (upperHexDigits number) = number := by
  induction number using Nat.strongRecOn with
  | ind number inductionHypothesis =>
      rcases Nat.lt_or_ge number 16 with small | large
      · rw [upperHexDigits_of_lt small]
        exact (Nat.zero_add _).trans (hexDigitValue_upperHexDigit number small)
      · rw [upperHexDigits_of_le large, ofHexDigits_concat,
          inductionHypothesis (number / 16) (by omega),
          hexDigitValue_upperHexDigit _ (Nat.mod_lt _ (by decide)), Nat.div_add_mod]

/-! ### Runs of decimal digits -/

/-- Only the number zero begins with a zero. -/
theorem head?_toDigits_eq_zero {number : Nat} (begins : (Nat.toDigits 10 number).head? = some '0') :
    number = 0 := by
  induction number using Nat.strongRecOn with
  | ind number inductionHypothesis =>
      rcases Nat.lt_or_ge number 10 with small | large
      · rw [Nat.toDigits_of_lt_base small, List.head?_singleton, Option.some.injEq,
          Nat.digitChar_eq_zero] at begins
        exact begins
      · obtain ⟨first, more, digits⟩ : ∃ first more, Nat.toDigits 10 (number / 10) = first :: more :=
          List.exists_cons_of_ne_nil Nat.toDigits_ne_nil
        rw [Nat.toDigits_of_base_le (by decide) large, digits, List.cons_append, List.head?_cons]
          at begins
        have quotient := inductionHypothesis (number / 10) (by omega) (by rw [digits]; exact begins)
        omega

end MachineConsole.Number
