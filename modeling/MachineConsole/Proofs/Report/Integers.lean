import MachineConsole.Proofs.Lexing.Integers
import MachineConsole.Proofs.Number.Digits
import MachineConsole.Proofs.Value.Words
import MachineConsole.Report.NumberMode

/-!
Contract: integers as they are shown.

Owns:
- `DecimalLiteral.ofInt`, the decimal numeral of an integer, and `IsNumeral`, which says what such a
  numeral looks like;
- `intText_shows`: the digits and the numeral that an integer is shown with in each mode, and that
  no other integer of its kind is shown with them.

Does not own: reading what was shown.
-/

namespace MachineConsole

open Number

/-! ### Decimal numerals -/

namespace DecimalLiteral

/-- A literal as integers are printed: there is no sign but for negative integers, and no zero in
front that could be left out. -/
structure IsNumeral (literal : DecimalLiteral) : Prop where
  sign : literal.sign = if literal.value < 0 then ['-'] else []
  leading : literal.digits.head? = some '0' → literal.digits = ['0']

/-- The decimal numeral of an integer. -/
def ofInt (integer : Int) : DecimalLiteral where
  sign := if integer < 0 then ['-'] else []
  digits := Nat.toDigits 10 integer.natAbs
  isSign := by split <;> decide
  someDigits := Nat.toDigits_ne_nil
  areDigits := List.all_eq_true.mpr fun _ member =>
    Nat.isDigit_of_mem_toDigits (by decide) (by decide) member

theorem value_ofInt (integer : Int) : (ofInt integer).value = integer := by
  change (if (if integer < 0 then ['-'] else []) = ['-'] then
      -(Nat.ofDigitChars 10 (Nat.toDigits 10 integer.natAbs) 0 : Int)
    else Nat.ofDigitChars 10 (Nat.toDigits 10 integer.natAbs) 0) = integer
  rw [Nat.ofDigitChars_ten_toDigits]
  by_cases negative : integer < 0
  · rw [if_pos negative, if_pos rfl]
    omega
  · rw [if_neg negative, if_neg (by decide)]
    omega

theorem isNumeral_ofInt (integer : Int) : (ofInt integer).IsNumeral where
  sign := by rw [value_ofInt]; rfl
  leading begins := by
    have zero : integer.natAbs = 0 := head?_toDigits_eq_zero begins
    change Nat.toDigits 10 integer.natAbs = ['0']
    rw [zero]
    rfl

theorem text_ofInt (integer : Int) : (ofInt integer).text = toString integer := by
  rw [Int.toString_eq_repr, Int.repr_eq_if]
  unfold text characters ofInt
  dsimp only
  by_cases negative : integer < 0
  · rw [if_pos negative, if_neg (by omega), Nat.repr_eq_ofList_toDigits,
      show (-integer).toNat = integer.natAbs by omega, String.ofList_append]
  · rw [if_neg negative, if_pos (by omega), Nat.repr_eq_ofList_toDigits,
      show integer.toNat = integer.natAbs by omega, List.nil_append]

/-- Literals with one text write one integer. -/
theorem value_eq_of_text_eq {left right : DecimalLiteral} (same : left.text = right.text) :
    left.value = right.value := by
  have parts : (left.sign, left.digits) = (right.sign, right.digits) := by
    rw [← splitSign_characters, ← splitSign_characters, String.ofList_inj.mp same]
  unfold value
  rw [(Prod.mk.inj parts).1, (Prod.mk.inj parts).2]

end DecimalLiteral

/-! ### Texts of integers -/

namespace NumberMode

/-- The hexadecimal digits that a word is shown with as an integer of a kind. -/
def hexDigits (value : Int64) (kind : IntKind) : List Char :=
  hexAtWidth (2 * kind.bytes) (storedBits value kind)

/-- The decimal numeral that a word is shown with as an integer of a kind. -/
def numeral (value : Int64) (kind : IntKind) : DecimalLiteral :=
  .ofInt (if kind = .u64 then value.toUInt64.toNat else value.toInt)

variable {value left right : Int64} {kind : IntKind}

theorem hexText_eq : hexText value kind = "0x" ++ String.ofList (hexDigits value kind) :=
  rfl

theorem decimalText_eq : decimalText value kind = (numeral value kind).text := by
  unfold decimalText numeral
  rw [DecimalLiteral.text_ofInt]
  split
  · rfl
  · rfl

/-- The digits write the bits at the width of the kind. -/
theorem ofHexDigits_hexDigits :
    (ofHexDigits (hexDigits value kind) : Int) = value.toInt % 2 ^ (8 * kind.bytes) := by
  have width : 16 ^ (2 * kind.bytes) = 2 ^ (8 * kind.bytes) := by
    rw [show 16 = 2 ^ 4 from rfl, ← Nat.pow_mul, ← Nat.mul_assoc]
  have divides : ((2 ^ (8 * kind.bytes) : Nat) : Int) ∣ 2 ^ 64 := by
    cases kind <;> decide
  unfold hexDigits storedBits
  rw [ofHexDigits_hexAtWidth, width, show twoTo (8 * kind.bytes) = 2 ^ (8 * kind.bytes) from rfl,
    Nat.mod_mod, Int.natCast_emod, toNat_toUInt64, Int.emod_emod_of_dvd _ divides, Int.natCast_pow]
  rfl

theorem value_numeral :
    (numeral value kind).value =
      if kind = .u64 then value.toInt % 2 ^ 64 else value.toInt := by
  unfold numeral
  rw [DecimalLiteral.value_ofInt, toNat_toUInt64]

/-- Both texts show the same integer as far as the width of the kind goes. -/
theorem value_numeral_emod :
    (numeral value kind).value % 2 ^ (8 * kind.bytes) = ofHexDigits (hexDigits value kind) := by
  rw [value_numeral, ofHexDigits_hexDigits]
  split
  · next wide =>
      rw [wide]
      exact Int.emod_emod_of_dvd _ (Int.dvd_refl _)
  · rfl

theorem length_hexDigits : (hexDigits value kind).length = 2 * kind.bytes :=
  length_hexAtWidth _ _

/-! ### Texts tell integers apart -/

section Injective

variable (leftHeld : kind.Holds left) (rightHeld : kind.Holds right)
include leftHeld rightHeld

theorem eq_of_hexDigits_eq (same : hexDigits left kind = hexDigits right kind) : left = right := by
  apply leftHeld.eq_of_emod_eq rightHeld
  rw [← ofHexDigits_hexDigits, ← ofHexDigits_hexDigits, same]

/-- Digits of one length are told apart whatever stands behind them. -/
theorem eq_of_hexText_append_eq {leftBehind rightBehind : String}
    (same : hexText left kind ++ leftBehind = hexText right kind ++ rightBehind) : left = right := by
  have characters := congrArg String.toList same
  simp only [hexText_eq, String.toList_append, String.toList_ofList, List.append_assoc,
    List.append_cancel_left_eq] at characters
  apply eq_of_hexDigits_eq leftHeld rightHeld
  exact List.append_inj_left characters (length_hexDigits.trans length_hexDigits.symm)

omit leftHeld rightHeld in
/-- Decimal texts tell all words apart, those beyond the bounds of the kind included. -/
theorem eq_of_decimalText_eq (same : decimalText left kind = decimalText right kind) :
    left = right := by
  rw [decimalText_eq, decimalText_eq] at same
  have values := DecimalLiteral.value_eq_of_text_eq same
  rw [value_numeral, value_numeral] at values
  split at values
  · have leftWord : IntKind.u64.Holds left := .inl rfl
    have rightWord : IntKind.u64.Holds right := .inl rfl
    exact leftWord.eq_of_emod_eq rightWord values
  · exact Int64.toInt.inj values

theorem eq_of_intText_eq {mode : NumberMode}
    (same : mode.intText left kind = mode.intText right kind) : left = right := by
  cases mode with
  | hexadecimal =>
      have appended : hexText left kind ++ "" = hexText right kind ++ "" := congrArg (· ++ "") same
      exact eq_of_hexText_append_eq leftHeld rightHeld appended
  | decimal => exact eq_of_decimalText_eq same
  | both =>
      unfold intText at same
      simp only [String.append_assoc] at same
      exact eq_of_hexText_append_eq leftHeld rightHeld same

end Injective

/-- An integer is shown in hexadecimal by two upper case digits for each byte of its kind, which
write its bits at this width, and in decimal by its numeral, for the unsigned kind of 64 bits by that
of its pattern. Both texts together show one integer as far as the width goes, and in each mode no
two integers of a kind are shown alike. Words beyond the bounds of the kind are shown by the same
rules. -/
theorem intText_shows (kind : IntKind) :
    (∀ value : Int64, ∃ (digits : List Char) (numeral : DecimalLiteral),
      (digits.length = 2 * kind.bytes ∧ (∀ digit ∈ digits, isUpperHexDigit digit = true) ∧
        (ofHexDigits digits : Int) = value.toInt % 2 ^ (8 * kind.bytes)) ∧
      (numeral.IsNumeral ∧
        numeral.value = if kind = .u64 then value.toInt % 2 ^ 64 else value.toInt) ∧
      numeral.value % 2 ^ (8 * kind.bytes) = ofHexDigits digits ∧
      intText .hexadecimal value kind = "0x" ++ String.ofList digits ∧
      intText .decimal value kind = numeral.text ∧
      intText .both value kind =
        "0x" ++ String.ofList digits ++ " " ++ "(" ++ numeral.text ++ ")") ∧
    ∀ (mode : NumberMode) (left right : Int64), kind.Holds left → kind.Holds right →
      mode.intText left kind = mode.intText right kind → left = right := by
  refine ⟨fun value => ?_, fun mode left right leftHeld rightHeld same =>
    eq_of_intText_eq leftHeld rightHeld same⟩
  refine ⟨hexDigits value kind, numeral value kind, ⟨length_hexDigits,
    isUpperHexDigit_of_mem_hexAtWidth, ofHexDigits_hexDigits⟩,
    ⟨DecimalLiteral.isNumeral_ofInt _, value_numeral⟩, value_numeral_emod, hexText_eq,
    decimalText_eq, ?_⟩
  change hexText value kind ++ " (" ++ decimalText value kind ++ ")" = _
  rw [hexText_eq, decimalText_eq, show " (" = " " ++ "(" from rfl, ← String.append_assoc]

/-- Two words of a kind of 16 bits are shown apart, while a word beyond its bounds has the digits of
one of them. -/
theorem intText_shows_apart :
    (IntKind.i16.Holds (-2) ∧ IntKind.i16.Holds 2 ∧
      intText .both (-2) .i16 ≠ intText .both 2 .i16) ∧
    intText .both (-2) .i16 = "0xFFFE (-2)" ∧ intText .both 0x1FFFE .i16 = "0xFFFE (131070)" := by
  have holdsNegative : IntKind.i16.Holds (-2) := .inr (by decide)
  have holdsPositive : IntKind.i16.Holds 2 := .inr (by decide)
  refine ⟨⟨holdsNegative, holdsPositive, fun same => ?_⟩, by decide +kernel⟩
  have equal := (intText_shows .i16).2 .both (-2) 2 holdsNegative holdsPositive same
  exact absurd equal (by decide)

end NumberMode

end MachineConsole
