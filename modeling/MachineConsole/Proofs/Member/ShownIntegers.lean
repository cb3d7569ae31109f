import MachineConsole.Proofs.Lexing.Patterns
import MachineConsole.Proofs.Member.IntegerArguments
import MachineConsole.Proofs.Report.Integers

/-!
Contract: integers that are shown, as arguments.

Owns:
- `shownPattern`, the hexadecimal literal that an integer is shown as;
- `ConversionContext.ReadsBack`, the texts that stand for a word of an integer kind;
- `readsBack_intText`: which integers can be typed as they are shown in one radix.

Negative integers are shown in hexadecimal by their bits at the width of their kind. These bits are
read as a word of 64 bits, so they stand for another integer unless the kind has this width too. In
decimal, patterns of the unsigned kind of 64 bits are shown as unsigned integers and read as signed.

Does not own: the mode that shows every integer twice.
-/

namespace MachineConsole

open Number (twoTo)
open NumberMode (hexDigits hexText decimalText numeral intText)

/-! ### Literals that integers are shown as -/

/-- The hexadecimal literal that a word is shown as. -/
def shownPattern (value : Int64) (kind : IntKind) : HexadecimalLiteral where
  digits := hexDigits value kind
  someDigits := List.ne_nil_of_length_pos (by
    rw [NumberMode.length_hexDigits]
    cases kind <;> decide)
  areDigits := List.all_eq_true.mpr fun digit member =>
    Number.isHexDigit_of_isUpperHexDigit (Number.isUpperHexDigit_of_mem_hexAtWidth digit member)

section ShownIntegers

variable {kind : IntKind} {value : Int64}

theorem text_shownPattern : (shownPattern value kind).text = hexText value kind := by
  have marked : String.ofList (['0', 'x'] ++ hexDigits value kind) =
      String.ofList ['0', 'x'] ++ String.ofList (hexDigits value kind) := String.ofList_append
  exact marked

theorem value_shownPattern :
    ((shownPattern value kind).value : Int) = value.toInt % 2 ^ (8 * kind.bytes) :=
  NumberMode.ofHexDigits_hexDigits

theorem value_shownPattern_lt : (shownPattern value kind).value < twoTo 64 := by
  have positive : (0 : Int) < 2 ^ (8 * kind.bytes) := Int.pow_pos (by decide)
  have below := Int.emod_lt_of_pos value.toInt positive
  have width : (2 : Int) ^ (8 * kind.bytes) ≤ twoTo 64 := by
    cases kind <;> decide
  rw [← value_shownPattern] at below
  omega

/-- The bits that are shown are those of the word itself if its kind has the width of words or it is
not negative. -/
theorem emod_width_eq_iff (held : kind.Holds value) :
    value.toInt % 2 ^ (8 * kind.bytes) = value.toInt % 2 ^ 64 ↔
      0 ≤ value.toInt ∨ kind.bytes = 8 := by
  have widths : kind.bytes = 8 ∨ (2 : Int) ^ (8 * kind.bytes) ≤ 2 ^ 32 := by
    cases kind <;> decide
  rcases widths with wide | narrow
  · rw [wide]
    exact iff_of_true rfl (.inr rfl)
  · have notWide : kind.bytes ≠ 8 := fun wide => absurd (wide ▸ narrow) (by decide)
    have least : kind.leastWord ≤ 0 := by cases kind <;> decide
    have upper := held.bounds.2
    have positive : (0 : Int) < 2 ^ (8 * kind.bytes) := Int.pow_pos (by decide)
    rw [or_iff_left notWide]
    constructor
    · intro same
      have below := Int.emod_lt_of_pos value.toInt positive
      have lower := value.le_toInt
      omega
    · intro natural
      rw [Int.emod_eq_of_lt natural (by omega), Int.emod_eq_of_lt natural (by omega)]

theorem word_shownPattern_eq_iff (held : kind.Holds value) :
    (shownPattern value kind).word = value ↔ 0 ≤ value.toInt ∨ kind.bytes = 8 := by
  rw [← emod_width_eq_iff held, ← toNat_toUInt64, ← value_shownPattern, Int.ofNat_inj]
  have pattern : (shownPattern value kind).word.toUInt64.toNat = (shownPattern value kind).value :=
    UInt64.toNat_ofNat_of_lt' value_shownPattern_lt
  rw [← pattern, UInt64.toNat_inj]
  exact ⟨congrArg Int64.toUInt64, congrArg Int64.ofUInt64⟩

/-- A signed word keeps the bits of its numeral, which for the unsigned kind of 64 bits writes its
pattern. -/
theorem ofInt_numeral : Int64.ofInt (numeral value kind).value = value := by
  rw [NumberMode.value_numeral]
  split
  · have bits : (value.toInt % 2 ^ 64).bmod (2 ^ 64) = value.toInt.bmod (2 ^ 64) :=
      Int.emod_bmod value.toInt (2 ^ 64)
    exact (Int64.ofInt_eq_iff_bmod_eq_toInt _ _).mpr (bits.trans value.toInt_bmod)
  · exact value.ofInt_toInt

/-- A signed word of 64 bits holds what a numeral writes, but for patterns with the sign bit. -/
theorem i64_admits_numeral_iff (held : kind.Holds value) :
    IntKind.i64.admits (numeral value kind).value = true ↔ 0 ≤ value.toInt ∨ kind ≠ .u64 := by
  rw [NumberMode.value_numeral]
  split
  · next wide =>
      have lower := value.le_toInt
      have upper := value.toInt_lt
      rw [or_iff_left (not_not_intro wide), IntKind.admits_iff]
      change -9223372036854775808 ≤ _ ∧ _ ≤ 9223372036854775807 ↔ _
      omega
  · next narrow =>
      exact iff_of_true (IntKind.fits_of_admits narrow (held.resolve_left narrow)) (.inr narrow)

/-! ### Reading what was shown -/

namespace ConversionContext

variable {context : ConversionContext} {text : String}

/-- A text stands for a word of an integer kind: it is a single integer, one that may stand for a
value of the kind, and its conversion to the kind gives the word. -/
def ReadsBack (context : ConversionContext) (text : String) (kind : IntKind) (value : Int64) :
    Prop :=
  ∃ word : Int64, Tokenization.ofText text = Tokenization.complete [⟨.integer word, text⟩] ∧
    Token.isAcceptable ⟨.integer word, text⟩ (.int kind) = true ∧
      context.coerce (.int kind) (Token.argumentValue ⟨.integer word, text⟩) = .ok (.int value)

theorem readsBack_hexText_iff (held : kind.Holds value) :
    context.ReadsBack (hexText value kind) kind value ↔ 0 ≤ value.toInt ∨ kind.bytes = 8 := by
  rw [← word_shownPattern_eq_iff held, ← text_shownPattern]
  constructor
  · rintro ⟨word, isToken, -, converted⟩
    obtain ⟨-, same⟩ := HexadecimalLiteral.ofText_eq_complete_iff _ |>.mp isToken
    obtain ⟨-, kept⟩ := coerce_word_iff.mp converted
    cases same
    exact (Value.int.inj kept).symm
  · intro same
    refine ⟨_, (HexadecimalLiteral.ofText_eq_complete_iff _).mpr ⟨value_shownPattern_lt, rfl⟩, rfl,
      coerce_word_iff.mpr ?_⟩
    rw [same]
    exact ⟨held, rfl⟩

theorem readsBack_decimalText_iff (held : kind.Holds value) :
    context.ReadsBack (decimalText value kind) kind value ↔ 0 ≤ value.toInt ∨ kind ≠ .u64 := by
  rw [NumberMode.decimalText_eq, ← i64_admits_numeral_iff held]
  constructor
  · rintro ⟨_, isToken, -, -⟩
    exact ((numeral value kind).ofText_eq_complete_iff.mp isToken).1
  · intro fits
    have isToken := (numeral value kind).ofText_eq_complete_iff.mpr ⟨fits, rfl⟩
    rw [ofInt_numeral] at isToken
    exact ⟨value, isToken, rfl, coerce_word_iff.mpr ⟨held, rfl⟩⟩

/-- An integer can be typed back as it is shown in one radix unless it is negative as a signed word
and, in hexadecimal, its kind is narrower than such a word or, in decimal, its kind is the unsigned
one of 64 bits. -/
theorem readsBack_intText (context : ConversionContext) (kind : IntKind) (value : Int64)
    (held : kind.Holds value) :
    (context.ReadsBack (intText .hexadecimal value kind) kind value ↔
      0 ≤ value.toInt ∨ kind.bytes = 8) ∧
    (context.ReadsBack (intText .decimal value kind) kind value ↔
      0 ≤ value.toInt ∨ kind ≠ .u64) :=
  ⟨readsBack_hexText_iff held, readsBack_decimalText_iff held⟩

/-- The least integer of the signed kind of 64 bits is typed back from both its texts. -/
theorem readsBack_intText_least :
    let context : ConversionContext := ⟨Registry.builtin, fun _ => "", fun _ => none⟩
    IntKind.i64.Holds Int64.minValue ∧
      context.ReadsBack "0x8000000000000000" .i64 Int64.minValue ∧
        context.ReadsBack "-9223372036854775808" .i64 Int64.minValue := by
  intro context
  have held : IntKind.i64.Holds Int64.minValue := .inr (by decide)
  obtain ⟨hexadecimal, decimal⟩ := readsBack_intText context .i64 Int64.minValue held
  rw [show intText .hexadecimal Int64.minValue .i64 = "0x8000000000000000" by decide +kernel]
    at hexadecimal
  rw [show intText .decimal Int64.minValue .i64 = "-9223372036854775808" by decide +kernel]
    at decimal
  exact ⟨held, hexadecimal.mpr (.inr rfl), decimal.mpr (.inr (by decide))⟩

/-- Minus one of eight bits is shown by bits that are read as 255, and the greatest pattern of the
unsigned kind of 64 bits by a numeral that no token holds. -/
theorem not_readsBack_intText :
    let context : ConversionContext := ⟨Registry.builtin, fun _ => "", fun _ => none⟩
    (IntKind.i8.Holds (-1) ∧ intText .hexadecimal (-1) .i8 = "0xFF" ∧
      ¬ context.ReadsBack "0xFF" .i8 (-1)) ∧
    IntKind.u64.Holds (-1) ∧ intText .decimal (-1) .u64 = "18446744073709551615" ∧
      ¬ context.ReadsBack "18446744073709551615" .u64 (-1) := by
  intro context
  have narrow : IntKind.i8.Holds (-1) := .inr (by decide)
  have wide : IntKind.u64.Holds (-1) := .inl rfl
  have byte : intText .hexadecimal (-1) .i8 = "0xFF" := by decide +kernel
  have pattern : intText .decimal (-1) .u64 = "18446744073709551615" := by decide +kernel
  refine ⟨⟨narrow, byte, fun back => ?_⟩, wide, pattern, fun back => ?_⟩
  · rw [← byte] at back
    exact absurd ((readsBack_hexText_iff narrow).mp back) (by decide)
  · rw [← pattern] at back
    exact absurd ((readsBack_decimalText_iff wide).mp back) (by decide)

end ConversionContext

end ShownIntegers

end MachineConsole
