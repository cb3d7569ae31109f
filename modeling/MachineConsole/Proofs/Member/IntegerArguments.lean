import MachineConsole.Device.Builtin
import MachineConsole.Proofs.Lexing.Integers
import MachineConsole.Proofs.Member.Conversion

/-!
Contract: integers as arguments.

Owns:
- `ConversionContext.Accepts`, the texts that stand for an argument of a type, with its value;
- `accepts_decimal`: which decimal literals stand for an argument of an integer kind, and for
  which integer.

A token holds a signed word of 64 bits, so no decimal literal beyond it is read. Unsigned integers of
64 bits are given by their pattern in such a word, which a literal may write as a negative integer.
-/

namespace MachineConsole

namespace ConversionContext

variable {context : ConversionContext} {literal : DecimalLiteral} {kind : IntKind} {value : Value}

/-- A text stands for an argument: it is a single token, one that may stand for a value of the type,
and its value can be converted to the type. -/
def Accepts (context : ConversionContext) (text : String) (type : ValueType) (value : Value) : Prop :=
  ∃ token, Tokenization.ofText text = Tokenization.complete [token] ∧
    token.isAcceptable type = true ∧ context.coerce type token.argumentValue = .ok value

/-- Conversion of a word to a kind of integers keeps the word and checks the bounds, except that
every word is a pattern of the unsigned kind of 64 bits. -/
theorem coerce_word_iff {word : Int64} :
    context.coerce (.int kind) (.int word) = .ok value ↔
      (kind = .u64 ∨ kind.admits word.toInt = true) ∧ value = .int word := by
  change (if kind = .u64 then Except.ok (Value.int word) else boundedInt word.toInt kind) =
    .ok value ↔ _
  unfold boundedInt
  rw [Int64.ofInt_toInt]
  split
  · next isWide => rw [Except.ok.injEq, eq_comm, and_iff_right (.inl isWide)]
  · next isNarrow =>
      split
      · next admitted => rw [Except.ok.injEq, eq_comm, and_iff_right (.inr admitted)]
      · next refused => exact ⟨nofun, fun ⟨either, _⟩ => (either.elim isNarrow refused).elim⟩

theorem accepts_literal_iff :
    context.Accepts literal.text (.int kind) value ↔
      IntKind.i64.admits literal.value = true ∧
        (kind = .u64 ∨ kind.admits literal.value = true) ∧
          value = .int (Int64.ofInt literal.value) := by
  constructor
  · rintro ⟨token, isToken, -, converted⟩
    obtain ⟨fits, rfl⟩ := literal.ofText_eq_complete_iff.mp isToken
    obtain ⟨admitted, rfl⟩ := coerce_word_iff.mp converted
    rw [IntKind.toInt_ofInt fits] at admitted
    exact ⟨fits, admitted, rfl⟩
  · rintro ⟨fits, admitted, rfl⟩
    rw [← IntKind.toInt_ofInt fits] at admitted
    exact ⟨_, literal.ofText_eq_complete_iff.mpr ⟨fits, rfl⟩, rfl,
      coerce_word_iff.mpr ⟨admitted, rfl⟩⟩

theorem exists_accepts_iff :
    (∃ value, context.Accepts literal.text (.int kind) value) ↔
      IntKind.i64.admits literal.value = true ∧
        (kind = .u64 ∨ kind.admits literal.value = true) := by
  simp only [accepts_literal_iff, exists_and_left, exists_eq, and_true]

/-- A decimal literal stands for an argument of an integer kind exactly when its integer lies within
the bounds of the kind, which for the unsigned kind of 64 bits are those of a signed word. The value
is this integer, for the unsigned kind of 64 bits as a pattern. -/
theorem accepts_decimal (context : ConversionContext) (kind : IntKind) (literal : DecimalLiteral) :
    ((∃ value, context.Accepts literal.text (.int kind) value) ↔
      if kind = .u64 then IntKind.i64.least ≤ literal.value ∧ literal.value ≤ IntKind.i64.greatest
      else kind.least ≤ literal.value ∧ literal.value ≤ kind.greatest) ∧
    ∀ value, context.Accepts literal.text (.int kind) value →
      ∃ word : Int64, value = .int word ∧
        if kind = .u64 then (word.toUInt64.toNat : Int) = literal.value % Number.twoTo 64
        else word.toInt = literal.value := by
  constructor
  · rw [exists_accepts_iff]
    split
    · next isWide => rw [and_iff_left (.inl isWide), IntKind.admits_iff]
    · next isNarrow =>
        rw [or_iff_right isNarrow, ← IntKind.admits_iff]
        exact and_iff_right_of_imp (IntKind.fits_of_admits isNarrow)
  · intro value accepted
    obtain ⟨fits, -, rfl⟩ := accepts_literal_iff.mp accepted
    refine ⟨_, rfl, ?_⟩
    split
    · exact toNat_toUInt64_ofInt literal.value
    · exact IntKind.toInt_ofInt fits

/-- The bounds of the unsigned kind of 64 bits do not decide for it: a literal within them is not
read if no signed word holds its integer, and minus one, below them, is taken as a pattern. -/
theorem accepts_decimal_not_by_bounds :
    let context : ConversionContext := ⟨Registry.builtin, fun _ => "", fun _ => none⟩
    (∃ literal : DecimalLiteral, literal.text = "9223372036854775808" ∧
      (IntKind.u64.least ≤ literal.value ∧ literal.value ≤ IntKind.u64.greatest) ∧
        ¬ ∃ value, context.Accepts literal.text (.int .u64) value) ∧
    ∃ literal : DecimalLiteral, literal.text = "-1" ∧ literal.value < IntKind.u64.least ∧
      ∃ value, context.Accepts literal.text (.int .u64) value := by
  refine ⟨⟨⟨[], "9223372036854775808".toList, by decide, by decide, by decide⟩, by decide,
    by decide, ?_⟩, ⟨['-'], ['1'], by decide, by decide, by decide⟩, by decide, by decide, ?_⟩
  · rw [exists_accepts_iff]
    decide
  · rw [exists_accepts_iff]
    decide

end ConversionContext

end MachineConsole
