import MachineConsole.Proofs.Lexing.Ranges

/-!
Contract: patterns of bits written in hexadecimal digits.

Owns:
- the text of a `HexadecimalLiteral`, digits behind the mark of their radix;
- `ofText_text`: a literal that stands alone is one token if 64 bits can hold its number, and a form
  that cannot be decoded otherwise.

Does not own: such numbers as bounds of a range, which are bounded by 128 bits.
-/

namespace MachineConsole

namespace HexadecimalLiteral

open LexicalRule
open Number (isHexDigit ofHexDigits twoTo)

def characters (literal : HexadecimalLiteral) : List Char :=
  '0' :: 'x' :: literal.digits

def text (literal : HexadecimalLiteral) : String :=
  String.ofList literal.characters

/-- The number that a literal writes. -/
def value (literal : HexadecimalLiteral) : Nat :=
  ofHexDigits literal.digits

/-- The word with the bits that a literal writes. -/
def word (literal : HexadecimalLiteral) : Int64 :=
  (UInt64.ofNat literal.value).toInt64

/-- What a literal is read as: an integer, unless 64 bits cannot hold it. -/
def reading (literal : HexadecimalLiteral) : Reading :=
  if twoTo 64 ≤ literal.value then .malformed (.hexadecimalOverflow literal.text)
  else .token (.integer literal.word) literal.characters.length

variable (literal : HexadecimalLiteral)

theorem takeWhile_digits : literal.digits.takeWhile isHexDigit = literal.digits :=
  List.takeWhile_eq_self_iff.mpr (List.all_eq_true.mp literal.areDigits)

theorem hexadecimal_characters : hexadecimal literal.characters = some literal.reading := by
  unfold hexadecimal characters
  simp only [takeWhile_digits, if_neg literal.someDigits]
  exact (apply_ite some _ _ _).symm

theorem first?_characters : first? literal.characters = some literal.reading := by
  have applies : hexadecimal ('0' :: 'x' :: literal.digits) = some literal.reading :=
    literal.hexadecimal_characters
  unfold characters
  rw [first?_number _ (by decide)]
  simp only [List.findSome?_cons, applies]

/-- A literal that stands alone is a single token or none. -/
theorem ofText_text :
    Tokenization.ofText literal.text =
      if twoTo 64 ≤ literal.value then
        ⟨[], literal.characters, some (.refused (.hexadecimalOverflow literal.text))⟩
      else Tokenization.complete [⟨.integer literal.word, literal.text⟩] := by
  have applies := literal.first?_characters
  have notBlank : Text.isBlank '0' = false := by decide
  unfold reading at applies
  unfold Tokenization.ofText
  rw [show literal.text.toList = literal.characters from String.toList_ofList]
  split
  · next wide =>
      rw [if_pos wide] at applies
      exact Tokenization.ofCharacters_malformed notBlank applies
  · next fits =>
      rw [if_neg fits] at applies
      exact Tokenization.ofCharacters_single notBlank applies

theorem ofText_eq_complete_iff {token : Token} :
    Tokenization.ofText literal.text = Tokenization.complete [token] ↔
      literal.value < twoTo 64 ∧ token = ⟨.integer literal.word, literal.text⟩ := by
  rw [ofText_text]
  split
  · next wide => exact ⟨nofun, fun ⟨fits, _⟩ => absurd fits (Nat.not_lt.mpr wide)⟩
  · next fits =>
      constructor
      · rintro ⟨⟩
        exact ⟨Nat.not_le.mp fits, rfl⟩
      · rintro ⟨-, rfl⟩
        rfl

end HexadecimalLiteral

end MachineConsole
