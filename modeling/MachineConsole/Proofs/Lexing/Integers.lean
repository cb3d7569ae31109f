import Mathlib.Data.List.TakeWhile
import MachineConsole.Proofs.Lexing.Opening
import MachineConsole.Proofs.Lexing.Reads

/-!
Contract: integers written in decimal digits.

Owns:
- `DecimalLiteral`, digits behind a sign that may be missing, with the integer that they write;
- `first?_number`: a text that begins as a number is tried as a number or a word only;
- `ofText_text`: a literal that stands alone is one token if a signed word of 64 bits can hold its
  integer, and a form that cannot be decoded otherwise.

Does not own: integers written in hexadecimal digits, which are patterns of 64 bits.
-/

namespace MachineConsole

/-! ### Texts that begin as a number -/

namespace LexicalRule

open Number (twoTo)

/-- None of the rules that are tried before the numbers applies to a text that begins as one. -/
theorem not_opens_of_isNumberStart {first : Char} (begins : isNumberStart first = true) :
    ∀ entry ∈ openings.take 10, entry.2 first = false := by
  -- Each of these rules opens with a few fixed characters, none of which begins a number.
  have apart : ∀ mark, isNumberStart mark = false → (first == mark) = false := by
    intro mark other
    rw [beq_eq_false_iff_ne]
    rintro rfl
    exact absurd begins (by simp [other])
  intro entry isEarlier
  simp only [openings, List.take_succ_cons, List.take_zero, List.mem_cons, List.not_mem_nil,
    or_false] at isEarlier
  rcases isEarlier with rfl | rfl | rfl | rfl | rfl | rfl | rfl | rfl | rfl | rfl <;>
    simp (disch := decide) only [apart, Bool.or_self]

/-- The rules for marks, quoted texts, ranges and paths leave a text alone that begins as a number,
so it is tried as a number and then as a word. -/
theorem first?_number {first : Char} (rest : List Char) (begins : isNumberStart first = true) :
    first? (first :: rest) =
      [hexadecimal, decimal, integer, boolean, equality, conditionalQuestion, separator,
        literal].findSome? fun rule => rule (first :: rest) := by
  have earlier :
      ((openings.take 10).map Prod.fst).findSome? (fun rule => rule (first :: rest)) = none := by
    refine List.findSome?_eq_none_iff.mpr fun rule member => ?_
    obtain ⟨entry, isEarlier, rfl⟩ := List.mem_map.mp member
    apply openings_opens entry (List.mem_of_mem_take isEarlier)
    rintro _ ⟨⟩
    exact not_opens_of_isNumberStart begins entry isEarlier
  exact List.findSome?_append.trans (earlier ▸ Option.none_or)

theorem isBlank_of_isNumberStart {first : Char} (begins : isNumberStart first = true) :
    Text.isBlank first = false := by
  unfold isNumberStart at begins
  rw [Bool.or_eq_true, Bool.or_eq_true, beq_iff_eq, beq_iff_eq] at begins
  rcases begins with (rfl | rfl) | isDigit
  · rfl
  · rfl
  · have bounds : 48 ≤ first.toNat ∧ first.toNat ≤ 57 := by
      simpa [Char.isDigit, UInt32.le_iff_toNat_le] using isDigit
    simp only [Text.isBlank, Bool.or_eq_false_iff, Bool.and_eq_false_iff, decide_eq_false_iff_not,
      beq_eq_false_iff_ne]
    omega

/-- The integers within the bounds of a signed word. -/
theorem withinSigned_eq_ok_iff {width : Nat} {integer value : Int} :
    withinSigned width integer = .ok value ↔
      -(twoTo (width - 1)) ≤ integer ∧ integer < twoTo (width - 1) ∧ value = integer := by
  unfold withinSigned
  split
  · next large => exact ⟨nofun, fun ⟨_, upper, _⟩ => by omega⟩
  · next notLarge =>
      split
      · next small => exact ⟨nofun, fun ⟨lower, _⟩ => by omega⟩
      · next notSmall =>
          constructor
          · rintro ⟨⟩
            exact ⟨by omega, by omega, rfl⟩
          · rintro ⟨-, -, rfl⟩
            rfl

theorem withinSigned_64_eq_ok_iff {integer value : Int} :
    withinSigned 64 integer = .ok value ↔ IntKind.i64.admits integer = true ∧ value = integer := by
  rw [withinSigned_eq_ok_iff, IntKind.admits_iff, and_assoc, ← Int.le_sub_one_iff]
  rfl

end LexicalRule

/-! ### Literals -/

/-- An integer written in decimal digits, behind a sign or without one. -/
structure DecimalLiteral where
  sign : List Char
  digits : List Char
  isSign : sign ∈ [[], ['+'], ['-']]
  someDigits : digits ≠ []
  areDigits : digits.all Char.isDigit = true

namespace DecimalLiteral

open LexicalRule

def characters (literal : DecimalLiteral) : List Char :=
  literal.sign ++ literal.digits

def text (literal : DecimalLiteral) : String :=
  String.ofList literal.characters

/-- The integer that a literal writes. -/
def value (literal : DecimalLiteral) : Int :=
  if literal.sign = ['-'] then -(Nat.ofDigitChars 10 literal.digits 0)
  else Nat.ofDigitChars 10 literal.digits 0

variable (literal : DecimalLiteral)

theorem takeWhile_digits : literal.digits.takeWhile Char.isDigit = literal.digits :=
  List.takeWhile_eq_self_iff.mpr (List.all_eq_true.mp literal.areDigits)

theorem isNumberStart_of_mem : ∀ character ∈ literal.characters, isNumberStart character = true := by
  intro character member
  rcases List.mem_append.mp member with inSign | inDigits
  · have signs := literal.isSign
    simp only [List.mem_cons, List.not_mem_nil, or_false] at signs
    rcases signs with none | plus | minus <;> simp_all [isNumberStart]
  · simp [isNumberStart, List.all_eq_true.mp literal.areDigits character inDigits]

theorem characters_begin :
    ∃ first more, literal.characters = first :: more ∧ isNumberStart first = true := by
  cases begins : literal.characters with
  | nil => exact absurd (List.append_eq_nil_iff.mp begins).2 literal.someDigits
  | cons first more =>
      exact ⟨first, more, rfl,
        literal.isNumberStart_of_mem first (begins ▸ List.mem_cons_self)⟩

theorem splitSign_characters : splitSign literal.characters = (literal.sign, literal.digits) := by
  obtain ⟨sign, digits, isSign, someDigits, areDigits⟩ := literal
  simp only [List.mem_cons, List.not_mem_nil, or_false] at isSign
  rcases isSign with rfl | rfl | rfl
  · cases digits with
    | nil => exact absurd rfl someDigits
    | cons first more =>
        have isDigit := List.all_eq_true.mp areDigits first List.mem_cons_self
        unfold characters splitSign
        split
        · next same => exact absurd isDigit (by simp [(List.cons.inj same).1])
        · next same => exact absurd isDigit (by simp [(List.cons.inj same).1])
        · rfl
  · rfl
  · rfl

theorem hexadecimal_characters : hexadecimal literal.characters = none := by
  unfold hexadecimal
  split
  · next rest same =>
      have isStart := literal.isNumberStart_of_mem 'x' (by simp [same])
      exact absurd isStart (by decide)
  · rfl

theorem decimal_characters : decimal literal.characters = none := by
  unfold decimal
  simp only [splitSign_characters, takeWhile_digits, List.drop_length]

/-- What a literal is read as: an integer, unless a signed word of 64 bits cannot hold it. -/
def reading : Reading :=
  match withinSigned 64 literal.value with
  | .error overflow => .malformed (.integerOverflow literal.text overflow)
  | .ok value => .token (.integer (Int64.ofInt value)) literal.characters.length

theorem integer_characters : integer literal.characters = some literal.reading := by
  unfold integer
  simp only [splitSign_characters, takeWhile_digits, if_neg literal.someDigits]
  unfold reading characters
  rw [show signedValue literal.sign literal.digits = literal.value from rfl, List.length_append]
  cases withinSigned 64 literal.value <;> rfl

theorem first?_characters : first? literal.characters = some literal.reading := by
  obtain ⟨first, more, begins, isStart⟩ := literal.characters_begin
  rw [begins, first?_number more isStart, ← begins]
  simp only [List.findSome?_cons, hexadecimal_characters, decimal_characters, integer_characters]

/-- A literal that stands alone is a single token or none. -/
theorem ofText_text :
    Tokenization.ofText literal.text =
      match withinSigned 64 literal.value with
      | .error overflow =>
        ⟨[], literal.characters, some (.refused (.integerOverflow literal.text overflow))⟩
      | .ok value => Tokenization.complete [⟨.integer (Int64.ofInt value), literal.text⟩] := by
  obtain ⟨first, more, begins, isStart⟩ := literal.characters_begin
  have applies := literal.first?_characters
  have notBlank := isBlank_of_isNumberStart isStart
  unfold reading text at applies
  unfold Tokenization.ofText text
  rw [String.toList_ofList]
  rw [begins] at applies ⊢
  cases decided : withinSigned 64 literal.value with
  | error overflow =>
      rw [decided] at applies
      exact Tokenization.ofCharacters_malformed notBlank applies
  | ok value =>
      rw [decided] at applies
      exact Tokenization.ofCharacters_single notBlank applies

theorem ofText_eq_complete_iff {token : Token} :
    Tokenization.ofText literal.text = Tokenization.complete [token] ↔
      IntKind.i64.admits literal.value = true ∧
        token = ⟨.integer (Int64.ofInt literal.value), literal.text⟩ := by
  rw [ofText_text]
  cases decided : withinSigned 64 literal.value with
  | error overflow =>
      refine ⟨nofun, fun ⟨fits, _⟩ => ?_⟩
      rw [withinSigned_64_eq_ok_iff.mpr ⟨fits, rfl⟩] at decided
      cases decided
  | ok value =>
      obtain ⟨fits, rfl⟩ := withinSigned_64_eq_ok_iff.mp decided
      constructor
      · rintro ⟨⟩
        exact ⟨fits, rfl⟩
      · rintro ⟨-, rfl⟩
        rfl

end DecimalLiteral

end MachineConsole
