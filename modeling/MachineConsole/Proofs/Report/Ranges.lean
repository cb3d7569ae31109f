import MachineConsole.Proofs.Lexing.Ranges
import MachineConsole.Proofs.Report.Integers

/-!
Contract: ranges as they are shown.

Owns:
- `WritesWord`, the texts that write a word of 64 bits as a numeral of a range, and that each way to
  show an address makes such a text;
- `ofText_shown_range`: a range that is shown can be typed back.

Does not own: ranges in the mode that shows every integer twice, which is not a form of a range.
-/

namespace MachineConsole

open Number

/-! ### Addresses -/

/-- A text is a numeral for a word of 64 bits, as one may be written in a range. -/
def WritesWord (text : String) (word : UInt64) : Prop :=
  ∃ numeral : BoundNumeral, text = String.ofList numeral.characters ∧ numeral.value = word.toNat

/-- The word that an address is shown as keeps its pattern. -/
theorem toInt_toInt64_emod (word : UInt64) : word.toInt64.toInt % 2 ^ 64 = word.toNat :=
  (toNat_toUInt64 word.toInt64).symm

/-- Upper case digits write a word behind the mark of their radix. -/
theorem writesWord_of_digits {digits : List Char} {word : UInt64} (someDigits : digits ≠ [])
    (areUpper : ∀ digit ∈ digits, isUpperHexDigit digit = true)
    (value : (ofHexDigits digits : Int) = word.toNat) :
    WritesWord ("0x" ++ String.ofList digits) word := by
  have areDigits : digits.all isHexDigit = true :=
    List.all_eq_true.mpr fun digit member =>
      isHexDigit_of_isUpperHexDigit (areUpper digit member)
  refine ⟨.hexadecimal ⟨digits, someDigits, areDigits⟩, ?_, value⟩
  have marked : String.ofList (['0', 'x'] ++ digits) =
      String.ofList ['0', 'x'] ++ String.ofList digits := String.ofList_append
  exact marked.symm

theorem writesWord_upperHex (word : UInt64) : WritesWord ("0x" ++ upperHex word.toNat) word := by
  rw [upperHex_eq]
  exact writesWord_of_digits (upperHexDigits_ne_nil _) (isUpperHexDigit_of_mem_upperHexDigits _)
    (congrArg Int.ofNat (ofHexDigits_upperHexDigits word.toNat))

namespace NumberMode

theorem writesWord_hexText (word : UInt64) : WritesWord (hexText word.toInt64 .u64) word := by
  have someDigits : hexDigits word.toInt64 .u64 ≠ [] :=
    List.ne_nil_of_length_pos (length_hexDigits ▸ by decide)
  rw [hexText_eq]
  exact writesWord_of_digits someDigits isUpperHexDigit_of_mem_hexAtWidth
    (ofHexDigits_hexDigits.trans (toInt_toInt64_emod word))

theorem writesWord_decimalText (word : UInt64) :
    WritesWord (decimalText word.toInt64 .u64) word := by
  refine ⟨.decimal (numeral word.toInt64 .u64), decimalText_eq, ?_⟩
  exact value_numeral.trans (toInt_toInt64_emod word)

end NumberMode

/-! ### Ranges -/

namespace WrittenRange

/-- A range as it is shown, with a comma and a blank between its addresses. -/
def shown (first last : BoundNumeral) : WrittenRange where
  first := first
  second := last
  link := .comma ⟨[], nofun⟩ ⟨[' '], List.forall_mem_singleton.mpr rfl⟩
  opening := ⟨[], nofun⟩
  closing := ⟨[], nofun⟩

theorem text_shown (first last : BoundNumeral) :
    (shown first last).text =
      "<" ++ String.ofList first.characters ++ ", " ++ String.ofList last.characters ++ ">" := by
  apply String.toList_inj.mp
  simp [text, characters, inner, shown, RangeLink.characters]

/-- Words in order are within the bounds. -/
theorem isWithinBounds_shown {firstNumeral lastNumeral : BoundNumeral} {first last : UInt64}
    (firstValue : firstNumeral.value = first.toNat) (lastValue : lastNumeral.value = last.toNat)
    (ordered : first ≤ last) : (shown firstNumeral lastNumeral).IsWithinBounds := by
  change 0 ≤ firstNumeral.value ∧ firstNumeral.value ≤ lastNumeral.value ∧
    lastNumeral.value < 2 ^ 64
  have upper : last.toNat < 2 ^ 64 := last.toNat_lt
  have lower : first.toNat ≤ last.toNat := UInt64.le_iff_toNat_le.mp ordered
  rw [firstValue, lastValue]
  omega

theorem token_shown {firstNumeral lastNumeral : BoundNumeral} {first last : UInt64}
    (firstValue : firstNumeral.value = first.toNat) (lastValue : lastNumeral.value = last.toNat) :
    (shown firstNumeral lastNumeral).token =
      ⟨.range first last, (shown firstNumeral lastNumeral).text⟩ := by
  change (⟨.range (UInt64.ofNat firstNumeral.value.toNat) (UInt64.ofNat lastNumeral.value.toNat),
    _⟩ : Token) = _
  rw [firstValue, lastValue, Int.toNat_natCast, Int.toNat_natCast, UInt64.ofNat_toNat,
    UInt64.ofNat_toNat]

end WrittenRange

/-- Numerals of two words in order, shown with a comma and a blank between them, are read as the
range of these words. -/
theorem ofText_of_writesWord {firstText lastText : String} {first last : UInt64}
    (writesFirst : WritesWord firstText first) (writesLast : WritesWord lastText last)
    (ordered : first ≤ last) :
    let text := "<" ++ firstText ++ ", " ++ lastText ++ ">"
    Tokenization.ofText text = Tokenization.complete [⟨.range first last, text⟩] := by
  obtain ⟨firstNumeral, rfl, firstValue⟩ := writesFirst
  obtain ⟨lastNumeral, rfl, lastValue⟩ := writesLast
  have within := WrittenRange.isWithinBounds_shown firstValue lastValue ordered
  have read := WrittenRange.ofText_of_isWithinBounds _ within ""
  rw [String.append_empty, WrittenRange.token_shown firstValue lastValue,
    WrittenRange.text_shown] at read
  exact read

/-- The text of a range, and its text in the modes that show every integer once, are each read as
that range and nothing else. -/
theorem ofText_shown_range {first last : UInt64} (ordered : first ≤ last) (labels : Labels)
    (type : ValueType) :
    ∀ text ∈ [Value.display labels (.range first last),
        NumberMode.valueText .hexadecimal labels type (.range first last),
        NumberMode.valueText .decimal labels type (.range first last)],
      Tokenization.ofText text = Tokenization.complete [⟨.range first last, text⟩] := by
  have shown : Value.display labels (.range first last) =
      "<" ++ ("0x" ++ upperHex first.toNat) ++ ", " ++ ("0x" ++ upperHex last.toNat) ++ ">" := by
    rw [Value.display, show "<0x" = "<" ++ "0x" from rfl, show ", 0x" = ", " ++ "0x" from rfl]
    simp only [String.append_assoc]
  rw [List.forall_mem_cons, List.forall_mem_cons, List.forall_mem_singleton, shown]
  simp only [NumberMode.valueText]
  exact ⟨ofText_of_writesWord (writesWord_upperHex first) (writesWord_upperHex last) ordered,
    ofText_of_writesWord (NumberMode.writesWord_hexText first)
      (NumberMode.writesWord_hexText last) ordered,
    ofText_of_writesWord (NumberMode.writesWord_decimalText first)
      (NumberMode.writesWord_decimalText last) ordered⟩

/-- Up to the greatest address, which a signed word holds as minus one. -/
theorem ofText_shown_range_greatest :
    NumberMode.valueText .decimal (fun _ => "") .range (.range 4096 0xFFFFFFFFFFFFFFFF) =
        "<4096, 18446744073709551615>" ∧
      Tokenization.ofText "<4096, 18446744073709551615>" = Tokenization.complete
        [⟨.range 4096 0xFFFFFFFFFFFFFFFF, "<4096, 18446744073709551615>"⟩] := by
  have shown : NumberMode.valueText .decimal (fun _ => "") .range
      (.range 4096 0xFFFFFFFFFFFFFFFF) = "<4096, 18446744073709551615>" := by decide +kernel
  exact ⟨shown, ofText_shown_range (by decide) (fun _ => "") .range _ (by simp [shown])⟩

end MachineConsole
