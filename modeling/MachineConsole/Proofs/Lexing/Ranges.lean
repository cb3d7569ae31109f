import MachineConsole.Proofs.Lexing.Accounting
import MachineConsole.Proofs.Lexing.Integers

/-!
Contract: ranges as they are written.

Owns:
- `WrittenRange`, two numerals between angle brackets with a comma or blanks between them, and the
  addresses that these numerals amount to in exact arithmetic;
- `range_characters`: what the rule for ranges makes of a written range;
- `rangeOf_eq_token_iff`: bounds of 128 bits, addition and comparison decide as exact arithmetic does;
- `ofText_writtenRange`: which written ranges are read, as what, and that the others are left over.

A numeral that 128 bits cannot hold is refused before anything is compared. No such number is an
address, so this is no exception.
-/

namespace MachineConsole

open LexicalRule Tokenization
open Number (isHexDigit ofHexDigits twoTo)
open Text (isBlank trimStart)

/-! ### Numerals -/

/-- A number written in hexadecimal digits. -/
structure HexadecimalLiteral where
  digits : List Char
  someDigits : digits ≠ []
  areDigits : digits.all isHexDigit = true

/-- A number as it may be written in a range. -/
inductive BoundNumeral where
  | decimal (literal : DecimalLiteral)
  | hexadecimal (literal : HexadecimalLiteral)

/-- What may stand behind a numeral of a range: a blank, a comma or the closing bracket. -/
def EndsNumeral (tail : List Char) : Prop :=
  ∀ character ∈ tail.head?, isBlank character = true ∨ character = ',' ∨ character = '>'

theorem not_isHexDigit_of_isBlank {character : Char} (blank : isBlank character = true) :
    isHexDigit character = false := by
  have codes : character.toNat ≤ 0x20 ∨ 0x85 ≤ character.toNat := by
    simp only [isBlank, Bool.or_eq_true, Bool.and_eq_true, decide_eq_true_eq, beq_iff_eq] at blank
    omega
  simp only [isHexDigit, Char.isDigit, Char.le_def, UInt32.le_iff_toNat_le, ge_iff_le,
    Bool.or_eq_false_iff, Bool.and_eq_false_iff, decide_eq_false_iff_not]
  change character.val.toNat ≤ _ ∨ _ ≤ character.val.toNat at codes
  simp only [show '0'.val.toNat = 48 from rfl, show '9'.val.toNat = 57 from rfl,
    show 'a'.val.toNat = 97 from rfl, show 'f'.val.toNat = 102 from rfl,
    show 'A'.val.toNat = 65 from rfl, show 'F'.val.toNat = 70 from rfl]
  omega

namespace EndsNumeral

variable {tail : List Char} (ends : EndsNumeral tail)
include ends

theorem not_isHexDigit : ∀ character ∈ tail.head?, isHexDigit character = false := by
  intro character begins
  rcases ends character begins with blank | rfl | rfl
  · exact not_isHexDigit_of_isBlank blank
  · rfl
  · rfl

theorem not_isDigit : ∀ character ∈ tail.head?, character.isDigit = false := by
  intro character begins
  have notHex := ends.not_isHexDigit character begins
  unfold isHexDigit at notHex
  exact (Bool.or_eq_false_iff.mp (Bool.or_eq_false_iff.mp notHex).1).1

theorem head?_ne_x : tail.head? ≠ some 'x' := by
  intro begins
  rcases ends 'x' begins with blank | comma | bracket
  · exact absurd blank (by decide)
  · exact absurd comma (by decide)
  · exact absurd bracket (by decide)

end EndsNumeral

/-- Digits end where something begins that is no digit. -/
theorem takeWhile_append_of_stops {accepts : Char → Bool} {digits tail : List Char}
    (areDigits : digits.all accepts = true)
    (stops : ∀ character ∈ tail.head?, accepts character = false) :
    (digits ++ tail).takeWhile accepts = digits := by
  have nothing : tail.takeWhile accepts = [] := by
    cases tail with
    | nil => rfl
    | cons first more => exact List.takeWhile_cons_of_neg (by simp [stops first rfl])
  rw [List.takeWhile_append_of_pos (List.all_eq_true.mp areDigits), nothing, List.append_nil]

namespace BoundNumeral

def characters : BoundNumeral → List Char
  | .decimal literal => literal.characters
  | .hexadecimal literal => '0' :: 'x' :: literal.digits

/-- The number that a numeral writes. -/
def value : BoundNumeral → Int
  | .decimal literal => literal.value
  | .hexadecimal literal => ofHexDigits literal.digits

theorem characters_begin (numeral : BoundNumeral) :
    ∃ first more, numeral.characters = first :: more ∧ isNumberStart first = true := by
  cases numeral with
  | decimal literal => exact literal.characters_begin
  | hexadecimal literal => exact ⟨'0', _, rfl, rfl⟩

/-- A sign and digits do not begin as a hexadecimal number. -/
theorem take_two_decimal (literal : DecimalLiteral) {tail : List Char} (ends : EndsNumeral tail) :
    (literal.characters ++ tail).take 2 ≠ ['0', 'x'] := by
  intro hex
  obtain ⟨first, more, begins, -⟩ := literal.characters_begin
  rw [begins, List.cons_append, List.take_succ_cons, List.take_one] at hex
  have second : (more ++ tail).head? = some 'x' := by
    have inner := (List.cons.inj hex).2
    cases head : (more ++ tail).head? with
    | none => rw [head] at inner; cases inner
    | some character => rw [head] at inner; rw [(List.cons.inj inner).1]
  cases more with
  | nil => exact ends.head?_ne_x second
  | cons other rest =>
      have isStart := literal.isNumberStart_of_mem other (by simp [begins])
      obtain rfl : other = 'x' := Option.some.inj second
      exact absurd isStart (by decide)

theorem splitSign_append (literal : DecimalLiteral) (tail : List Char) :
    splitSign (literal.characters ++ tail) = (literal.sign, literal.digits ++ tail) := by
  obtain ⟨-, resplit⟩ := splitSign_split literal.splitSign_characters
  have sameHead : (literal.digits ++ tail).head? = literal.digits.head? := by
    obtain ⟨first, more, digits⟩ := List.exists_cons_of_ne_nil literal.someDigits
    rw [digits]
    rfl
  have again := resplit _ sameHead
  rwa [← List.append_assoc] at again

/-- A numeral is read as the number that it writes, if 128 bits can hold it. -/
theorem rangeNumber?_append (numeral : BoundNumeral) {tail : List Char}
    (ends : EndsNumeral tail) :
    rangeNumber? (numeral.characters ++ tail) = some (withinSigned 128 numeral.value, tail) := by
  cases numeral with
  | decimal literal =>
      have digits := takeWhile_append_of_stops literal.areDigits ends.not_isDigit
      change rangeNumber? (literal.characters ++ tail) = _
      rw [rangeNumber?_of_not_hex (take_two_decimal literal ends), splitSign_append]
      simp only [digits, if_neg literal.someDigits, List.drop_left]
      rfl
  | hexadecimal literal =>
      have digits := takeWhile_append_of_stops literal.areDigits ends.not_isHexDigit
      change rangeNumber? ('0' :: 'x' :: (literal.digits ++ tail)) = _
      simp only [rangeNumber?, digits, if_neg literal.someDigits, List.drop_left]
      rfl

end BoundNumeral

/-! ### Written ranges -/

/-- Blanks that may stand inside a range. -/
abbrev Blanks :=
  { blanks : List Char // ∀ character ∈ blanks, isBlank character = true }

/-- What stands between the two numerals of a range. -/
inductive RangeLink where
  | comma (before after : Blanks)
  | blanks (gap : Blanks) (someBlanks : gap.val ≠ [])

namespace RangeLink

def characters : RangeLink → List Char
  | .comma before after => before.val ++ ',' :: after.val
  | .blanks gap _ => gap.val

/-- Whether the second numeral is the last address, and not the number of addresses. -/
def isComma : RangeLink → Bool
  | .comma _ _ => true
  | .blanks _ _ => false

end RangeLink

/-- A range as it is written. -/
structure WrittenRange where
  first : BoundNumeral
  second : BoundNumeral
  link : RangeLink
  opening : Blanks
  closing : Blanks

namespace WrittenRange

variable (range : WrittenRange)

/-- The characters behind the opening bracket. -/
def inner : List Char :=
  range.opening.val ++ (range.first.characters ++ (range.link.characters ++
    (range.second.characters ++ (range.closing.val ++ ['>']))))

def characters : List Char :=
  '<' :: range.inner

def text : String :=
  String.ofList range.characters

/-- The last address: it is written, or a size puts it that many addresses behind the first,
less one. -/
def last : Int :=
  if range.link.isComma then range.second.value else range.first.value + range.second.value - 1

/-- Whether the numbers written make a range of words of 64 bits. -/
def IsWithinBounds : Prop :=
  if range.link.isComma then
    0 ≤ range.first.value ∧ range.first.value ≤ range.second.value ∧ range.second.value < 2 ^ 64
  else
    0 ≤ range.first.value ∧ 1 ≤ range.second.value ∧
      range.first.value + range.second.value - 1 < 2 ^ 64

theorem isWithinBounds_iff :
    range.IsWithinBounds ↔
      0 ≤ range.first.value ∧ range.first.value ≤ range.last ∧ range.last < 2 ^ 64 := by
  unfold IsWithinBounds last
  split
  · exact Iff.rfl
  · omega

end WrittenRange

/-! ### The rule for ranges -/

theorem trimStart_blanks (blanks : Blanks) {first : Char} (more : List Char)
    (notBlank : isBlank first = false) :
    trimStart (blanks.val ++ first :: more) = first :: more := by
  rw [trimStart_append_of_blank blanks.property, trimStart_of_not_blank more notBlank]

/-- Blanks in front of a comma or a bracket end a numeral, as these do. -/
theorem endsNumeral_blanks (blanks : Blanks) {mark : Char} (more : List Char)
    (isMark : mark = ',' ∨ mark = '>') : EndsNumeral (blanks.val ++ mark :: more) := by
  obtain ⟨gap, areBlank⟩ := blanks
  intro character begins
  cases gap with
  | nil => exact .inr (Option.some.inj begins ▸ isMark)
  | cons blank rest => exact .inl (Option.some.inj begins ▸ areBlank blank List.mem_cons_self)

theorem RangeLink.endsNumeral (link : RangeLink) (behind : List Char) :
    EndsNumeral (link.characters ++ behind) := by
  cases link with
  | comma before after =>
      unfold characters
      rw [List.append_assoc]
      exact endsNumeral_blanks before _ (.inl rfl)
  | blanks gap someBlanks =>
      obtain ⟨gap, areBlank⟩ := gap
      obtain ⟨blank, rest, rfl⟩ := List.exists_cons_of_ne_nil someBlanks
      intro character begins
      exact .inl (Option.some.inj begins ▸ areBlank blank List.mem_cons_self)

/-- The link is read up to the numeral behind it. -/
theorem RangeLink.rangeLink?_append (link : RangeLink) (numeral : BoundNumeral)
    (behind : List Char) :
    rangeLink? (link.characters ++ (numeral.characters ++ behind)) =
      some (link.isComma, numeral.characters ++ behind) := by
  obtain ⟨first, more, begins, isStart⟩ := numeral.characters_begin
  have notBlank := isBlank_of_isNumberStart isStart
  rw [begins, List.cons_append]
  unfold rangeLink?
  cases link with
  | comma before after =>
      unfold characters
      rw [List.append_assoc, List.cons_append, trimStart_blanks before _ (by decide)]
      change some (true, trimStart (after.val ++ first :: (more ++ behind))) = _
      rw [trimStart_blanks after _ notBlank]
      rfl
  | blanks gap someBlanks =>
      have notComma : first ≠ ',' := by
        rintro rfl
        exact absurd isStart (by decide)
      have longer : (first :: (more ++ behind)).length ≠
          (gap.val ++ first :: (more ++ behind)).length := by
        have positive := List.length_pos_iff.mpr someBlanks
        rw [List.length_append]
        omega
      unfold characters
      rw [trimStart_blanks gap _ notBlank]
      split
      · next same => exact absurd (List.cons.inj same).1 notComma
      · rw [if_neg longer]
        rfl

namespace WrittenRange

variable (range : WrittenRange)

/-- The rule takes all of a written range and decides by the numbers written. -/
theorem range_characters (behind : List Char) :
    LexicalRule.range (range.characters ++ behind) =
      some (rangeOf range.link.isComma range.text (withinSigned 128 range.first.value)
        (withinSigned 128 range.second.value) range.characters.length) := by
  have split : range.inner ++ behind = range.opening.val ++ (range.first.characters ++
      (range.link.characters ++ (range.second.characters ++
        (range.closing.val ++ '>' :: behind)))) := by
    simp [inner]
  obtain ⟨start, more, begins, isStart⟩ := range.first.characters_begin
  have opened : trimStart (range.inner ++ behind) = range.first.characters ++
      (range.link.characters ++ (range.second.characters ++
        (range.closing.val ++ '>' :: behind))) := by
    rw [split, begins, List.cons_append]
    exact trimStart_blanks range.opening _ (isBlank_of_isNumberStart isStart)
  have first := range.first.rangeNumber?_append (range.link.endsNumeral
    (range.second.characters ++ (range.closing.val ++ '>' :: behind)))
  have second := range.second.rangeNumber?_append
    (endsNumeral_blanks range.closing behind (.inr rfl))
  have closed : trimStart (range.closing.val ++ '>' :: behind) = '>' :: behind :=
    trimStart_blanks range.closing behind (by decide)
  have extent : (range.inner ++ behind).length + 1 - behind.length = range.characters.length := by
    rw [List.length_append, characters, List.length_cons]
    omega
  have raw : String.ofList (('<' :: (range.inner ++ behind)).take range.characters.length) =
      range.text := by
    rw [← List.cons_append]
    exact congrArg String.ofList List.take_left
  change LexicalRule.range ('<' :: (range.inner ++ behind)) = _
  unfold LexicalRule.range
  simp only [opened, first, range.link.rangeLink?_append, second, closed, extent, raw,
    Option.bind_eq_bind, Option.bind_some]

end WrittenRange

/-! ### Exact arithmetic -/

theorem toNat_ofNat_toNat {address : Int} (lower : 0 ≤ address) (upper : address < 2 ^ 64) :
    ((UInt64.ofNat address.toNat).toNat : Int) = address := by
  rw [UInt64.toNat_ofNat_of_lt' (by simp only [UInt64.size]; omega), Int.toNat_of_nonneg lower]

/-- A number that may be an address or a size is not too large for 128 bits. -/
theorem withinSigned_128 {number : Int} (lower : 0 ≤ number) (upper : number ≤ 2 ^ 64) :
    withinSigned 128 number = .ok number := by
  have bound : ((twoTo (128 - 1) : Nat) : Int) = 2 ^ 127 := rfl
  rw [withinSigned_eq_ok_iff, bound]
  exact ⟨by omega, by omega, rfl⟩

/-- Bounds of 128 bits, the addition of a size and the comparisons decide as exact arithmetic
does. -/
theorem rangeOf_eq_token_iff {isComma : Bool} {raw : String} {first second : Int}
    {length taken : Nat} {kind : TokenKind} :
    rangeOf isComma raw (withinSigned 128 first) (withinSigned 128 second) length =
        .token kind taken ↔
      rangeBetween raw first (if isComma then second else first + second - 1) length =
        .token kind taken := by
  constructor
  · intro ranges
    unfold rangeOf at ranges
    split at ranges
    · contradiction
    · contradiction
    · next start size startFits sizeFits =>
        obtain ⟨-, -, rfl⟩ := withinSigned_eq_ok_iff.mp startFits
        obtain ⟨-, -, rfl⟩ := withinSigned_eq_ok_iff.mp sizeFits
        split at ranges
        · next comma => rwa [if_pos comma]
        · next notComma =>
            rw [if_neg notComma]
            split at ranges
            · contradiction
            · split at ranges
              · contradiction
              · next stop stopFits =>
                  obtain ⟨-, -, rfl⟩ := withinSigned_eq_ok_iff.mp stopFits
                  rwa [← Int.add_sub_assoc] at ranges
  · intro between
    obtain ⟨⟨lower, ordered, upper⟩, -⟩ := rangeBetween_eq_token_iff.mp between
    rw [withinSigned_128 lower (by omega)]
    unfold rangeOf
    cases isComma with
    | true =>
        rw [if_pos rfl] at between ordered upper
        rw [withinSigned_128 (by omega) (by omega)]
        exact between
    | false =>
        rw [if_neg Bool.false_ne_true] at between ordered upper
        rw [withinSigned_128 (by omega) (by omega)]
        dsimp only
        rw [if_neg Bool.false_ne_true, if_neg (by omega), ← Int.add_sub_assoc,
          withinSigned_128 (by omega) (by omega)]
        exact between

namespace WrittenRange

variable (range : WrittenRange)

/-- The token that a written range is read as. -/
def token : Token :=
  ⟨.range (UInt64.ofNat range.first.value.toNat) (UInt64.ofNat range.last.toNat), range.text⟩

theorem first?_characters_iff {behind : List Char} {kind : TokenKind} {length : Nat} :
    first? (range.characters ++ behind) = some (.token kind length) ↔
      range.IsWithinBounds ∧ kind = range.token.kind ∧ length = range.characters.length := by
  rw [show range.characters ++ behind = '<' :: (range.inner ++ behind) from rfl, first?_angle,
    show '<' :: (range.inner ++ behind) = range.characters ++ behind from rfl, range_characters,
    Option.some.injEq, rangeOf_eq_token_iff, rangeBetween_eq_token_iff, isWithinBounds_iff]
  rfl

theorem toList_text_append (behind : String) :
    (range.text ++ behind).toList = range.characters ++ behind.toList := by
  rw [String.toList_append, text, String.toList_ofList]

/-- A range of words of 64 bits is one token, and what is behind it is read on its own. -/
theorem ofText_of_isWithinBounds (within : range.IsWithinBounds) (behind : String) :
    ofText (range.text ++ behind) = (ofText behind).cons range.token := by
  have applies : first? ('<' :: (range.inner ++ behind.toList)) =
      some (.token range.token.kind range.characters.length) :=
    range.first?_characters_iff.mpr ⟨within, rfl, rfl⟩
  have read := ofCharacters_token (by decide) applies
  rw [← List.cons_append, show '<' :: range.inner = range.characters from rfl, List.drop_left,
    List.take_left] at read
  unfold ofText
  rw [toList_text_append]
  exact read

/-- Any other range is a form that cannot be decoded. -/
theorem ofText_of_not_isWithinBounds (outside : ¬ range.IsWithinBounds) (behind : String) :
    ∃ cause, ofText (range.text ++ behind) =
      ⟨[], (range.text ++ behind).toList, some (.refused cause)⟩ := by
  have decided : ∃ reading, first? ('<' :: (range.inner ++ behind.toList)) = some reading :=
    ⟨_, (first?_angle _).trans (range.range_characters behind.toList)⟩
  obtain ⟨reading, applies⟩ := decided
  cases reading with
  | token kind length => exact absurd (range.first?_characters_iff.mp applies).1 outside
  | malformed cause =>
      refine ⟨cause, ?_⟩
      unfold ofText
      rw [toList_text_append]
      exact ofCharacters_malformed (by decide) applies

/-- The words of the token are the addresses written. -/
theorem toNat_token (within : range.IsWithinBounds) :
    ∃ first last : UInt64, (first.toNat : Int) = range.first.value ∧
      (last.toNat : Int) = range.last ∧ range.token = ⟨.range first last, range.text⟩ := by
  obtain ⟨lower, ordered, upper⟩ := range.isWithinBounds_iff.mp within
  exact ⟨_, _, toNat_ofNat_toNat lower (by omega), toNat_ofNat_toNat (by omega) upper, rfl⟩

/-- Ranges with the same addresses are read alike, however they are written. -/
theorem kinds_eq_of_same_addresses {range other : WrittenRange}
    (sameFirst : range.first.value = other.first.value) (sameLast : range.last = other.last)
    (behind : String) :
    (ofText (range.text ++ behind)).tokens.map Token.kind =
      (ofText (other.text ++ behind)).tokens.map Token.kind := by
  have within : range.IsWithinBounds ↔ other.IsWithinBounds := by
    rw [range.isWithinBounds_iff, other.isWithinBounds_iff, sameFirst, sameLast]
  by_cases inBounds : range.IsWithinBounds
  · have sameKind : range.token.kind = other.token.kind := by
      rw [token, token, sameFirst, sameLast]
    rw [range.ofText_of_isWithinBounds inBounds,
      other.ofText_of_isWithinBounds (within.mp inBounds)]
    exact congrArg (· :: _) sameKind
  · obtain ⟨_, rangeFails⟩ := range.ofText_of_not_isWithinBounds inBounds behind
    obtain ⟨_, otherFails⟩ :=
      other.ofText_of_not_isWithinBounds (fun also => inBounds (within.mpr also)) behind
    rw [rangeFails, otherFails]

/-- A size stands for the last address that it amounts to. -/
theorem last_eq_of_sized {sized absolute : WrittenRange} (noComma : sized.link.isComma = false)
    (comma : absolute.link.isComma = true)
    (sameLast : absolute.second.value = sized.first.value + sized.second.value - 1) :
    sized.last = absolute.last := by
  rw [last, last, if_pos comma, if_neg (by simp [noComma]), sameLast]

end WrittenRange

/-- No range that is read runs backwards. -/
theorem range_ordered (text : String) :
    ∀ token ∈ (ofText text).tokens, ∀ first last,
      token.kind = .range first last → first ≤ last := by
  intro token member first last isRange
  have ordered := (ofText_readsFront text).makes first?_makesOrdered token member
  rw [isRange] at ordered
  exact ordered

/-- A written range is read as the words of 64 bits that its numbers amount to in exact arithmetic,
when they are in order and it has at least one address; any other is left over, with a fault. So a
range that is read never runs backwards, and a size stands for the last address that it amounts to. -/
theorem ofText_writtenRange :
    (∀ (range : WrittenRange) (behind : String),
      (range.IsWithinBounds → ∃ first last : UInt64,
        (first.toNat : Int) = range.first.value ∧ (last.toNat : Int) = range.last ∧
          ofText (range.text ++ behind) = (ofText behind).cons ⟨.range first last, range.text⟩) ∧
      (¬ range.IsWithinBounds → ∃ cause, ofText (range.text ++ behind) =
        ⟨[], (range.text ++ behind).toList, some (.refused cause)⟩)) ∧
    (∀ text, ∀ token ∈ (ofText text).tokens, ∀ first last,
      token.kind = .range first last → first ≤ last) ∧
    ∀ sized absolute : WrittenRange,
      sized.link.isComma = false → absolute.link.isComma = true →
      absolute.first.value = sized.first.value →
      absolute.second.value = sized.first.value + sized.second.value - 1 →
      ∀ behind : String, (ofText (sized.text ++ behind)).tokens.map Token.kind =
        (ofText (absolute.text ++ behind)).tokens.map Token.kind := by
  refine ⟨fun range behind => ⟨fun within => ?_, fun outside =>
    range.ofText_of_not_isWithinBounds outside behind⟩, range_ordered, ?_⟩
  · obtain ⟨first, last, isFirst, isLast, token⟩ := range.toNat_token within
    exact ⟨first, last, isFirst, isLast, token ▸ range.ofText_of_isWithinBounds within behind⟩
  · intro sized absolute noComma comma sameFirst sameLast behind
    exact WrittenRange.kinds_eq_of_same_addresses sameFirst.symm
      (WrittenRange.last_eq_of_sized noComma comma sameLast) behind

/-- A size of 256 and the last address, as numerals of either form; a size that goes beyond the
greatest address. -/
theorem ofText_writtenRange_sized :
    ∃ sized absolute beyond : WrittenRange,
      (sized.text = "< 0x2000 256>" ∧ absolute.text = "<+8192,0x20FF >" ∧
        beyond.text = "<0xFFFFFFFFFFFFFFFF 2>") ∧
      (sized.IsWithinBounds ∧ ∃ first last, ofText sized.text =
        Tokenization.complete [⟨.range first last, "< 0x2000 256>"⟩]) ∧
      ((ofText sized.text).tokens.map Token.kind = (ofText absolute.text).tokens.map Token.kind) ∧
      ¬ beyond.IsWithinBounds ∧ ∃ cause, (ofText beyond.text).fault = some (.refused cause) := by
  let noBlanks : Blanks := ⟨[], nofun⟩
  let blank : Blanks := ⟨[' '], List.forall_mem_singleton.mpr rfl⟩
  let sized : WrittenRange :=
    ⟨.hexadecimal ⟨"2000".toList, by decide, by decide⟩,
      .decimal ⟨[], "256".toList, by decide, by decide, by decide⟩,
      .blanks blank (by decide), blank, noBlanks⟩
  let absolute : WrittenRange :=
    ⟨.decimal ⟨['+'], "8192".toList, by decide, by decide, by decide⟩,
      .hexadecimal ⟨"20FF".toList, by decide, by decide⟩, .comma noBlanks noBlanks, noBlanks, blank⟩
  let beyond : WrittenRange :=
    ⟨.hexadecimal ⟨"FFFFFFFFFFFFFFFF".toList, by decide, by decide⟩,
      .decimal ⟨[], ['2'], by decide, by decide, by decide⟩, .blanks blank (by decide), noBlanks,
      noBlanks⟩
  have texts : sized.text = "< 0x2000 256>" ∧ absolute.text = "<+8192,0x20FF >" ∧
      beyond.text = "<0xFFFFFFFFFFFFFFFF 2>" := by decide +kernel
  have within : sized.IsWithinBounds := by
    refine sized.isWithinBounds_iff.mpr ?_
    decide +kernel
  have outside : ¬ beyond.IsWithinBounds := by
    rw [beyond.isWithinBounds_iff]
    decide +kernel
  refine ⟨sized, absolute, beyond, texts, ⟨within, ?_⟩, ?_, outside, ?_⟩
  · obtain ⟨first, last, -, -, read⟩ := (ofText_writtenRange.1 sized "").1 within
    rw [String.append_empty, texts.1] at read
    exact ⟨first, last, texts.1 ▸ read⟩
  · have alike := ofText_writtenRange.2.2 sized absolute rfl rfl (by decide +kernel)
      (by decide +kernel) ""
    rwa [String.append_empty, String.append_empty] at alike
  · obtain ⟨cause, read⟩ := (ofText_writtenRange.1 beyond "").2 outside
    rw [String.append_empty] at read
    exact ⟨cause, congrArg Tokenization.fault read⟩

end MachineConsole
