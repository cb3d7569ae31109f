import MachineConsole.Proofs.Lexing.Accounting

/-!
Contract: tokens with no quotation mark and no semicolon in them.

Owns:
- `Unmarked`, texts without these characters;
- `Spelled`: a separator is a semicolon, and the raw text of a token is unmarked unless its kind is
  one of those that `mayHaveMarks` names;
- `ReadsFront.spelled`, for every token of a reading, whatever ends it.
-/

namespace MachineConsole

namespace LexicalRule

open Number (isHexDigit)
open Text (isBlank trimStart)

/-! ### Unmarked texts -/

/-- The quotation mark and the apostrophe. -/
def isQuotation (character : Char) : Bool :=
  character == '\x22' || character == '\x27'

/-- The characters that quote and the one that separates. -/
def isMark (character : Char) : Bool :=
  isQuotation character || character == ';'

/-- A text without quotation marks and semicolons. -/
def Unmarked (text : List Char) : Prop :=
  ∀ character ∈ text, isMark character = false

theorem isQuotation_iff {character : Char} :
    isQuotation character = true ↔ character = '\x22' ∨ character = '\x27' := by
  simp [isQuotation]

theorem isMark_iff {character : Char} :
    isMark character = true ↔ character = '\x22' ∨ character = '\x27' ∨ character = ';' := by
  simp [isMark, isQuotation, or_assoc]

theorem unmarked_nil : Unmarked [] :=
  nofun

theorem Unmarked.unquoted {text : List Char} (unmarked : Unmarked text) :
    ∀ character ∈ text, isQuotation character = false :=
  fun character member => (Bool.or_eq_false_iff.mp (unmarked character member)).1

theorem unmarked_append {front back : List Char} :
    Unmarked (front ++ back) ↔ Unmarked front ∧ Unmarked back :=
  List.forall_mem_append

theorem unmarked_cons {first : Char} {rest : List Char} :
    Unmarked (first :: rest) ↔ isMark first = false ∧ Unmarked rest :=
  List.forall_mem_cons

/-- No mark is of a class of characters. -/
def FreeOfMarks (accepts : Char → Bool) : Prop :=
  accepts '\x22' = false ∧ accepts '\x27' = false ∧ accepts ';' = false

instance (accepts : Char → Bool) : Decidable (FreeOfMarks accepts) :=
  inferInstanceAs (Decidable (_ ∧ _ ∧ _))

theorem FreeOfMarks.unmarked {accepts : Char → Bool} (free : FreeOfMarks accepts)
    {text : List Char} (accepted : ∀ character ∈ text, accepts character = true) :
    Unmarked text := by
  intro character member
  cases marked : isMark character with
  | false => rfl
  | true =>
      have isAccepted := accepted character member
      obtain ⟨quotation, apostrophe, semicolon⟩ := free
      obtain rfl | rfl | rfl := isMark_iff.mp marked
      · exact isAccepted.symm.trans quotation
      · exact isAccepted.symm.trans apostrophe
      · exact isAccepted.symm.trans semicolon

theorem FreeOfMarks.takeWhile {accepts : Char → Bool} (free : FreeOfMarks accepts)
    (text : List Char) : Unmarked (text.takeWhile accepts) :=
  free.unmarked fun _ member => List.all_eq_true.mp List.all_takeWhile _ member

theorem freeOfMarks_isBlank : FreeOfMarks isBlank := by
  decide +kernel

theorem unmarked_of_map_toLower {text : List Char} (unmarked : Unmarked (text.map Char.toLower)) :
    Unmarked text := by
  intro character member
  cases marked : isMark character with
  | false => rfl
  | true =>
      have lowered := unmarked character.toLower (List.mem_map_of_mem member)
      obtain rfl | rfl | rfl := isMark_iff.mp marked
      · cases lowered
      · cases lowered
      · cases lowered

/-! ### What the rules make -/

/-- Whether tokens of a kind may have quotation marks or semicolons in them. -/
def mayHaveMarks : TokenKind → Bool
  | .comment _ | .substitution _ | .string _ | .path _ | .terminator => true
  | _ => false

/-- A separator is a semicolon, and what is neither that nor may have marks has none. -/
def Spelled (kind : TokenKind) (raw : List Char) : Prop :=
  (kind = .separator → raw = [';']) ∧
    (mayHaveMarks kind = false → kind ≠ .separator → Unmarked raw)

/-- The tokens that a rule makes are spelled as they may be. -/
def Spells (rule : LexicalRule) : Prop :=
  ∀ text kind length, rule text = some (.token kind length) → Spelled kind (text.take length)

theorem spelled_of_unmarked {kind : TokenKind} {raw : List Char} (other : kind ≠ .separator)
    (unmarked : Unmarked raw) : Spelled kind raw :=
  ⟨fun same => absurd same other, fun _ _ => unmarked⟩

theorem spells_of_makes {rule : LexicalRule}
    (makes : Makes (fun kind => mayHaveMarks kind = true) rule) : Spells rule := by
  intro text kind length present
  have marked := makes text kind length present
  refine ⟨?_, fun unmarked => ?_⟩
  · rintro rfl
    cases marked
  · rw [marked] at unmarked
    cases unmarked

theorem mark_spells {written : List Char} {kind : TokenKind} (spelled : Spelled kind written) :
    Spells (mark written kind) := by
  intro text found length present
  obtain ⟨begins, same⟩ := mark_eq_some_iff.mp present
  obtain ⟨rfl, rfl⟩ := Reading.token.inj same
  rwa [← List.prefix_iff_eq_take.mp begins]

theorem Spells.orElse {first second : LexicalRule} (firstSpells : Spells first)
    (secondSpells : Spells second) : Spells fun text => first text <|> second text := by
  intro text kind length present
  cases reading : first text with
  | none => exact secondSpells text kind length (by simpa [reading] using present)
  | some made =>
      have same : made = .token kind length := by simpa [reading] using present
      exact firstSpells text kind length (by rw [reading, same])

theorem separator_spells : Spells separator :=
  mark_spells ⟨fun _ => rfl, fun _ other => absurd rfl other⟩

theorem bracket_spells : Spells bracket := by
  have left : Spells (mark ['['] .leftBracket) :=
    mark_spells (spelled_of_unmarked (by simp) (by simp [Unmarked, isMark, isQuotation]))
  have right : Spells (mark [']'] .rightBracket) :=
    mark_spells (spelled_of_unmarked (by simp) (by simp [Unmarked, isMark, isQuotation]))
  exact left.orElse right

theorem boolean_spells : Spells boolean := by
  intro text kind length present
  have word (value : Bool) {written : List Char} (unmarked : Unmarked written) :
      Spells (mark written (.boolean value)) :=
    mark_spells (spelled_of_unmarked (by simp) unmarked)
  have lowered := ((word true (by simp [Unmarked, isMark, isQuotation])).orElse
    (word false (by simp [Unmarked, isMark, isQuotation]))) (text.map Char.toLower) kind length present
  refine ⟨fun separator => ?_, fun mayNot other => ?_⟩
  · have isBoolean : Makes (· ≠ .separator) boolean := boolean_makes nofun
    exact absurd separator (isBoolean text kind length present)
  · have unmarked := lowered.2 mayNot other
    rw [← List.map_take] at unmarked
    exact unmarked_of_map_toLower unmarked

/-! ### Runs of characters -/

theorem take_of_split {text written rest : List Char} {length : Nat}
    (split : text = written ++ rest) (extent : length = written.length) :
    text.take length = written := by
  rw [split, extent, List.take_left]

theorem takeWhile_split (accepts : Char → Bool) (text : List Char) :
    text = text.takeWhile accepts ++ text.dropWhile accepts :=
  List.takeWhile_append_dropWhile.symm

theorem unmarked_digits (text : List Char) : Unmarked (text.takeWhile Char.isDigit) :=
  FreeOfMarks.takeWhile (by decide) text

theorem unmarked_hexDigits (text : List Char) : Unmarked (text.takeWhile isHexDigit) :=
  FreeOfMarks.takeWhile (by decide) text

theorem unmarked_sign {text sign unsigned : List Char}
    (signed : splitSign text = (sign, unsigned)) : Unmarked sign := by
  unfold splitSign at signed
  split at signed
  · obtain ⟨rfl, -⟩ := Prod.mk.inj signed
    simp [Unmarked, isMark, isQuotation]
  · obtain ⟨rfl, -⟩ := Prod.mk.inj signed
    simp [Unmarked, isMark, isQuotation]
  · obtain ⟨rfl, -⟩ := Prod.mk.inj signed
    exact unmarked_nil

theorem variableName_spells : Spells variableName := by
  intro text kind length present
  unfold variableName at present
  split at present
  · next rest =>
      dsimp only at present
      split at present
      · contradiction
      · obtain ⟨rfl, rfl⟩ := Reading.token.inj (Option.some.inj present)
        have split : '$' :: rest =
            ('$' :: rest.takeWhile isNameCharacter) ++ rest.dropWhile isNameCharacter := by
          simp
        rw [take_of_split split List.length_cons.symm]
        exact spelled_of_unmarked (by simp)
          (unmarked_cons.mpr ⟨by decide, FreeOfMarks.takeWhile (by decide) rest⟩)
  · contradiction

theorem literal_spells : Spells literal := by
  intro text kind length present
  simp only [literal] at present
  split at present
  · contradiction
  · obtain ⟨rfl, rfl⟩ := Reading.token.inj (Option.some.inj present)
    rw [take_of_split (takeWhile_split isWordCharacter text) rfl]
    exact spelled_of_unmarked (by simp) (FreeOfMarks.takeWhile (by decide +kernel) text)

theorem hexadecimal_spells : Spells hexadecimal := by
  intro text kind length present
  unfold hexadecimal at present
  split at present
  · next rest =>
      dsimp only at present
      split at present
      · contradiction
      · split at present
        · cases present
        · obtain ⟨rfl, rfl⟩ := Reading.token.inj (Option.some.inj present)
          have split : '0' :: 'x' :: rest =
              (['0', 'x'] ++ rest.takeWhile isHexDigit) ++ rest.dropWhile isHexDigit := by
            simp
          rw [take_of_split split (by simp)]
          exact spelled_of_unmarked (by simp)
            (unmarked_append.mpr ⟨by simp [Unmarked, isMark, isQuotation], unmarked_hexDigits rest⟩)
  · contradiction

theorem integer_spells : Spells integer := by
  intro text kind length present
  obtain ⟨sign, unsigned, signed⟩ : ∃ sign unsigned, splitSign text = (sign, unsigned) :=
    ⟨_, _, rfl⟩
  obtain ⟨split, -⟩ := splitSign_split signed
  rw [takeWhile_split Char.isDigit unsigned, ← List.append_assoc] at split
  simp only [integer, signed] at present
  split at present
  · contradiction
  · split at present
    · cases present
    · obtain ⟨rfl, rfl⟩ := Reading.token.inj (Option.some.inj present)
      rw [take_of_split split List.length_append.symm]
      exact spelled_of_unmarked (by simp)
        (unmarked_append.mpr ⟨unmarked_sign signed, unmarked_digits unsigned⟩)

theorem decimal_spells : Spells decimal := by
  intro text kind length present
  obtain ⟨sign, unsigned, signed⟩ : ∃ sign unsigned, splitSign text = (sign, unsigned) :=
    ⟨_, _, rfl⟩
  obtain ⟨split, -⟩ := splitSign_split signed
  simp only [decimal, signed, drop_length_takeWhile] at present
  split at present
  · next rest point =>
      split at present
      · contradiction
      · obtain ⟨rfl, rfl⟩ := Reading.token.inj (Option.some.inj present)
        have whole := takeWhile_split Char.isDigit unsigned
        rw [point, takeWhile_split Char.isDigit rest] at whole
        rw [whole] at split
        have written : text = (sign ++ unsigned.takeWhile Char.isDigit ++
            '.' :: rest.takeWhile Char.isDigit) ++ rest.dropWhile Char.isDigit := by
          simpa using split
        rw [take_of_split written (by simp; omega)]
        refine spelled_of_unmarked (by simp) ?_
        exact unmarked_append.mpr ⟨unmarked_append.mpr
          ⟨unmarked_sign signed, unmarked_digits unsigned⟩,
          unmarked_cons.mpr ⟨by decide, unmarked_digits rest⟩⟩
  · contradiction

/-! ### Ranges -/

/-- A reader that takes no marks. -/
def TakesNoMarks {α : Type} (reader : List Char → Option (α × List Char)) : Prop :=
  ∀ text value rest, reader text = some (value, rest) →
    ∃ taken, text = taken ++ rest ∧ Unmarked taken

theorem trimStart_takesNoMarks (text : List Char) :
    ∃ blanks, text = blanks ++ trimStart text ∧ Unmarked blanks :=
  ⟨text.takeWhile isBlank, takeWhile_split isBlank text, freeOfMarks_isBlank.takeWhile text⟩

theorem rangeNumber?_takesNoMarks : TakesNoMarks rangeNumber? := by
  intro text value rest found
  by_cases hex : text.take 2 = ['0', 'x']
  · obtain ⟨more, rfl⟩ : ∃ more, text = '0' :: 'x' :: more :=
      ⟨text.drop 2, by rw [← List.take_append_drop 2 text, hex]; rfl⟩
    simp only [rangeNumber?, drop_length_takeWhile] at found
    split at found
    · contradiction
    · obtain ⟨-, rfl⟩ := Prod.mk.inj (Option.some.inj found)
      exact ⟨['0', 'x'] ++ more.takeWhile isHexDigit, by simp, unmarked_append.mpr
        ⟨by simp [Unmarked, isMark, isQuotation], unmarked_hexDigits more⟩⟩
  · obtain ⟨sign, unsigned, signed⟩ : ∃ sign unsigned, splitSign text = (sign, unsigned) :=
      ⟨_, _, rfl⟩
    obtain ⟨split, -⟩ := splitSign_split signed
    rw [rangeNumber?_of_not_hex hex] at found
    simp only [signed, drop_length_takeWhile] at found
    split at found
    · contradiction
    · obtain ⟨-, rfl⟩ := Prod.mk.inj (Option.some.inj found)
      exact ⟨sign ++ unsigned.takeWhile Char.isDigit, by simp [split],
        unmarked_append.mpr ⟨unmarked_sign signed, unmarked_digits unsigned⟩⟩

theorem rangeLink?_takesNoMarks : TakesNoMarks rangeLink? := by
  intro text absolute rest found
  obtain ⟨blanks, split, unmarked⟩ := trimStart_takesNoMarks text
  unfold rangeLink? at found
  split at found
  · next behind comma =>
      obtain ⟨moreBlanks, splitBehind, moreUnmarked⟩ := trimStart_takesNoMarks behind
      obtain ⟨-, rfl⟩ := Prod.mk.inj (Option.some.inj found)
      refine ⟨blanks ++ ',' :: moreBlanks, ?_, ?_⟩
      · rw [comma, splitBehind] at split
        simpa using split
      · exact unmarked_append.mpr ⟨unmarked, unmarked_cons.mpr ⟨by decide, moreUnmarked⟩⟩
  · split at found
    · contradiction
    · obtain ⟨-, rfl⟩ := Prod.mk.inj (Option.some.inj found)
      exact ⟨blanks, split, unmarked⟩

theorem range_spells : Spells range := by
  intro text kind length present
  have isRange : Makes (· ≠ .separator) range := range_makes fun _ _ _ => nofun
  have other : kind ≠ .separator := isRange text kind length present
  unfold range at present
  split at present
  · next rest =>
      simp only [Option.bind_eq_bind, Option.bind_eq_some_iff] at present
      obtain ⟨⟨first, afterFirst⟩, foundFirst, ⟨absolute, beforeSecond⟩, foundLink,
        ⟨second, afterSecond⟩, foundSecond, closes⟩ := present
      dsimp only at foundFirst foundLink foundSecond closes
      split at closes
      · next after closed =>
          obtain ⟨blanks, splitBlanks, blanksUnmarked⟩ := trimStart_takesNoMarks rest
          obtain ⟨firstText, splitFirst, firstUnmarked⟩ :=
            rangeNumber?_takesNoMarks _ _ _ foundFirst
          obtain ⟨link, splitLink, linkUnmarked⟩ := rangeLink?_takesNoMarks _ _ _ foundLink
          obtain ⟨secondText, splitSecond, secondUnmarked⟩ :=
            rangeNumber?_takesNoMarks _ _ _ foundSecond
          obtain ⟨lastBlanks, splitLast, lastUnmarked⟩ := trimStart_takesNoMarks afterSecond
          rw [closed] at splitLast
          rw [splitFirst, splitLink, splitSecond, splitLast] at splitBlanks
          have written : '<' :: rest = ('<' :: (blanks ++ firstText ++ link ++ secondText ++
              lastBlanks ++ ['>'])) ++ after := by
            simpa using splitBlanks
          have extent : length = ('<' :: (blanks ++ firstText ++ link ++ secondText ++
              lastBlanks ++ ['>'])).length := by
            have whole := congrArg List.length written
            rw [rangeOf_length (Option.some.inj closes)]
            simp only [List.length_append, List.length_cons, List.length_nil] at whole ⊢
            omega
          rw [take_of_split written extent]
          refine spelled_of_unmarked other ?_
          simp only [unmarked_cons, unmarked_append]
          exact ⟨by decide, ⟨⟨⟨⟨blanksUnmarked, firstUnmarked⟩, linkUnmarked⟩, secondUnmarked⟩,
            lastUnmarked⟩, by decide, unmarked_nil⟩
      · contradiction
  · contradiction

/-! ### Every token of a reading -/

theorem all_spells : ∀ rule ∈ all, Spells rule := by
  have colon : Spells conditionalColon :=
    mark_spells (spelled_of_unmarked (by simp) (by simp [Unmarked, isMark, isQuotation]))
  have equals : Spells equality :=
    mark_spells (spelled_of_unmarked (by simp) (by simp [Unmarked, isMark, isQuotation]))
  have question : Spells conditionalQuestion :=
    mark_spells (spelled_of_unmarked (by simp) (by simp [Unmarked, isMark, isQuotation]))
  simp only [all, List.forall_mem_cons, List.not_mem_nil, false_implies, implies_true, and_true]
  exact ⟨colon, spells_of_makes (comment_makes fun _ => rfl),
    spells_of_makes (substitution_makes fun _ => rfl), variableName_spells, bracket_spells,
    spells_of_makes (block_makes fun _ => rfl), spells_of_makes (mark_makes rfl),
    spells_of_makes (quoted_makes fun _ => rfl), range_spells,
    spells_of_makes (path_makes fun _ => rfl), hexadecimal_spells, decimal_spells,
    integer_spells, boolean_spells, equals, question, separator_spells, literal_spells⟩

theorem first?_spells : Spells first? := by
  intro text kind length applies
  obtain ⟨rule, member, applies⟩ := List.exists_of_findSome?_eq_some applies
  exact all_spells rule member text kind length applies

end LexicalRule

namespace Tokenization

open LexicalRule (Spelled first?_spells)

/-- Every token at the beginning of a text is spelled as its kind may be. -/
theorem ReadsFront.spelled {text rest : List Char} {tokens : List Token}
    (reads : ReadsFront text tokens rest) :
    ∀ token ∈ tokens, Spelled token.kind token.raw.toList := by
  induction reads with
  | done => exact nofun
  | token applies _ inductionHypothesis =>
      refine List.forall_mem_cons.mpr ⟨?_, inductionHypothesis⟩
      simpa using first?_spells _ _ _ applies

end Tokenization

end MachineConsole
