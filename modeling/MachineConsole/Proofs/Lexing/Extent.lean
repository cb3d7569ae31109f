import Mathlib.Algebra.Group.Int.Defs
import MachineConsole.Token.Lexer

/-!
Contract: how much of a text a lexical rule consumes.

Owns:
- `LooksOneAhead`: a reader that depends on what it consumes and on the one character behind it;
- the extent of the readers behind the rules, each with the texts that may be put in place of what
  it leaves over;
- `Bounded`: a rule that applies consumes at least one character and no more than there are.

Does not own: how a rule behaves on the text of its own token, which is
`MachineConsole.Proofs.Lexing.Separation`.
-/

namespace MachineConsole.LexicalRule

open Text (isBlank trimStart)
open Number (isHexDigit twoTo)

/-! ### Runs of characters -/

theorem drop_length_takeWhile {α : Type} (accepts : α → Bool) (text : List α) :
    text.drop (text.takeWhile accepts).length = text.dropWhile accepts := by
  calc text.drop (text.takeWhile accepts).length
      = (text.takeWhile accepts ++ text.dropWhile accepts).drop
          (text.takeWhile accepts).length := by rw [List.takeWhile_append_dropWhile]
    _ = text.dropWhile accepts := List.drop_left

theorem length_takeWhile_le {α : Type} (accepts : α → Bool) (text : List α) :
    (text.takeWhile accepts).length ≤ text.length :=
  List.IsPrefix.length_le <| List.takeWhile_prefix accepts

theorem takeWhile_eq_nil_of_head?_eq {α : Type} (accepts : α → Bool) {text other : List α}
    (sameHead : other.head? = (text.dropWhile accepts).head?) :
    other.takeWhile accepts = [] := by
  cases other with
  | nil => rfl
  | cons first more =>
      have rejected := List.head?_dropWhile_not accepts text
      rw [← sameHead] at rejected
      exact List.takeWhile_cons_of_neg (by simpa using rejected)

/-- A run of characters ends where it did for any text that begins like the one behind it. -/
theorem takeWhile_append_of_head?_eq {α : Type} (accepts : α → Bool) {text other : List α}
    (sameHead : other.head? = (text.dropWhile accepts).head?) :
    (text.takeWhile accepts ++ other).takeWhile accepts = text.takeWhile accepts := by
  rw [List.takeWhile_append_of_pos (List.all_eq_true.mp List.all_takeWhile),
    takeWhile_eq_nil_of_head?_eq accepts sameHead, List.append_nil]

theorem dropWhile_append_of_head?_eq {α : Type} (accepts : α → Bool) {text other : List α}
    (sameHead : other.head? = (text.dropWhile accepts).head?) :
    (text.takeWhile accepts ++ other).dropWhile accepts = other := by
  rw [← drop_length_takeWhile, takeWhile_append_of_head?_eq accepts sameHead, List.drop_left]

theorem head?_append_of_eq {α : Type} (front : List α) {rest other : List α}
    (sameHead : other.head? = rest.head?) : (front ++ other).head? = (front ++ rest).head? := by
  rw [List.head?_append, List.head?_append, sameHead]

/-! ### Readers that look one character ahead -/

/-- A reader whose value depends on what it consumes, and which stops where it does for any text
that begins with the same character as the one it left over. -/
def LooksOneAhead {α : Type} (reader : List Char → Option (α × List Char)) : Prop :=
  ∀ text value rest, reader text = some (value, rest) →
    ∃ consumed, text = consumed ++ rest ∧
      ∀ other, other.head? = rest.head? → reader (consumed ++ other) = some (value, other)

/-- Blanks in front of a text may be followed by any text that begins like it. -/
theorem trimStart_split (text : List Char) :
    ∃ blanks, text = blanks ++ trimStart text ∧
      ∀ other, other.head? = (trimStart text).head? → trimStart (blanks ++ other) = other :=
  ⟨text.takeWhile isBlank, List.takeWhile_append_dropWhile.symm,
    fun _ sameHead => dropWhile_append_of_head?_eq isBlank sameHead⟩

theorem splitSign_split {text sign unsigned : List Char}
    (signed : splitSign text = (sign, unsigned)) :
    text = sign ++ unsigned ∧
      ∀ other, other.head? = unsigned.head? → splitSign (sign ++ other) = (sign, other) := by
  unfold splitSign at signed
  split at signed
  · obtain ⟨rfl, rfl⟩ := Prod.mk.inj signed
    exact ⟨rfl, fun _ _ => rfl⟩
  · obtain ⟨rfl, rfl⟩ := Prod.mk.inj signed
    exact ⟨rfl, fun _ _ => rfl⟩
  · rename_i notPlus notMinus
    obtain ⟨rfl, rfl⟩ := Prod.mk.inj signed
    refine ⟨rfl, ?_⟩
    intro other sameHead
    rw [List.nil_append]
    unfold splitSign
    split
    · obtain ⟨more, plus⟩ := List.head?_eq_some_iff.mp sameHead.symm
      exact absurd plus (notPlus more)
    · obtain ⟨more, minus⟩ := List.head?_eq_some_iff.mp sameHead.symm
      exact absurd minus (notMinus more)
    · rfl

private theorem take_two_append {front rest other : List Char} (nonempty : front ≠ [])
    (sameHead : other.head? = rest.head?) :
    (front ++ other).take 2 = (front ++ rest).take 2 := by
  obtain ⟨first, more, rfl⟩ := List.exists_cons_of_ne_nil nonempty
  have sameMore := head?_append_of_eq more sameHead
  rw [List.cons_append, List.cons_append, List.take_succ_cons, List.take_succ_cons,
    List.take_one, List.take_one, sameMore]

/-- A bound that is not hexadecimal is read as a sign and digits. -/
theorem rangeNumber?_of_not_hex {text : List Char} (notHex : text.take 2 ≠ ['0', 'x']) :
    rangeNumber? text =
      let (sign, unsigned) := splitSign text
      let digits := unsigned.takeWhile Char.isDigit
      if digits = [] then none
      else some (withinSigned 128 (signedValue sign digits), unsigned.drop digits.length) := by
  unfold rangeNumber?
  split
  · simp at notHex
  · rfl

theorem rangeNumber?_looksOneAhead : LooksOneAhead rangeNumber? := by
  intro text value rest found
  by_cases hex : text.take 2 = ['0', 'x']
  · obtain ⟨more, rfl⟩ : ∃ more, text = '0' :: 'x' :: more :=
      ⟨text.drop 2, by rw [← List.take_append_drop 2 text, hex]; rfl⟩
    simp only [rangeNumber?, drop_length_takeWhile] at found
    split at found
    · contradiction
    · rename_i someDigits
      obtain ⟨rfl, rfl⟩ := Prod.mk.inj (Option.some.inj found)
      refine ⟨'0' :: 'x' :: more.takeWhile isHexDigit, by simp, ?_⟩
      intro other sameHead
      simp [rangeNumber?, takeWhile_append_of_head?_eq isHexDigit sameHead, someDigits]
  · obtain ⟨sign, unsigned, signed⟩ : ∃ sign unsigned, splitSign text = (sign, unsigned) :=
      ⟨_, _, rfl⟩
    obtain ⟨split, resplit⟩ := splitSign_split signed
    rw [rangeNumber?_of_not_hex hex] at found
    simp only [signed, drop_length_takeWhile] at found
    split at found
    · contradiction
    · rename_i someDigits
      obtain ⟨rfl, rfl⟩ := Prod.mk.inj (Option.some.inj found)
      refine ⟨sign ++ unsigned.takeWhile Char.isDigit, by simp [split], ?_⟩
      intro other sameHead
      have nonempty : sign ++ unsigned.takeWhile Char.isDigit ≠ [] := by
        simp only [ne_eq, List.append_eq_nil_iff, not_and]
        exact fun _ => someDigits
      have stillNotHex :
          (sign ++ unsigned.takeWhile Char.isDigit ++ other).take 2 ≠ ['0', 'x'] := by
        rw [take_two_append nonempty sameHead]
        simpa [← split] using hex
      have sameUnsigned : (unsigned.takeWhile Char.isDigit ++ other).head? = unsigned.head? := by
        rw [head?_append_of_eq _ sameHead, List.takeWhile_append_dropWhile]
      rw [rangeNumber?_of_not_hex stillNotHex, List.append_assoc, resplit _ sameUnsigned]
      simp only [takeWhile_append_of_head?_eq Char.isDigit sameHead, someDigits, if_false,
        List.drop_left]

theorem rangeLink?_looksOneAhead : LooksOneAhead rangeLink? := by
  intro text absolute rest found
  obtain ⟨blanks, split, resplit⟩ := trimStart_split text
  unfold rangeLink? at found
  split at found
  · rename_i behind comma
    obtain ⟨moreBlanks, splitBehind, resplitBehind⟩ := trimStart_split behind
    obtain ⟨rfl, rfl⟩ := Prod.mk.inj (Option.some.inj found)
    have consumed : text = blanks ++ ',' :: moreBlanks ++ trimStart behind := by
      calc text = blanks ++ trimStart text := split
        _ = blanks ++ ',' :: behind := by rw [comma]
        _ = blanks ++ ',' :: (moreBlanks ++ trimStart behind) := congrArg _ (congrArg _ splitBehind)
        _ = blanks ++ ',' :: moreBlanks ++ trimStart behind := by simp
    refine ⟨blanks ++ ',' :: moreBlanks, consumed, ?_⟩
    intro other sameHead
    have trimmed := resplit (',' :: (moreBlanks ++ other)) (by rw [comma]; rfl)
    simp [rangeLink?, trimmed, resplitBehind other sameHead]
  · rename_i notComma
    split at found
    · contradiction
    · rename_i shorter
      obtain ⟨rfl, rfl⟩ := Prod.mk.inj (Option.some.inj found)
      refine ⟨blanks, split, ?_⟩
      intro other sameHead
      have someBlanks : other.length ≠ (blanks ++ other).length := by
        rintro sameLength
        have noBlanks : blanks = [] := by simpa using sameLength
        exact shorter (by rw [noBlanks] at split; exact congrArg List.length split.symm)
      unfold rangeLink?
      rw [resplit other sameHead]
      split
      · obtain ⟨more, comma⟩ := List.head?_eq_some_iff.mp sameHead.symm
        exact absurd comma (notComma more)
      · rw [if_neg someBlanks]

/-! ### Texts that end at a mark -/

theorem untilTerminator?_split {text body : List Char}
    (found : untilTerminator? text = some body) :
    (∃ after, text = body ++ '\x22' :: '\x22' :: '\x22' :: after) ∧
      ∀ other, untilTerminator? (body ++ '\x22' :: '\x22' :: '\x22' :: other) = some body := by
  induction text using untilTerminator?.induct generalizing body with
  | case1 => simp [untilTerminator?] at found
  | case2 after =>
      have empty : body = [] := by simpa [untilTerminator?] using found.symm
      exact ⟨⟨after, by simp [empty]⟩, by simp [empty, untilTerminator?]⟩
  | case3 character rest notClosed inductionHypothesis =>
      rw [untilTerminator?.eq_3 _ _ notClosed] at found
      obtain ⟨shorter, foundShorter, rfl⟩ := Option.map_eq_some_iff.mp found
      obtain ⟨⟨after, split⟩, resplit⟩ := inductionHypothesis foundShorter
      refine ⟨⟨after, by simp [split]⟩, ?_⟩
      intro other
      have sameTwo : (shorter ++ '\x22' :: '\x22' :: '\x22' :: other).take 2 = rest.take 2 := by
        rw [split]
        match shorter with
        | [] => rfl
        | [only] => rfl
        | first :: second :: more => rfl
      have stillNotClosed : ∀ tail, character = '\x22' →
          shorter ++ '\x22' :: '\x22' :: '\x22' :: other = '\x22' :: '\x22' :: tail → False := by
        intro tail mark closed
        rw [closed] at sameTwo
        exact notClosed (rest.drop 2) mark (by
          rw [← List.take_append_drop 2 rest, ← sameTwo]; rfl)
      rw [List.cons_append, untilTerminator?.eq_3 _ _ stillNotClosed, resplit]
      rfl

private theorem ordinary_character {character : Char} {rest : List Char}
    (notLast : character = '\\' → rest = [] → False)
    (notEscape : ∀ escaped more, character = '\\' → rest = escaped :: more → False) :
    character ≠ '\\' := by
  intro backslash
  cases rest with
  | nil => exact notLast backslash rfl
  | cons escaped more => exact notEscape escaped more backslash rfl

theorem untilMark?_cons {mark character : Char} (ordinary : character ≠ '\\')
    (rest : List Char) :
    untilMark? mark (character :: rest) =
      if character = mark then some ([], 1)
      else (untilMark? mark rest).map fun body => (character :: body.1, body.2 + 1) :=
  untilMark?.eq_4 _ _ _ (fun backslash _ => ordinary backslash)
    (fun _ _ backslash _ => ordinary backslash)

/-- A quoted text and its closing mark, in front of any text. -/
theorem untilMark?_split {mark : Char} {text : List Char} {body : List Char × Nat}
    (found : untilMark? mark text = some body) :
    0 < body.2 ∧ body.2 ≤ text.length ∧
      ∀ other, untilMark? mark (text.take body.2 ++ other) = some body := by
  induction text using untilMark?.induct mark generalizing body with
  | case1 => simp [untilMark?] at found
  | case2 => simp [untilMark?] at found
  | case3 escaped rest inductionHypothesis =>
      rw [untilMark?] at found
      obtain ⟨inner, foundInner, rfl⟩ := Option.map_eq_some_iff.mp found
      obtain ⟨positive, bounded, resplit⟩ := inductionHypothesis foundInner
      have consumed : (if escaped = mark || escaped = '\\' then (escaped :: inner.1, inner.2 + 2)
          else ('\\' :: escaped :: inner.1, inner.2 + 2)).2 = inner.2 + 2 := by split <;> rfl
      rw [consumed]
      refine ⟨by omega, by simpa using bounded, ?_⟩
      intro other
      simp only [List.take_succ_cons, List.cons_append, untilMark?, resplit, Option.map_some]
  | case4 rest notLast notEscape =>
      have ordinary := ordinary_character notLast notEscape
      rw [untilMark?_cons ordinary, if_pos rfl] at found
      obtain rfl := Option.some.inj found
      refine ⟨by simp, by simp, ?_⟩
      intro other
      exact (untilMark?_cons ordinary other).trans (if_pos rfl)
  | case5 character rest notLast notEscape notMark inductionHypothesis =>
      have ordinary := ordinary_character notLast notEscape
      rw [untilMark?_cons ordinary, if_neg notMark] at found
      obtain ⟨inner, foundInner, rfl⟩ := Option.map_eq_some_iff.mp found
      obtain ⟨positive, bounded, resplit⟩ := inductionHypothesis foundInner
      refine ⟨by simp, by simpa using bounded, ?_⟩
      intro other
      rw [List.take_succ_cons, List.cons_append, untilMark?_cons ordinary, if_neg notMark, resplit]
      rfl

@[simp]
theorem pathCharacters_nil : pathCharacters [] = [] :=
  rfl

@[simp]
theorem pathCharacters_escape (rest : List Char) :
    pathCharacters ('\\' :: ' ' :: rest) = '\\' :: ' ' :: pathCharacters rest :=
  rfl

theorem pathCharacters_cons {character : Char} {rest : List Char}
    (notEscape : ∀ more, character = '\\' → rest = ' ' :: more → False) :
    pathCharacters (character :: rest) =
      if isBlank character || character = ';' then [] else character :: pathCharacters rest := by
  conv => lhs; unfold pathCharacters
  split
  · contradiction
  · simp_all
  · simp_all

/-- The characters of a path are the beginning of the text they are taken from. -/
theorem pathCharacters_begins (text : List Char) : pathCharacters text <+: text := by
  induction text using pathCharacters.induct with
  | case1 => exact List.nil_prefix
  | case2 rest inductionHypothesis =>
      rw [pathCharacters_escape, List.prefix_cons_inj, List.prefix_cons_inj]
      exact inductionHypothesis
  | case3 character rest notEscape ends =>
      rw [pathCharacters_cons notEscape, if_pos ends]
      exact List.nil_prefix
  | case4 character rest notEscape continues inductionHypothesis =>
      rw [pathCharacters_cons notEscape, if_neg continues, List.prefix_cons_inj]
      exact inductionHypothesis

/-! ### The extent of a token -/

/-- A rule whose tokens have at least one character and no more than the text. -/
def Bounded (rule : LexicalRule) : Prop :=
  ∀ text kind length, rule text = some (.token kind length) → 0 < length ∧ length ≤ text.length

theorem mark_eq_some_iff {written text : List Char} {kind : TokenKind} {reading : Reading} :
    mark written kind text = some reading ↔
      written <+: text ∧ reading = .token kind written.length := by
  rw [← List.isPrefixOf_iff_prefix, mark]
  split
  · rename_i begins
    simp only [begins, true_and, Option.some.injEq]
    exact eq_comm
  · rename_i differs
    simp [differs]

theorem mark_bounded {written : List Char} {kind : TokenKind} (nonempty : written ≠ []) :
    Bounded (mark written kind) := by
  intro text found length applies
  obtain ⟨begins, same⟩ := mark_eq_some_iff.mp applies
  obtain ⟨rfl, rfl⟩ := Reading.token.inj same
  exact ⟨List.length_pos_iff.mpr nonempty, begins.length_le⟩

theorem Bounded.orElse {first second : LexicalRule} (firstBounded : Bounded first)
    (secondBounded : Bounded second) : Bounded fun text => first text <|> second text := by
  intro text kind length applies
  cases firstReading : first text with
  | none => exact secondBounded text kind length (by simpa [firstReading] using applies)
  | some reading =>
      have same : reading = .token kind length := by simpa [firstReading] using applies
      exact firstBounded text kind length (by rw [firstReading, same])

theorem bracket_bounded : Bounded bracket :=
  (mark_bounded (by decide)).orElse (mark_bounded (by decide))

/-- A comment takes everything. -/
theorem comment_length {text : List Char} {kind : TokenKind} {length : Nat}
    (applies : comment text = some (.token kind length)) :
    text ≠ [] ∧ length = text.length := by
  unfold comment at applies
  split at applies
  · obtain ⟨-, rfl⟩ := Reading.token.inj (Option.some.inj applies)
    simp
  · obtain ⟨-, rfl⟩ := Reading.token.inj (Option.some.inj applies)
    simp
  · contradiction

theorem comment_bounded : Bounded comment := by
  intro text kind length applies
  obtain ⟨nonempty, rfl⟩ := comment_length applies
  exact ⟨List.length_pos_iff.mpr nonempty, Nat.le_refl _⟩

theorem substitution_eq_some_iff {text : List Char} {reading : Reading} :
    substitution text = some reading ↔
      ∃ command after, text = '\x60' :: command ++ '\x60' :: after ∧
        (∀ character ∈ command, character ≠ '\x60' ∧ character ≠ '\n') ∧
        reading = .token (.substitution (String.ofList command)) (command.length + 2) := by
  constructor
  · intro applies
    unfold substitution at applies
    split at applies
    · rename_i rest
      simp only [drop_length_takeWhile] at applies
      split at applies
      · rename_i after closed
        refine ⟨_, after, ?_, ?_, (Option.some.inj applies).symm⟩
        · rw [List.cons_append, ← closed, List.takeWhile_append_dropWhile]
        · intro character member
          have accepted := List.all_eq_true.mp List.all_takeWhile character member
          simpa using accepted
      · contradiction
    · contradiction
  · rintro ⟨command, after, rfl, plain, rfl⟩
    have accepted : ∀ character ∈ command,
        (character != '\x60' && character != '\n') = true := by
      intro character member
      simpa using plain character member
    simp [substitution, List.takeWhile_append_of_pos accepted]

theorem substitution_bounded : Bounded substitution := by
  intro text kind length applies
  obtain ⟨command, after, rfl, -, same⟩ := substitution_eq_some_iff.mp applies
  obtain ⟨-, rfl⟩ := Reading.token.inj same
  simp

theorem variableName_bounded : Bounded variableName := by
  intro text kind length applies
  unfold variableName at applies
  split at applies
  · rename_i rest
    have bounded := length_takeWhile_le isNameCharacter rest
    dsimp only at applies
    split at applies
    · contradiction
    · obtain ⟨-, rfl⟩ := Reading.token.inj (Option.some.inj applies)
      exact ⟨by simp, by simpa using bounded⟩
  · contradiction

theorem block_eq_some_iff {text : List Char} {reading : Reading} :
    block text = some reading ↔
      ∃ rest body, text = '\x22' :: '\x22' :: '\x22' :: rest ∧ untilTerminator? rest = some body ∧
        reading = .token (.string (String.ofList (dropTrailingBreak (dropLeadingBreak body))))
          (body.length + 6) := by
  unfold block
  split
  · rename_i rest
    rw [Option.map_eq_some_iff]
    constructor
    · rintro ⟨body, found, same⟩
      exact ⟨rest, body, rfl, found, same.symm⟩
    · rintro ⟨_, body, opened, found, same⟩
      obtain rfl : rest = _ := by simpa using opened
      exact ⟨body, found, same.symm⟩
  · rename_i notOpened
    constructor
    · intro applies
      contradiction
    · rintro ⟨rest, -, rfl, -⟩
      exact absurd rfl (notOpened rest)

theorem block_bounded : Bounded block := by
  intro text kind length applies
  obtain ⟨rest, body, rfl, found, same⟩ := block_eq_some_iff.mp applies
  obtain ⟨⟨after, rfl⟩, -⟩ := untilTerminator?_split found
  obtain ⟨-, rfl⟩ := Reading.token.inj same
  simp

theorem quoted_bounded : Bounded quoted := by
  intro text kind length applies
  unfold quoted at applies
  split at applies
  · split at applies
    · obtain ⟨body, found, same⟩ := Option.map_eq_some_iff.mp applies
      obtain ⟨-, rfl⟩ := Reading.token.inj same
      obtain ⟨-, bounded, -⟩ := untilMark?_split found
      exact ⟨by simp, by simpa using bounded⟩
    · contradiction
  · contradiction

/-- A range that is made has its addresses in order, and the last of them is a word of 64 bits. -/
theorem rangeBetween_eq_token_iff {raw : String} {first last : Int} {length taken : Nat}
    {kind : TokenKind} :
    rangeBetween raw first last length = .token kind taken ↔
      (0 ≤ first ∧ first ≤ last ∧ last < 2 ^ 64) ∧
        kind = .range (UInt64.ofNat first.toNat) (UInt64.ofNat last.toNat) ∧ taken = length := by
  have outside : (decide (first < 0) || decide (last < first) || decide (twoTo 64 ≤ last)) = true ↔
      ¬ (0 ≤ first ∧ first ≤ last ∧ last < 2 ^ 64) := by
    rw [show ((twoTo 64 : Nat) : Int) = 2 ^ 64 from rfl]
    simp only [Bool.or_eq_true, decide_eq_true_eq]
    omega
  constructor
  · intro ranges
    unfold rangeBetween at ranges
    split at ranges
    · contradiction
    · next within =>
        obtain ⟨rfl, rfl⟩ := Reading.token.inj ranges
        exact ⟨Decidable.not_not.mp (mt outside.mpr within), rfl, rfl⟩
  · rintro ⟨within, rfl, rfl⟩
    exact if_neg fun refused => outside.mp refused within

/-- Whatever its numbers are, a range is one from a first to a last address. -/
theorem rangeOf_eq_token {absolute : Bool} {raw : String} {first second : Except Overflow Int}
    {length taken : Nat} {kind : TokenKind}
    (ranges : rangeOf absolute raw first second length = .token kind taken) :
    ∃ start stop, rangeBetween raw start stop length = .token kind taken := by
  unfold rangeOf at ranges
  split at ranges
  · contradiction
  · contradiction
  · split at ranges
    · exact ⟨_, _, ranges⟩
    · split at ranges
      · contradiction
      · split at ranges
        · contradiction
        · exact ⟨_, _, ranges⟩

theorem rangeOf_length {absolute : Bool} {raw : String} {first second : Except Overflow Int}
    {length taken : Nat} {kind : TokenKind}
    (ranges : rangeOf absolute raw first second length = .token kind taken) : taken = length := by
  obtain ⟨start, stop, between⟩ := rangeOf_eq_token ranges
  exact (rangeBetween_eq_token_iff.mp between).2.2

theorem take_enclosed (opening closing : Char) (body after : List Char) :
    (opening :: (body ++ closing :: after)).take (body.length + 2) =
      opening :: (body ++ [closing]) := by
  rw [List.append_cons, ← List.cons_append]
  exact List.take_left' (by simp)

/-- A range begins with an angle bracket and ends with the first one behind its numbers; its
reading does not depend on what follows. -/
theorem range_split {text : List Char} {reading : Reading} (applies : range text = some reading) :
    ∃ body after, text = '<' :: (body ++ '>' :: after) ∧
      (∀ kind taken, reading = .token kind taken → taken = body.length + 2) ∧
      ∀ other, range ('<' :: (body ++ '>' :: other)) = some reading := by
  unfold range at applies
  split at applies
  · rename_i rest
    simp only [Option.bind_eq_bind, Option.bind_eq_some_iff] at applies
    obtain ⟨⟨first, afterFirst⟩, foundFirst, ⟨absolute, beforeSecond⟩, foundLink,
      ⟨second, afterSecond⟩, foundSecond, closes⟩ := applies
    split at closes
    · rename_i after closed
      obtain ⟨blanks, splitBlanks, resplitBlanks⟩ := trimStart_split rest
      obtain ⟨firstText, splitFirst, resplitFirst⟩ :=
        rangeNumber?_looksOneAhead _ _ _ foundFirst
      obtain ⟨link, splitLink, resplitLink⟩ := rangeLink?_looksOneAhead _ _ _ foundLink
      obtain ⟨secondText, splitSecond, resplitSecond⟩ :=
        rangeNumber?_looksOneAhead _ _ _ foundSecond
      obtain ⟨lastBlanks, splitLast, resplitLast⟩ := trimStart_split afterSecond
      rw [closed] at splitLast resplitLast
      rw [splitFirst] at splitBlanks resplitBlanks
      subst splitLast splitSecond splitLink splitBlanks
      have extent : ∀ other, (blanks ++ (firstText ++ (link ++ (secondText ++
          (lastBlanks ++ '>' :: other))))).length + 1 - other.length =
            (blanks ++ firstText ++ link ++ secondText ++ lastBlanks).length + 2 := by
        intro other
        simp only [List.length_append, List.length_cons]
        omega
      refine ⟨blanks ++ firstText ++ link ++ secondText ++ lastBlanks, after, by simp, ?_, ?_⟩
      · rintro kind taken rfl
        rw [extent] at closes
        exact rangeOf_length (Option.some.inj closes)
      · intro other
        have sameLast : ('>' :: other).head? = ('>' :: after).head? := rfl
        have sameSecond := head?_append_of_eq lastBlanks sameLast
        have sameLink := head?_append_of_eq secondText sameSecond
        have sameFirst := head?_append_of_eq link sameLink
        have sameBlanks := head?_append_of_eq firstText sameFirst
        have sameRaw : ∀ behind, ('<' :: (blanks ++ (firstText ++ (link ++ (secondText ++
            (lastBlanks ++ '>' :: behind)))))).take
              ((blanks ++ firstText ++ link ++ secondText ++ lastBlanks).length + 2) =
            '<' :: (blanks ++ firstText ++ link ++ secondText ++ lastBlanks ++ ['>']) := by
          intro behind
          rw [← take_enclosed '<' '>' _ behind]
          simp only [List.append_assoc]
        rw [extent, sameRaw] at closes
        simp only [List.append_assoc, range, resplitBlanks _ sameBlanks, resplitFirst _ sameFirst,
          resplitLink _ sameLink, resplitSecond _ sameSecond, resplitLast _ sameLast,
          Option.bind_eq_bind, Option.bind_some]
        rw [extent, sameRaw, closes]
    · contradiction
  · contradiction

theorem path_bounded : Bounded path := by
  intro text kind length applies
  unfold path at applies
  split at applies
  · rename_i rest
    have bounded := (pathCharacters_begins rest).length_le
    dsimp only at applies
    split at applies
    · contradiction
    · obtain ⟨-, rfl⟩ := Reading.token.inj (Option.some.inj applies)
      exact ⟨by simp, by simpa using bounded⟩
  · contradiction

theorem hexadecimal_bounded : Bounded hexadecimal := by
  intro text kind length applies
  unfold hexadecimal at applies
  split at applies
  · rename_i rest
    have bounded := length_takeWhile_le isHexDigit rest
    dsimp only at applies
    split at applies
    · contradiction
    · split at applies
      · cases applies
      · obtain ⟨-, rfl⟩ := Reading.token.inj (Option.some.inj applies)
        exact ⟨by simp, by simpa using bounded⟩
  · contradiction

theorem decimal_bounded : Bounded decimal := by
  intro text kind length applies
  obtain ⟨sign, unsigned, signed⟩ : ∃ sign unsigned, splitSign text = (sign, unsigned) :=
    ⟨_, _, rfl⟩
  obtain ⟨split, -⟩ := splitSign_split signed
  simp only [decimal, signed, drop_length_takeWhile] at applies
  split at applies
  · rename_i rest point
    split at applies
    · contradiction
    · obtain ⟨-, rfl⟩ := Reading.token.inj (Option.some.inj applies)
      have bounded := length_takeWhile_le Char.isDigit rest
      have whole := congrArg List.length
        (List.takeWhile_append_dropWhile (p := Char.isDigit) (l := unsigned))
      rw [point] at whole
      simp only [split, List.length_append, List.length_cons] at whole ⊢
      omega
  · contradiction

theorem integer_bounded : Bounded integer := by
  intro text kind length applies
  obtain ⟨sign, unsigned, signed⟩ : ∃ sign unsigned, splitSign text = (sign, unsigned) :=
    ⟨_, _, rfl⟩
  obtain ⟨split, -⟩ := splitSign_split signed
  have bounded := length_takeWhile_le Char.isDigit unsigned
  simp only [integer, signed] at applies
  split at applies
  · contradiction
  · rename_i someDigits
    have positive := List.length_pos_iff.mpr someDigits
    split at applies
    · cases applies
    · obtain ⟨-, rfl⟩ := Reading.token.inj (Option.some.inj applies)
      simp only [split, List.length_append]
      omega

theorem boolean_bounded : Bounded boolean := by
  intro text kind length applies
  have bounded := ((mark_bounded (by decide)).orElse (mark_bounded (by decide)))
    (text.map Char.toLower) kind length applies
  simpa using bounded

theorem literal_bounded : Bounded literal := by
  intro text kind length applies
  have bounded := length_takeWhile_le isWordCharacter text
  unfold literal at applies
  dsimp only at applies
  split at applies
  · contradiction
  · rename_i someWord
    obtain ⟨-, rfl⟩ := Reading.token.inj (Option.some.inj applies)
    exact ⟨List.length_pos_iff.mpr someWord, bounded⟩

theorem range_bounded : Bounded range := by
  intro text kind length applies
  obtain ⟨body, after, rfl, extent, -⟩ := range_split applies
  rw [extent kind length rfl]
  simp

theorem all_bounded : ∀ rule ∈ all, Bounded rule := by
  simp only [all, List.forall_mem_cons, List.not_mem_nil, false_implies, implies_true, and_true]
  exact ⟨mark_bounded (by decide), comment_bounded, substitution_bounded, variableName_bounded,
    bracket_bounded, block_bounded, mark_bounded (by decide), quoted_bounded, range_bounded,
    path_bounded, hexadecimal_bounded, decimal_bounded, integer_bounded, boolean_bounded,
    mark_bounded (by decide), mark_bounded (by decide), mark_bounded (by decide), literal_bounded⟩

/-- The token that the first rule makes of a text is part of that text. -/
theorem first?_bounded : Bounded first? := by
  intro text kind length applies
  obtain ⟨rule, member, applies⟩ := List.exists_of_findSome?_eq_some applies
  exact all_bounded rule member text kind length applies

end MachineConsole.LexicalRule
