import MachineConsole.Console.Completion
import MachineConsole.Proofs.Lexing.Spelling

/-!
Contract: where completion takes the last command of a line to begin.

Owns:
- `openMark?`, the quotation mark that completion takes to be open behind a text, and `HasSeparator`:
  a text has a semicolon that completion takes to separate commands;
- `afterSeparator?_eq_some_iff`: what completion finds is behind the last of these;
- `Tokenization.IsLastCommand`, the text behind the last separator among the tokens of a text;
- `lastCommand_eq_iff`: completion and tokens agree exactly where completion takes no mark to be
  open in front of the last command and finds no separator in it.

Does not own: the tokens themselves. Completion does not know them: to it a backslash escapes
nothing, and marks inside paths, substitutions and comments open quotations.
-/

namespace MachineConsole

open Text (isBlank trimStart)
open LexicalRule (Spelled Unmarked freeOfMarks_isBlank isQuotation isQuotation_iff mayHaveMarks)

namespace Completion

/-! ### Marks and separators as completion takes them -/

/-- The mark that is open behind a character, by the one that is open in front of it. -/
def markBehind (mark? : Option Char) (character : Char) : Option Char :=
  match mark? with
  | some mark => if character = mark then none else some mark
  | none => if character = '\x22' || character = '\x27' then some character else none

/-- The mark that is open behind a text. -/
def openMark? (mark? : Option Char) (text : List Char) : Option Char :=
  text.foldl markBehind mark?

/-- A semicolon at which no mark is open. -/
def HasSeparator (mark? : Option Char) (text : List Char) : Prop :=
  ∃ before after, text = before ++ ';' :: after ∧ openMark? mark? before = none

@[simp]
theorem openMark?_nil (mark? : Option Char) : openMark? mark? [] = mark? :=
  rfl

@[simp]
theorem openMark?_cons (mark? : Option Char) (character : Char) (rest : List Char) :
    openMark? mark? (character :: rest) = openMark? (markBehind mark? character) rest :=
  rfl

@[simp]
theorem openMark?_append (mark? : Option Char) (front back : List Char) :
    openMark? mark? (front ++ back) = openMark? (openMark? mark? front) back :=
  List.foldl_append

@[simp]
theorem markBehind_semicolon : markBehind none ';' = none := by
  decide

/-- Only quotation marks are ever open. -/
theorem isQuotation_of_openMark? {mark? : Option Char}
    (quotation : ∀ mark ∈ mark?, isQuotation mark = true) (text : List Char) :
    ∀ mark ∈ openMark? mark? text, isQuotation mark = true := by
  induction text generalizing mark? with
  | nil => exact quotation
  | cons character rest inductionHypothesis =>
      rw [openMark?_cons]
      apply inductionHypothesis
      intro mark member
      cases mark? with
      | none =>
          simp only [markBehind] at member
          split at member
          · next opens =>
              obtain rfl : character = mark := by simpa using member
              exact isQuotation_iff.mpr (by simpa using opens)
          · cases member
      | some other =>
          simp only [markBehind] at member
          split at member
          · cases member
          · exact quotation mark member

/-- A text without quotation marks leaves open what is open in front of it. -/
theorem openMark?_of_unquoted {mark? : Option Char}
    (quotation : ∀ mark ∈ mark?, isQuotation mark = true) {text : List Char}
    (unquoted : ∀ character ∈ text, isQuotation character = false) :
    openMark? mark? text = mark? := by
  induction text with
  | nil => rfl
  | cons character rest inductionHypothesis =>
      obtain ⟨plain, unquotedRest⟩ := List.forall_mem_cons.mp unquoted
      have unchanged : markBehind mark? character = mark? := by
        cases mark? with
        | none =>
            have other : ¬(character = '\x22' ∨ character = '\x27') := fun quotes =>
              Bool.false_ne_true (plain.symm.trans (isQuotation_iff.mpr quotes))
            simp [markBehind, other]
        | some mark =>
            have other : character ≠ mark := by
              rintro rfl
              exact Bool.false_ne_true (plain.symm.trans (quotation character rfl))
            simp [markBehind, other]
      rw [openMark?_cons, unchanged]
      exact inductionHypothesis unquotedRest

/-- While a mark is open in a text without that mark, nothing separates. -/
theorem not_hasSeparator_of_quoted {mark : Char} {text : List Char}
    (quotation : isQuotation mark = true)
    (unquoted : ∀ character ∈ text, isQuotation character = false) :
    ¬HasSeparator (some mark) text := by
  rintro ⟨before, after, rfl, closed⟩
  have stillOpen : openMark? (some mark) before = some mark :=
    openMark?_of_unquoted (by simpa using quotation) fun character member =>
      unquoted character (List.mem_append_left _ member)
  rw [stillOpen] at closed
  cases closed

theorem not_hasSeparator_of_unmarked {mark? : Option Char} {text : List Char}
    (unmarked : Unmarked text) : ¬HasSeparator mark? text := by
  rintro ⟨before, after, rfl, -⟩
  have plain := unmarked ';' (by simp)
  exact absurd plain (by decide)

/-- A text that completion takes to close all its quotations and to be one command. -/
structure IsPlain (text : List Char) : Prop where
  closed : openMark? none text = none
  single : ¬HasSeparator none text

theorem isPlain_of_unmarked {text : List Char} (unmarked : Unmarked text) : IsPlain text where
  closed := openMark?_of_unquoted (by simp) unmarked.unquoted
  single := not_hasSeparator_of_unmarked unmarked

theorem isPlain_of_blank {text : List Char}
    (blank : ∀ character ∈ text, isBlank character = true) : IsPlain text :=
  isPlain_of_unmarked (freeOfMarks_isBlank.unmarked blank)

/-! ### The text behind the last separator -/

theorem afterSeparator?_cons (mark? : Option Char) (character : Char) (rest : List Char) :
    afterSeparator? mark? (character :: rest) =
      if mark? = none ∧ character = ';' then some ((afterSeparator? none rest).getD rest)
      else afterSeparator? (markBehind mark? character) rest := by
  cases mark? with
  | none =>
      by_cases semicolon : character = ';'
      · subst semicolon
        rfl
      · simp only [afterSeparator?, markBehind, semicolon, and_false, if_false]
        split <;> rfl
  | some mark => simp [afterSeparator?, markBehind]

theorem hasSeparator_cons {mark? : Option Char} {character : Char} {rest : List Char} :
    HasSeparator mark? (character :: rest) ↔
      (mark? = none ∧ character = ';') ∨ HasSeparator (markBehind mark? character) rest := by
  constructor
  · rintro ⟨before, after, split, closed⟩
    cases before with
    | nil =>
        obtain ⟨rfl, -⟩ := List.cons.inj split
        exact .inl ⟨closed, rfl⟩
    | cons first before =>
        obtain ⟨rfl, rfl⟩ := List.cons.inj split
        exact .inr ⟨before, after, rfl, closed⟩
  · rintro (⟨rfl, rfl⟩ | ⟨before, after, rfl, closed⟩)
    · exact ⟨[], rest, rfl, rfl⟩
    · exact ⟨character :: before, after, rfl, closed⟩

theorem afterSeparator?_eq_none_iff {mark? : Option Char} {text : List Char} :
    afterSeparator? mark? text = none ↔ ¬HasSeparator mark? text := by
  induction text generalizing mark? with
  | nil =>
      refine iff_of_true (by cases mark? <;> rfl) ?_
      rintro ⟨before, after, split, -⟩
      cases before <;> cases split
  | cons character rest inductionHypothesis =>
      rw [afterSeparator?_cons, hasSeparator_cons]
      split
      · next separates => simp [separates]
      · next continues => simp [continues, inductionHypothesis]

theorem afterSeparator?_append (mark? : Option Char) (front back : List Char) :
    afterSeparator? mark? (front ++ back) =
      (afterSeparator? (openMark? mark? front) back <|>
        (afterSeparator? mark? front).map (· ++ back)) := by
  induction front generalizing mark? with
  | nil => cases mark? <;> simp [afterSeparator?]
  | cons character front inductionHypothesis =>
      rw [List.cons_append, afterSeparator?_cons, afterSeparator?_cons, openMark?_cons]
      split
      · next separates =>
          obtain ⟨rfl, rfl⟩ := separates
          rw [markBehind_semicolon, inductionHypothesis]
          cases afterSeparator? (openMark? none front) back with
          | some after => simp
          | none => cases afterSeparator? none front <;> simp
      · exact inductionHypothesis _

theorem IsPlain.append {front back : List Char} (frontPlain : IsPlain front)
    (backPlain : IsPlain back) : IsPlain (front ++ back) where
  closed := by rw [openMark?_append, frontPlain.closed, backPlain.closed]
  single := by
    rw [← afterSeparator?_eq_none_iff, afterSeparator?_append, frontPlain.closed,
      afterSeparator?_eq_none_iff.mpr backPlain.single,
      afterSeparator?_eq_none_iff.mpr frontPlain.single]
    rfl

theorem openMark?_of_absent {mark : Char} {text : List Char} (absent : mark ∉ text) :
    openMark? (some mark) text = some mark := by
  induction text with
  | nil => rfl
  | cons character rest inductionHypothesis =>
      have differs : character ≠ mark := (List.ne_of_not_mem_cons absent).symm
      rw [openMark?_cons, markBehind, if_neg differs]
      exact inductionHypothesis (List.not_mem_of_not_mem_cons absent)

/-- A quotation is plain when its mark stands at its ends only. -/
theorem isPlain_quotation {mark : Char} {body : List Char} (quotation : isQuotation mark = true)
    (absent : mark ∉ body) : IsPlain (mark :: (body ++ [mark])) := by
  have opens : markBehind none mark = some mark := by
    obtain rfl | rfl := isQuotation_iff.mp quotation <;> rfl
  have closes : markBehind (some mark) mark = none := if_pos rfl
  have notSemicolon : mark ≠ ';' := by
    rintro rfl
    cases quotation
  have bodySingle : ¬HasSeparator (some mark) body := by
    rintro ⟨before, after, rfl, closed⟩
    rw [openMark?_of_absent fun member => absent (List.mem_append_left _ member)] at closed
    cases closed
  constructor
  · rw [openMark?_cons, opens, openMark?_append, openMark?_of_absent absent, openMark?_cons, closes]
    rfl
  · rw [← afterSeparator?_eq_none_iff, afterSeparator?_cons, if_neg (by simp [notSemicolon]), opens,
      afterSeparator?_append, openMark?_of_absent absent, afterSeparator?_cons, if_neg (by simp),
      closes, afterSeparator?_eq_none_iff.mpr bodySingle]
    rfl

/-- What is found stands behind the last semicolon that separates. -/
theorem afterSeparator?_eq_some_iff {mark? : Option Char} {text after : List Char} :
    afterSeparator? mark? text = some after ↔
      ∃ before, text = before ++ ';' :: after ∧ openMark? mark? before = none ∧
        ¬HasSeparator none after := by
  constructor
  · intro found
    induction text generalizing mark? after with
    | nil => cases mark? <;> cases found
    | cons character rest inductionHypothesis =>
        rw [afterSeparator?_cons] at found
        split at found
        · next separates =>
            obtain ⟨rfl, rfl⟩ := separates
            cases behind : afterSeparator? none rest with
            | none =>
                obtain rfl : rest = after := by simpa [behind] using found
                exact ⟨[], rfl, rfl, afterSeparator?_eq_none_iff.mp behind⟩
            | some last =>
                obtain rfl : last = after := by simpa [behind] using found
                obtain ⟨before, rfl, closed, single⟩ := inductionHypothesis behind
                exact ⟨';' :: before, rfl, closed, single⟩
        · obtain ⟨before, rfl, closed, single⟩ := inductionHypothesis found
          exact ⟨character :: before, rfl, closed, single⟩
  · rintro ⟨before, rfl, closed, single⟩
    rw [afterSeparator?_append, closed, afterSeparator?_cons, if_pos ⟨rfl, rfl⟩,
      afterSeparator?_eq_none_iff.mpr single]
    rfl

theorem length_lt_of_afterSeparator? {mark? : Option Char} {text after : List Char}
    (found : afterSeparator? mark? text = some after) : after.length < text.length := by
  obtain ⟨before, rfl, -⟩ := afterSeparator?_eq_some_iff.mp found
  rw [List.length_append, List.length_cons]
  omega

theorem length_trimStart_le (text : List Char) : (trimStart text).length ≤ text.length :=
  (List.dropWhile_suffix isBlank).length_le

/-- A text with a semicolon in it keeps that and what follows it when blanks in front go. -/
theorem length_lt_trimStart (before behind : List Char) :
    behind.length < (trimStart (before ++ ';' :: behind)).length := by
  have kept : ';' :: behind <:+ trimStart (before ++ ';' :: behind) := by
    induction before with
    | nil => exact List.suffix_rfl
    | cons first before inductionHypothesis =>
        rw [List.cons_append]
        unfold trimStart
        rw [List.dropWhile_cons]
        split
        · exact inductionHypothesis
        · exact (List.suffix_append before _).trans (List.suffix_cons first _)
  have bounded := kept.length_le
  rw [List.length_cons] at bounded
  omega

/-- Where nothing separates in the back, it belongs to what is behind the last separator in front. -/
theorem getD_afterSeparator?_append {mark? : Option Char} {front back : List Char}
    (nothing : afterSeparator? (openMark? mark? front) back = none) :
    (afterSeparator? mark? (front ++ back)).getD (front ++ back) =
      (afterSeparator? mark? front).getD front ++ back := by
  rw [afterSeparator?_append, nothing]
  cases afterSeparator? mark? front <;> rfl

/-- What may stand in front of a command: blanks, behind a semicolon or at the beginning. -/
inductive LeadsUp : List Char → Prop where
  | blanks {gap : List Char} (blank : ∀ character ∈ gap, isBlank character = true) : LeadsUp gap
  | separated (before : List Char) {gap : List Char}
      (blank : ∀ character ∈ gap, isBlank character = true) : LeadsUp (before ++ ';' :: gap)

/-- All that leads up to a text is dropped exactly when no mark is open behind it. -/
theorem trimStart_behind_iff {front rest : List Char} (lead : LeadsUp front)
    (restTrimmed : trimStart rest = rest) :
    trimStart ((afterSeparator? none front).getD front ++ rest) = rest ↔
      openMark? none front = none := by
  cases lead with
  | blanks blank =>
      have unmarked := freeOfMarks_isBlank.unmarked blank
      have closed : openMark? none front = none :=
        openMark?_of_unquoted (by simp) unmarked.unquoted
      rw [afterSeparator?_eq_none_iff.mpr (not_hasSeparator_of_unmarked unmarked)]
      refine iff_of_true ?_ closed
      exact (Tokenization.trimStart_append_of_blank blank rest).trans restTrimmed
  | @separated before gap blank =>
      have unmarked := freeOfMarks_isBlank.unmarked blank
      have unquoted : ∀ character ∈ ';' :: gap, isQuotation character = false :=
        List.forall_mem_cons.mpr ⟨by decide, unmarked.unquoted⟩
      have quotation : ∀ mark ∈ openMark? none before, isQuotation mark = true :=
        isQuotation_of_openMark? (by simp) before
      rw [openMark?_append, openMark?_of_unquoted quotation unquoted]
      cases opened : openMark? none before with
      | none =>
          have separated : afterSeparator? none (before ++ ';' :: gap) = some gap :=
            afterSeparator?_eq_some_iff.mpr
              ⟨before, rfl, opened, not_hasSeparator_of_unmarked unmarked⟩
          refine iff_of_true ?_ rfl
          rw [separated]
          exact (Tokenization.trimStart_append_of_blank blank rest).trans restTrimmed
      | some mark =>
          -- The semicolon stays in the text, which is therefore longer than what follows it.
          have nothing : afterSeparator? (openMark? none before) (';' :: gap) = none := by
            rw [opened]
            exact afterSeparator?_eq_none_iff.mpr
              (not_hasSeparator_of_quoted (quotation mark opened) unquoted)
          refine iff_of_false ?_ (by simp)
          intro same
          have longer := length_lt_trimStart ((afterSeparator? none before).getD before)
            (gap ++ rest)
          rw [getD_afterSeparator?_append nothing, List.append_assoc, List.cons_append] at same
          rw [same, List.length_append] at longer
          omega

/-- A text behind what may stand in front of a command is the last command exactly when no mark is
open in front of it and nothing in it separates. -/
theorem lastCommand_append_iff {front rest : List Char} (lead : LeadsUp front)
    (begins : ∀ first ∈ rest.head?, isBlank first = false) :
    lastCommand (front ++ rest) = rest ↔
      openMark? none front = none ∧ ¬HasSeparator none rest := by
  rw [← afterSeparator?_eq_none_iff, lastCommand]
  cases found : afterSeparator? (openMark? none front) rest with
  | some after =>
      have shorter := length_lt_of_afterSeparator? found
      have trimmed := length_trimStart_le after
      refine iff_of_false ?_ ?_
      · intro same
        have sameLength := congrArg List.length same
        rw [afterSeparator?_append, found, Option.orElse_eq_orElse, Option.orElse_some,
          Option.getD_some] at sameLength
        omega
      · rintro ⟨closed, single⟩
        rw [closed, single] at found
        cases found
  | none =>
      have restTrimmed : trimStart rest = rest := by
        cases rest with
        | nil => rfl
        | cons first more => exact Tokenization.trimStart_of_not_blank more (begins first rfl)
      rw [getD_afterSeparator?_append found, trimStart_behind_iff lead restTrimmed]
      constructor
      · intro closed
        rw [closed] at found
        exact ⟨closed, found⟩
      · exact And.left

end Completion

/-! ### The last command of a reading -/

namespace Tokenization

open Completion

/-- The text behind the last separator among the tokens of a text, or the whole text if there is
none, without leading blanks. -/
def IsLastCommand (text : List Char) (tokens : List Token) (rest : List Char) : Prop :=
  ∃ front back, tokens = front ++ back ∧ ReadsFront text front rest ∧
    (∀ last ∈ front.getLast?, last.kind = .separator) ∧
    ∀ token ∈ back, token.kind ≠ .separator

/-- Some tokens, the last of which separates, and others that do not. -/
theorem exists_last_separator (tokens : List Token) :
    ∃ front back, tokens = front ++ back ∧
      (∀ last ∈ front.getLast?, last.kind = .separator) ∧
      ∀ token ∈ back, token.kind ≠ .separator := by
  induction tokens with
  | nil => exact ⟨[], [], rfl, nofun, nofun⟩
  | cons token tokens inductionHypothesis =>
      obtain ⟨front, back, rfl, ends, single⟩ := inductionHypothesis
      cases front with
      | cons next front => exact ⟨token :: next :: front, back, rfl, by simpa using ends, single⟩
      | nil =>
          by_cases separates : token.kind = .separator
          · exact ⟨[token], back, rfl, by simpa using separates, single⟩
          · exact ⟨[], token :: back, rfl, nofun, List.forall_mem_cons.mpr ⟨separates, single⟩⟩

theorem ReadsFront.exists_isLastCommand {text rest : List Char} {tokens : List Token}
    (reads : ReadsFront text tokens rest) : ∃ last, IsLastCommand text tokens last := by
  obtain ⟨front, back, rfl, ends, single⟩ := exists_last_separator tokens
  obtain ⟨last, frontReads, -⟩ := reads.split
  exact ⟨last, front, back, rfl, frontReads, ends, single⟩

/-- Tokens that end with a separator end with a semicolon and blanks. -/
theorem Interspersed.ends_separated {tokens : List Token} {text : List Char}
    (interspersed : Interspersed tokens text)
    (spelled : ∀ token ∈ tokens, Spelled token.kind token.raw.toList) {last : Token}
    (ends : tokens.getLast? = some last) (separates : last.kind = .separator) :
    ∃ before gap, text = before ++ ';' :: gap ∧ ∀ character ∈ gap, isBlank character = true := by
  induction interspersed with
  | blanks => cases ends
  | @token gap token tokens text _ behind inductionHypothesis =>
      obtain ⟨tokenSpelled, restSpelled⟩ := List.forall_mem_cons.mp spelled
      cases tokens with
      | nil =>
          obtain rfl : token = last := by simpa using ends
          cases behind with
          | blanks blank => exact ⟨gap, text, by rw [tokenSpelled.1 separates]; rfl, blank⟩
      | cons next tokens =>
          have nextEnds : (next :: tokens).getLast? = some last := by simpa using ends
          obtain ⟨before, after, rfl, blank⟩ := inductionHypothesis restSpelled nextEnds
          exact ⟨gap ++ (token.raw.toList ++ before), after, by simp, blank⟩

/-- Tokens the last of which separates lead up to a command. -/
theorem Interspersed.leadsUp {tokens : List Token} {text : List Char}
    (interspersed : Interspersed tokens text)
    (spelled : ∀ token ∈ tokens, Spelled token.kind token.raw.toList)
    (ends : ∀ last ∈ tokens.getLast?, last.kind = .separator) : LeadsUp text := by
  cases last : tokens.getLast? with
  | none =>
      obtain rfl := List.getLast?_eq_none_iff.mp last
      cases interspersed with
      | blanks blank => exact .blanks blank
  | some separator =>
      obtain ⟨before, gap, rfl, blank⟩ :=
        interspersed.ends_separated spelled last (ends separator last)
      exact .separated before blank

/-- The text that tokens stand in closes its quotations when each of the tokens does. -/
theorem Interspersed.closed {tokens : List Token} {text : List Char}
    (interspersed : Interspersed tokens text)
    (closed : ∀ token ∈ tokens, openMark? none token.raw.toList = none) :
    openMark? none text = none := by
  induction interspersed with
  | blanks blank => exact (isPlain_of_blank blank).closed
  | token blank _ inductionHypothesis =>
      obtain ⟨tokenClosed, restClosed⟩ := List.forall_mem_cons.mp closed
      rw [openMark?_append, openMark?_append, (isPlain_of_blank blank).closed, tokenClosed]
      exact inductionHypothesis restClosed

theorem Interspersed.isPlain {tokens : List Token} {text : List Char}
    (interspersed : Interspersed tokens text)
    (plain : ∀ token ∈ tokens, IsPlain token.raw.toList) : IsPlain text := by
  induction interspersed with
  | blanks blank => exact isPlain_of_blank blank
  | token blank _ inductionHypothesis =>
      obtain ⟨tokenPlain, restPlain⟩ := List.forall_mem_cons.mp plain
      exact (isPlain_of_blank blank).append (tokenPlain.append (inductionHypothesis restPlain))

/-- Completion finds the last command of the tokens exactly where it takes every quotation in front
of it to be closed and finds no separator in it. It does when all tokens of the text that may have
marks in them are plain, however many separators there are. -/
theorem lastCommand_eq_iff (text : String) :
    (∃ rest, IsLastCommand text.toList (ofText text).tokens rest) ∧
      ∀ before rest, text.toList = before ++ rest →
        IsLastCommand text.toList (ofText text).tokens rest →
        (lastCommand text.toList = rest ↔
          openMark? none before = none ∧ ¬HasSeparator none rest) ∧
        ((ofText text).succeeded = true →
          (∀ token ∈ (ofText text).tokens, mayHaveMarks token.kind = true →
            IsPlain token.raw.toList) →
          lastCommand text.toList = rest) := by
  have reads := ofText_readsFront text
  refine ⟨reads.exists_isLastCommand, ?_⟩
  rintro before rest split ⟨front, back, tokens, frontReads, ends, single⟩
  have spelled := reads.spelled
  rw [tokens] at reads spelled
  obtain ⟨frontSpelled, backSpelled⟩ := List.forall_mem_append.mp spelled
  obtain ⟨consumed, splitAgain, interspersed, -⟩ := frontReads.consumed
  obtain rfl : before = consumed := List.append_cancel_right (split.symm.trans splitAgain)
  have agrees := lastCommand_append_iff (interspersed.leadsUp frontSpelled ends)
    frontReads.rest_begins
  rw [← split] at agrees
  refine ⟨agrees, ?_⟩
  intro success plain
  rw [tokens] at plain
  obtain ⟨frontPlain, backPlain⟩ := List.forall_mem_append.mp plain
  refine agrees.mpr ⟨interspersed.closed ?_, ?_⟩
  · intro token member
    obtain ⟨separator, unmarked⟩ := frontSpelled token member
    by_cases separates : token.kind = .separator
    · rw [separator separates]
      rfl
    · cases may : mayHaveMarks token.kind with
      | true => exact (frontPlain token member may).closed
      | false => exact (isPlain_of_unmarked (unmarked may separates)).closed
  · obtain ⟨middle, frontReadsAgain, backReads⟩ := reads.split
    obtain rfl := frontReads.rest_unique frontReadsAgain
    obtain ⟨whole, splitBack, backInterspersed, -⟩ := backReads.consumed
    have nothing : (ofText text).rest = [] := List.isEmpty_iff.mp success
    rw [nothing, List.append_nil] at splitBack
    rw [splitBack]
    refine (backInterspersed.isPlain ?_).single
    intro token member
    obtain ⟨-, unmarked⟩ := backSpelled token member
    cases may : mayHaveMarks token.kind with
    | true => exact backPlain token member may
    | false => exact isPlain_of_unmarked (unmarked may (single token member))

/-- A separator inside a quotation does not count, neither to the tokens nor to completion. -/
theorem lastCommand_behind_quotation :
    (ofText "set x \"a;b\"; mac").succeeded = true ∧
      IsLastCommand "set x \"a;b\"; mac".toList (ofText "set x \"a;b\"; mac").tokens
        "mac".toList ∧
      lastCommand "set x \"a;b\"; mac".toList = "mac".toList := by
  have success : (ofText "set x \"a;b\"; mac").succeeded = true := by decide +kernel
  have last : IsLastCommand "set x \"a;b\"; mac".toList (ofText "set x \"a;b\"; mac").tokens
      "mac".toList :=
    ⟨(scan 4 "set x \"a;b\"; mac".toList).tokens, [Token.literal "mac"], by decide +kernel,
      scan_readsFront 4 "set x \"a;b\"; mac".toList, by decide +kernel, by decide +kernel⟩
  have plain : ∀ token ∈ (ofText "set x \"a;b\"; mac").tokens,
      mayHaveMarks token.kind = true → IsPlain token.raw.toList := by
    have tokens : (ofText "set x \"a;b\"; mac").tokens =
        [.literal "set", .literal "x", .string "a;b", ⟨.separator, ";"⟩, .literal "mac"] := by
      decide +kernel
    rw [tokens]
    have quotation : IsPlain ('\x22' :: (['a', ';', 'b'] ++ ['\x22'])) :=
      isPlain_quotation rfl (by decide)
    simpa [mayHaveMarks, Token.literal, Token.string, Token.escapeQuoted] using quotation
  exact ⟨success, last, ((lastCommand_eq_iff "set x \"a;b\"; mac").2 "set x \"a;b\"; ".toList
    "mac".toList (by decide) last).2 success plain⟩

/-- The escaped apostrophe belongs to the quotation, but completion takes it to close the first one
and the next to open another, in which it finds no separator. -/
theorem lastCommand_misses_separator :
    ¬∀ text : String, (ofText text).succeeded = true →
      (∀ token ∈ (ofText text).tokens, ∀ words, token.kind ≠ .comment words) →
      ∀ rest, IsLastCommand text.toList (ofText text).tokens rest →
        lastCommand text.toList = rest := by
  intro agree
  have last : IsLastCommand "'\\'';mac".toList (ofText "'\\'';mac").tokens "mac".toList :=
    ⟨(scan 2 "'\\'';mac".toList).tokens, [Token.literal "mac"], by decide +kernel,
      scan_readsFront 2 "'\\'';mac".toList, by decide +kernel, by decide +kernel⟩
  have tokens : (ofText "'\\'';mac").tokens =
      [⟨.string "'", "'\\''"⟩, ⟨.separator, ";"⟩, .literal "mac"] := by
    decide +kernel
  have found := agree "'\\'';mac" (by decide +kernel) (by simp [tokens, Token.literal]) _ last
  exact absurd found (by decide +kernel)

end Tokenization

end MachineConsole
