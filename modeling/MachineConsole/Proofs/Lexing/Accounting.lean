import MachineConsole.Proofs.Lexing.Reads
import MachineConsole.Proofs.Lexing.Truncation

/-!
Contract: every character of a text is accounted for by its reading.

Owns:
- `ReadsFront`, the relation between a text, the tokens at its beginning and what is left behind
  them, whatever ended the reading;
- `ReadsFront.split`: such a reading can be stopped behind any token, and what is left there is
  determined by the tokens in front;
- `Interspersed`: the raw texts of tokens in order, with blanks around them;
- `ofText_accounts`: a text is what its tokens were read from, blanks between them and the characters
  that are unmatched, and without the latter it has the same tokens.

A reading that succeeds is `Reads`; what is added here is the reading that stops.
-/

namespace MachineConsole.Tokenization

open LexicalRule (first? first?_bounded first?_take)
open Text (isBlank trimStart)

/-- The tokens at the beginning of a text, and what is left behind them. -/
inductive ReadsFront : List Char → List Token → List Char → Prop where
  | done (text : List Char) : ReadsFront text [] (trimStart text)
  | token {text : List Char} {kind : TokenKind} {length : Nat} {tokens : List Token}
      {rest : List Char} (applies : first? (trimStart text) = some (.token kind length))
      (behind : ReadsFront ((trimStart text).drop length) tokens rest) :
      ReadsFront text (⟨kind, String.ofList ((trimStart text).take length)⟩ :: tokens) rest

theorem scan_readsFront (bound : Nat) (text : List Char) :
    ReadsFront text (scan bound text).tokens (scan bound text).rest := by
  induction bound generalizing text with
  | zero => exact .done text
  | succ bound inductionHypothesis =>
      have stopped : ReadsFront text [] (trimStart text) := .done text
      unfold scan
      split
      · next blank => rwa [blank] at stopped
      · next first more begins =>
          rw [begins] at stopped
          split
          · exact stopped
          · exact stopped
          · next kind length applies =>
              rw [← begins] at applies ⊢
              exact .token applies (inductionHypothesis _)

theorem ofText_readsFront (text : String) :
    ReadsFront text.toList (ofText text).tokens (ofText text).rest :=
  scan_readsFront text.toList.length text.toList

/-- The raw texts of tokens in order, with blanks in front of each and behind the last. -/
inductive Interspersed : List Token → List Char → Prop where
  | blanks {gap : List Char} (blank : ∀ character ∈ gap, isBlank character = true) :
      Interspersed [] gap
  | token {gap : List Char} {token : Token} {tokens : List Token} {text : List Char}
      (blank : ∀ character ∈ gap, isBlank character = true)
      (behind : Interspersed tokens text) :
      Interspersed (token :: tokens) (gap ++ (token.raw.toList ++ text))

theorem blank_of_mem_takeWhile (text : List Char) :
    ∀ character ∈ text.takeWhile isBlank, isBlank character = true :=
  fun _ member => List.all_eq_true.mp List.all_takeWhile _ member

theorem trimStart_append_of_blank {gap : List Char}
    (blank : ∀ character ∈ gap, isBlank character = true) (text : List Char) :
    trimStart (gap ++ text) = trimStart text :=
  List.dropWhile_append_of_pos blank

theorem trimStart_trimStart (text : List Char) : trimStart (trimStart text) = trimStart text := by
  cases begins : trimStart text with
  | nil => rfl
  | cons first more => exact trimStart_of_not_blank more (trimStart_begins begins)

theorem ReadsFront.of_trimStart {text rest : List Char} {tokens : List Token}
    (reads : ReadsFront text tokens rest) : ReadsFront (trimStart text) tokens rest := by
  have same := trimStart_trimStart text
  cases reads with
  | done =>
      have stopped : ReadsFront (trimStart text) [] (trimStart (trimStart text)) := .done _
      rwa [same] at stopped
  | @token _ kind length tokens _ applies behind =>
      have token : ReadsFront (trimStart text)
          (⟨kind, String.ofList ((trimStart (trimStart text)).take length)⟩ :: tokens) rest :=
        .token (by rwa [same]) (by rwa [same])
      rwa [same] at token

/-- A reading can be stopped behind any of its tokens. -/
theorem ReadsFront.split {text rest : List Char} {front back : List Token}
    (reads : ReadsFront text (front ++ back) rest) :
    ∃ middle, ReadsFront text front middle ∧ ReadsFront middle back rest := by
  induction front generalizing text with
  | nil => exact ⟨trimStart text, .done text, reads.of_trimStart⟩
  | cons token front inductionHypothesis =>
      cases reads with
      | token applies behind =>
          obtain ⟨middle, frontReads, backReads⟩ := inductionHypothesis behind
          exact ⟨middle, .token applies frontReads, backReads⟩

theorem ReadsFront.behind {text rest : List Char} {token : Token} {tokens : List Token}
    (reads : ReadsFront text (token :: tokens) rest) :
    ∃ kind length, first? (trimStart text) = some (.token kind length) ∧
      ReadsFront ((trimStart text).drop length) tokens rest := by
  cases reads with
  | @token _ kind length _ _ applies behind => exact ⟨kind, length, applies, behind⟩

/-- What is left behind some tokens is determined by them. -/
theorem ReadsFront.rest_unique {text rest other : List Char} {tokens : List Token}
    (reads : ReadsFront text tokens rest) (otherReads : ReadsFront text tokens other) :
    rest = other := by
  induction reads with
  | done => cases otherReads; rfl
  | token applies _ inductionHypothesis =>
      obtain ⟨_, _, otherApplies, otherBehind⟩ := otherReads.behind
      obtain ⟨rfl, rfl⟩ := Reading.token.inj (Option.some.inj (applies.symm.trans otherApplies))
      exact inductionHypothesis otherBehind

/-- What is left begins with a character that is not blank. -/
theorem ReadsFront.rest_begins {text rest : List Char} {tokens : List Token}
    (reads : ReadsFront text tokens rest) : ∀ first ∈ rest.head?, isBlank first = false := by
  induction reads with
  | done text =>
      intro first member
      obtain ⟨more, begins⟩ := List.head?_eq_some_iff.mp member
      exact trimStart_begins begins
  | token _ _ inductionHypothesis => exact inductionHypothesis

/-- What every token at the beginning of a text is, every token of a reading is. -/
theorem ReadsFront.makes {allowed : TokenKind → Prop}
    (makesFirst : LexicalRule.Makes allowed first?) {text rest : List Char} {tokens : List Token}
    (reads : ReadsFront text tokens rest) : ∀ token ∈ tokens, allowed token.kind := by
  induction reads with
  | done => exact nofun
  | token applies _ inductionHypothesis =>
      exact List.forall_mem_cons.mpr ⟨makesFirst _ _ _ applies, inductionHypothesis⟩

/-- A text that begins like one without leading blanks has none either. -/
theorem trimStart_take_append {text : List Char} {length : Nat} (positive : 0 < length)
    (bounded : length ≤ (trimStart text).length) (behind : List Char) :
    trimStart ((trimStart text).take length ++ behind) =
      (trimStart text).take length ++ behind := by
  obtain ⟨taken, rfl⟩ : ∃ taken, length = taken + 1 := ⟨length - 1, by omega⟩
  cases begins : trimStart text with
  | nil =>
      rw [begins] at bounded
      exact absurd bounded (Nat.not_succ_le_zero taken)
  | cons first more => exact trimStart_of_not_blank _ (trimStart_begins begins)

/-- The text in front of what is left has the same tokens, and holds them with blanks around. -/
theorem ReadsFront.consumed {text rest : List Char} {tokens : List Token}
    (reads : ReadsFront text tokens rest) :
    ∃ consumed, text = consumed ++ rest ∧ Interspersed tokens consumed ∧ Reads consumed tokens := by
  induction reads with
  | done text =>
      have blank := blank_of_mem_takeWhile text
      have nothing : trimStart (text.takeWhile isBlank) = [] := by
        simpa [trimStart] using trimStart_append_of_blank blank []
      exact ⟨text.takeWhile isBlank, List.takeWhile_append_dropWhile.symm, .blanks blank,
        .done nothing⟩
  | @token text kind length tokens rest applies behind inductionHypothesis =>
      obtain ⟨consumed, split, interspersed, reads⟩ := inductionHypothesis
      obtain ⟨positive, bounded⟩ := first?_bounded _ _ _ applies
      have blank := blank_of_mem_takeWhile text
      have takenLength : ((trimStart text).take length).length = length :=
        List.length_take_of_le bounded
      -- The token lies in front of what is left, so it is read again without that.
      have cut : (trimStart text).take (length + consumed.length) =
          (trimStart text).take length ++ consumed := by
        rw [List.take_add, split, List.take_left]
      have appliesAgain : first? ((trimStart text).take length ++ consumed) =
          some (.token kind length) := by
        rw [← cut]
        exact first?_take applies (Nat.le_add_right _ _)
      let whole := text.takeWhile isBlank ++ ((trimStart text).take length ++ consumed)
      have trimmed : trimStart whole = (trimStart text).take length ++ consumed := by
        rw [trimStart_append_of_blank blank, trimStart_take_append positive bounded]
      refine ⟨whole, ?_, ?_, ?_⟩
      · rw [List.append_assoc, List.append_assoc, ← split, List.take_append_drop]
        exact List.takeWhile_append_dropWhile.symm
      · have token : Interspersed (⟨kind, String.ofList ((trimStart text).take length)⟩ :: tokens)
            (text.takeWhile isBlank ++
              ((String.ofList ((trimStart text).take length)).toList ++ consumed)) :=
          .token blank interspersed
        rwa [String.toList_ofList] at token
      · have readsAgain : Reads (((trimStart text).take length ++ consumed).drop length) tokens := by
          rwa [List.drop_left' takenLength]
        have token : Reads whole
            (⟨kind, String.ofList ((trimStart whole).take length)⟩ :: tokens) :=
          .token (trimmed ▸ appliesAgain) (trimmed ▸ readsAgain)
        rwa [trimmed, List.take_left' takenLength] at token

/-- The characters of a text are, in order, the raw texts of its tokens with blanks around them and
as many characters as are unmatched; these begin with one that is not blank, and there are some when
a token could not be decoded. Without them the text has the same tokens and none is left over. -/
theorem ofText_accounts (text : String) :
    ∃ consumed unread : List Char,
      text.toList = consumed ++ unread ∧
      Interspersed (ofText text).tokens consumed ∧
      unread.length = (ofText text).unmatched ∧
      (∀ first ∈ unread.head?, isBlank first = false) ∧
      ((ofText text).fault ≠ none → unread ≠ []) ∧
      ofText (String.ofList consumed) = ⟨(ofText text).tokens, [], none⟩ := by
  have reads : ReadsFront text.toList (ofText text).tokens (ofText text).rest :=
    scan_readsFront text.toList.length text.toList
  obtain ⟨consumed, split, interspersed, again⟩ := reads.consumed
  refine ⟨consumed, (ofText text).rest, split, interspersed, rfl, reads.rest_begins, ?_, ?_⟩
  · intro faulty nothing
    have success : (ofText text).succeeded = true := List.isEmpty_iff.mpr nothing
    have whole : ofText text = complete (ofText text).tokens :=
      scan_eq_complete_of_succeeded success
    rw [whole] at faulty
    exact faulty rfl
  · unfold ofText
    rw [String.toList_ofList]
    exact ofCharacters_eq_iff.mpr again

end MachineConsole.Tokenization
