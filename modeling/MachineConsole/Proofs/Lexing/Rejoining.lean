import MachineConsole.Proofs.Lexing.Reads
import MachineConsole.Proofs.Lexing.Separation

/-!
Contract: reading the raw texts of tokens joined by single spaces.

Owns:
- `continuation`, the text behind a token when others are joined to it;
- `Token.EscapesSpace`, the one form of token that takes the joining space with it;
- `ofText_joinRaw_iff`: the joined text is read as the same tokens exactly when no token but the last
  one escapes the space behind it.
-/

namespace MachineConsole

open LexicalRule Tokenization
open Text (isBlank trimStart)

namespace Token

def isPath (token : Token) : Bool :=
  match token.kind with
  | .path _ => true
  | _ => false

theorem isPath_iff {token : Token} : token.isPath = true ↔ ∃ text, token.kind = .path text := by
  unfold isPath
  split <;> simp_all

/-- A path whose last character would make a space behind it part of the path. -/
def EscapesSpace (token : Token) : Prop :=
  token.isPath = true ∧ token.raw.toList.getLast? = some '\\'

instance (token : Token) : Decidable token.EscapesSpace :=
  inferInstanceAs (Decidable (_ ∧ _))

end Token

/-- What stands behind a token when the other tokens are joined to it. -/
def continuation (tokens : List Token) : List Char :=
  if tokens = [] then [] else ' ' :: (Token.joinRaw tokens).toList

theorem toList_joinRaw_cons (token : Token) (tokens : List Token) :
    (Token.joinRaw (token :: tokens)).toList = token.raw.toList ++ continuation tokens := by
  cases tokens with
  | nil => simp [Token.joinRaw, Text.join, continuation]
  | cons second rest => simp [Token.joinRaw, Text.join, continuation]

theorem continuation_apart (tokens : List Token) : StartsApart (continuation tokens) := by
  unfold continuation
  split
  · exact startsApart_nil
  · exact startsApart_space _

theorem reads_continuation_iff {tokens : List Token} :
    Reads (continuation tokens) tokens ↔ Reads (Token.joinRaw tokens).toList tokens := by
  cases tokens with
  | nil => rfl
  | cons token rest =>
      have sameStart : trimStart (continuation (token :: rest)) =
          trimStart (Token.joinRaw (token :: rest)).toList :=
        List.dropWhile_cons_of_pos (by decide)
      exact ⟨Reads.of_trimStart_eq sameStart.symm, Reads.of_trimStart_eq sameStart⟩

/-- Joined tokens are read one after the other. -/
theorem reads_joinRaw_cons_iff {token : Token} {tokens : List Token} :
    Reads (Token.joinRaw (token :: tokens)).toList (token :: tokens) ↔
      (∃ first more, token.raw.toList = first :: more ∧ isBlank first = false) ∧
      first? (token.raw.toList ++ continuation tokens) =
        some (.token token.kind token.raw.toList.length) ∧
      Reads (Token.joinRaw tokens).toList tokens := by
  rw [toList_joinRaw_cons, ← reads_continuation_iff]
  constructor
  · intro reads
    obtain ⟨first, more, begins, notBlank⟩ := reads.raw_begins token List.mem_cons_self
    refine ⟨⟨first, more, begins, notBlank⟩, ?_⟩
    have trimmed : trimStart (token.raw.toList ++ continuation tokens) =
        token.raw.toList ++ continuation tokens := by
      rw [begins]
      exact trimStart_of_not_blank _ notBlank
    generalize whole : token.raw.toList ++ continuation tokens = text at reads trimmed ⊢
    cases reads with
    | @token _ kind length _ applies behind =>
        rw [trimmed] at applies behind whole
        have bounded := (first?_bounded _ _ _ applies).2
        have extent : (String.ofList (text.take length)).toList.length = length := by
          rw [String.toList_ofList, List.length_take]
          omega
        have rest : text.drop length = continuation tokens := by
          conv => lhs; rw [← whole]
          exact List.drop_left' extent
        rw [rest] at behind
        rw [trimmed, extent]
        exact ⟨applies, behind⟩
  · rintro ⟨⟨first, more, begins, notBlank⟩, applies, behind⟩
    have trimmed : trimStart (token.raw.toList ++ continuation tokens) =
        token.raw.toList ++ continuation tokens := by
      rw [begins]
      exact trimStart_of_not_blank _ notBlank
    have reads := @Reads.token (token.raw.toList ++ continuation tokens) token.kind
      token.raw.toList.length tokens (by rwa [trimmed]) (by rwa [trimmed, List.drop_left])
    rwa [trimmed, List.take_left, String.ofList_toList] at reads

/-! ### Terminators -/

/-- Three quotation marks. -/
def terminatorMarks : List Char :=
  ['\x22', '\x22', '\x22']

theorem untilTerminator?_eq_none_iff {text : List Char} :
    untilTerminator? text = none ↔ ¬ terminatorMarks <:+: text := by
  induction text using untilTerminator?.induct with
  | case1 => simp [untilTerminator?, terminatorMarks]
  | case2 after =>
      have closes : terminatorMarks <:+: '\x22' :: '\x22' :: '\x22' :: after := ⟨[], after, rfl⟩
      simp [untilTerminator?, closes]
  | case3 character rest notClosed inductionHypothesis =>
      have notHere : ¬ terminatorMarks <+: character :: rest := by
        rintro ⟨after, split⟩
        obtain ⟨rfl, behind⟩ := List.cons.inj split
        exact notClosed after rfl behind.symm
      rw [untilTerminator?.eq_3 _ _ notClosed, Option.map_eq_none_iff, inductionHypothesis,
        List.infix_cons_iff]
      simp [notHere]

theorem infix_of_infix_append_gap {marks front behind : List Char} {gap : Char}
    (noGap : FreeOfGaps marks) (isGap : gap ∈ gaps) (within : marks <:+: front ++ gap :: behind) :
    marks <:+: front ∨ marks <:+: behind := by
  have apart : StartsApart (gap :: behind) := startsApart_cons isGap behind
  induction front with
  | nil =>
      rcases List.infix_cons_iff.mp within with begins | later
      · rw [← List.nil_append (gap :: behind)] at begins
        exact .inl (begins_of_begins_append noGap apart begins).isInfix
      · exact .inr later
  | cons first rest inductionHypothesis =>
      rw [List.cons_append, List.infix_cons_iff] at within
      rcases within with begins | later
      · rw [← List.cons_append] at begins
        exact .inl (begins_of_begins_append noGap apart begins).isInfix
      · rcases inductionHypothesis later with front | behind
        · exact .inl (List.infix_cons front)
        · exact .inr behind

/-- Marks without a gap in a joined text stand in one of the tokens. -/
theorem infix_of_infix_joinRaw {marks : List Char} (noGap : FreeOfGaps marks)
    (nonempty : marks ≠ []) {tokens : List Token} (within : marks <:+: (Token.joinRaw tokens).toList) :
    ∃ token ∈ tokens, marks <:+: token.raw.toList := by
  induction tokens with
  | nil => exact absurd (List.infix_nil.mp within) nonempty
  | cons token rest inductionHypothesis =>
      rw [toList_joinRaw_cons, continuation] at within
      split at within
      · rw [List.append_nil] at within
        exact ⟨token, List.mem_cons_self, within⟩
      · rcases infix_of_infix_append_gap noGap (by decide) within with front | behind
        · exact ⟨token, List.mem_cons_self, front⟩
        · obtain ⟨other, member, inOther⟩ := inductionHypothesis behind
          exact ⟨other, List.mem_cons_of_mem _ member, inOther⟩

theorem untilTerminator?_continuation {tokens : List Token}
    (free : ∀ token ∈ tokens, ¬ terminatorMarks <:+: token.raw.toList) :
    untilTerminator? (continuation tokens) = none := by
  rw [untilTerminator?_eq_none_iff]
  intro within
  unfold continuation at within
  split at within
  · exact absurd (List.infix_nil.mp within) (by decide)
  · rw [← List.nil_append (' ' :: _)] at within
    rcases infix_of_infix_append_gap (by decide) (by decide) within with empty | behind
    · exact absurd (List.infix_nil.mp empty) (by decide)
    · obtain ⟨token, member, inToken⟩ := infix_of_infix_joinRaw (by decide) (by decide) behind
      exact free token member inToken

/-! ### Rejoined tokens -/

theorem continuation_nil : continuation [] = [] :=
  if_pos rfl

theorem continuation_eq_nil_iff {tokens : List Token} : continuation tokens = [] ↔ tokens = [] := by
  unfold continuation
  split <;> simp_all

theorem mem_dropLast_cons {α : Type} {first : α} {rest : List α} (nonempty : rest ≠ []) (member : α) :
    member ∈ (first :: rest).dropLast ↔ member = first ∨ member ∈ rest.dropLast := by
  rw [List.dropLast_cons_of_ne_nil nonempty, List.mem_cons]

/-- Tokens of a text are read from their joined texts if none of them takes the space behind it. -/
theorem Tokenization.Reads.joinRaw {text : List Char} {tokens : List Token}
    (reads : Reads text tokens) (separate : ∀ token ∈ tokens.dropLast, ¬ token.EscapesSpace) :
    Reads (Token.joinRaw tokens).toList tokens := by
  induction reads with
  | done => exact .done rfl
  | @token text kind length tokens applies behind inductionHypothesis =>
      have begins := (Reads.token applies behind).raw_begins _ List.mem_cons_self
      have bounded := (first?_bounded _ _ _ applies).2
      have extent : ((trimStart text).take length).length = length := by
        rw [List.length_take]
        omega
      have admits : Admits kind ((trimStart text).take length) (continuation tokens) := by
        constructor
        · exact continuation_apart tokens
        · intro isComment
          rw [first?_comment applies isComment, List.drop_length] at behind
          rw [reads_nil_iff.mp behind, continuation_nil]
        · intro isPath backslash
          cases tokens with
          | nil => exact continuation_nil
          | cons second rest =>
              refine absurd ⟨Token.isPath_iff.mpr isPath, ?_⟩
                (separate _ ((mem_dropLast_cons (List.cons_ne_nil _ _) _).mpr (.inl rfl)))
              rwa [String.toList_ofList]
        · intro isTerminator
          obtain ⟨rfl, notClosed⟩ := first?_terminator applies isTerminator
          apply untilTerminator?_continuation
          intro token member within
          exact untilTerminator?_eq_none_iff.mp notClosed
            (within.trans (behind.raw_within token member))
      have readsRest := inductionHypothesis fun token member => by
        cases tokens with
        | nil => contradiction
        | cons second rest =>
            exact separate token ((mem_dropLast_cons (List.cons_ne_nil _ _) _).mpr (.inr member))
      have again := first?_take_append applies admits
      refine reads_joinRaw_cons_iff.mpr ⟨begins, ?_, readsRest⟩
      rw [String.toList_ofList, extent]
      exact again

/-- Tokens that are read from their joined texts do not take the space behind them. -/
theorem not_escapesSpace_of_reads {tokens : List Token}
    (reads : Reads (Token.joinRaw tokens).toList tokens) :
    ∀ token ∈ tokens.dropLast, ¬ token.EscapesSpace := by
  induction tokens with
  | nil => simp
  | cons token rest inductionHypothesis =>
      obtain ⟨-, applies, readsRest⟩ := reads_joinRaw_cons_iff.mp reads
      intro other member escapes
      cases rest with
      | nil => contradiction
      | cons second rest =>
          rcases (mem_dropLast_cons (List.cons_ne_nil _ _) _).mp member with rfl | later
          · obtain ⟨isPath, backslash⟩ := escapes
            obtain ⟨written, split, extent⟩ := first?_path applies (Token.isPath_iff.mp isPath)
            have begins : '@' :: pathCharacters written <+: '@' :: written :=
              List.cons_prefix_cons.mpr ⟨rfl, pathCharacters_begins written⟩
            have rawBegins : other.raw.toList <+: '@' :: written := ⟨_, split⟩
            have raw : other.raw.toList = '@' :: pathCharacters written :=
              (List.prefix_of_prefix_length_le rawBegins begins (by simp [extent])).eq_of_length
                (by simp [extent])
            rw [raw, List.cons_append] at split
            have behind := (List.cons.inj split).2
            have last : (pathCharacters written).getLast? = some '\\' := by
              rw [raw] at backslash
              cases characters : pathCharacters written with
              | nil => simp [characters] at backslash
              | cons first more =>
                  rw [characters, List.getLast?_cons_cons] at backslash
                  exact backslash
            have longer :=
              pathCharacters_append_space (Token.joinRaw (second :: rest)).toList written last
            rw [show pathCharacters written ++ ' ' :: (Token.joinRaw (second :: rest)).toList =
              written from behind] at longer
            have sameLength := congrArg List.length longer
            rw [List.length_append, List.length_cons] at sameLength
            omega
          · exact inductionHypothesis readsRest other later escapes

/-- A token that is read in front of others is read in front of what may stand in their place. -/
theorem first?_joinRaw_of_reads {token : Token} {tokens others : List Token}
    (reads : Reads (Token.joinRaw (token :: tokens)).toList (token :: tokens))
    (ends : tokens = [] → others = [])
    (free : token.kind = .terminator → ∀ other ∈ others, ¬ terminatorMarks <:+: other.raw.toList) :
    first? (token.raw.toList ++ continuation others) =
      some (.token token.kind token.raw.toList.length) := by
  obtain ⟨-, applies, -⟩ := reads_joinRaw_cons_iff.mp reads
  have admits : Admits token.kind
      ((token.raw.toList ++ continuation tokens).take token.raw.toList.length)
      (continuation others) := by
    rw [List.take_left]
    constructor
    · exact continuation_apart others
    · intro isComment
      have extent := first?_comment applies isComment
      have nothing : continuation tokens = [] := by simpa using extent
      rw [ends (continuation_eq_nil_iff.mp nothing), continuation_nil]
    · intro isPath backslash
      cases tokens with
      | nil => rw [ends rfl, continuation_nil]
      | cons second more =>
          exact absurd ⟨Token.isPath_iff.mpr isPath, backslash⟩
            (not_escapesSpace_of_reads reads _
              ((mem_dropLast_cons (List.cons_ne_nil _ _) _).mpr (.inl rfl)))
    · intro isTerminator
      exact untilTerminator?_continuation (free isTerminator)
  have again := first?_take_append applies admits
  rwa [List.take_left] at again

/-- No token behind a terminator holds three quotation marks in a row. -/
theorem free_of_marks_behind_terminator {token : Token} {tokens : List Token}
    (reads : Reads (Token.joinRaw (token :: tokens)).toList (token :: tokens))
    (isTerminator : token.kind = .terminator) :
    ∀ other ∈ tokens, ¬ terminatorMarks <:+: other.raw.toList := by
  obtain ⟨-, applies, readsRest⟩ := reads_joinRaw_cons_iff.mp reads
  obtain ⟨extent, notClosed⟩ := first?_terminator applies isTerminator
  rw [← extent, List.drop_left] at notClosed
  intro other member within
  have inTail := (reads_continuation_iff.mpr readsRest).raw_within other member
  exact untilTerminator?_eq_none_iff.mp notClosed (within.trans inTail)

/-- The texts of the tokens of a line, joined by single spaces, are read as the same tokens exactly
when no path but the last token ends with a backslash. -/
theorem ofText_joinRaw_iff {text : String}
    (success : (Tokenization.ofText text).succeeded = true) :
    ((Tokenization.ofText (Token.joinRaw (Tokenization.ofText text).tokens)).succeeded = true ∧
      (Tokenization.ofText (Token.joinRaw (Tokenization.ofText text).tokens)).tokens =
        (Tokenization.ofText text).tokens) ↔
      ∀ token ∈ (Tokenization.ofText text).tokens.dropLast, ¬ token.EscapesSpace := by
  have reads : Reads text.toList (Tokenization.ofText text).tokens :=
    succeeded_iff_reads.mp ⟨success, rfl⟩
  constructor
  · intro again
    exact not_escapesSpace_of_reads (succeeded_iff_reads.mp again)
  · intro separate
    exact succeeded_iff_reads.mpr (reads.joinRaw separate)

theorem ofText_joinRaw_of_adjoining_tokens :
    (Tokenization.ofText "x:=@a\\ b;'c'<1,2>@d\\").succeeded = true ∧
      (Tokenization.ofText (Token.joinRaw
        (Tokenization.ofText "x:=@a\\ b;'c'<1,2>@d\\").tokens)).tokens =
        (Tokenization.ofText "x:=@a\\ b;'c'<1,2>@d\\").tokens :=
  ⟨by decide +kernel, ((ofText_joinRaw_iff (by decide +kernel)).mpr (by decide +kernel)).2⟩

end MachineConsole
