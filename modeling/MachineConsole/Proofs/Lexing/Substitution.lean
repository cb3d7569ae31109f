import MachineConsole.Proofs.Lexing.Invocations
import MachineConsole.Proofs.Lexing.Rejoining

/-!
Contract: the outputs of substitutions in an invocation are read as one text each.

Owns:
- a quoted text made by `Token.string` is read back, and holds no three quotation marks in a row;
- `Substituted`, an invocation with texts in the places of its substitutions;
- `ofText_joinRaw_substituted`: such an invocation, joined and read again, is the same invocation,
  whatever the texts hold.
-/

namespace MachineConsole

open LexicalRule Tokenization

/-! ### Quoted texts -/

namespace Token

theorem escapeQuoted_cons (character : Char) (rest : List Char) :
    escapeQuoted (character :: rest) =
      (if character = '\x22' || character = '\\' then ['\\', character] else [character]) ++
        escapeQuoted rest :=
  List.flatMap_cons

/-- The escaped characters of a text end at the next quotation mark. -/
theorem untilMark?_escapeQuoted (text tail : List Char) :
    untilMark? '\x22' (escapeQuoted text ++ '\x22' :: tail) =
      some (text, (escapeQuoted text).length + 1) := by
  induction text with
  | nil => exact (untilMark?_cons (by decide) tail).trans (if_pos rfl)
  | cons character rest inductionHypothesis =>
      rw [escapeQuoted_cons]
      split
      · rename_i special
        simp only [List.cons_append, List.nil_append, untilMark?, inductionHypothesis]
        simp only [Option.map_some, List.length_cons]
        rw [if_pos (by simpa using special)]
      · rename_i ordinary
        simp only [Bool.or_eq_true, decide_eq_true_eq, not_or] at ordinary
        simp only [List.cons_append, List.nil_append, untilMark?_cons ordinary.2,
          if_neg ordinary.1, inductionHypothesis]
        rfl

/-- Escaped characters do not begin with two quotation marks, not even with the closing one. -/
theorem not_begins_escapeQuoted (text : List Char) {tail : List Char} (apart : StartsApart tail) :
    ¬ ['\x22', '\x22'] <+: escapeQuoted text ++ '\x22' :: tail := by
  intro begins
  cases text with
  | nil =>
      have beginsTail : ['\x22'] <+: [] ++ tail := (List.cons_prefix_cons.mp begins).2
      exact absurd (begins_of_begins_append (by decide) apart beginsTail) (by simp)
  | cons character rest =>
      rw [escapeQuoted_cons] at begins
      split at begins
      · exact absurd (List.cons_prefix_cons.mp begins).1 (by decide)
      · rename_i ordinary
        have isMark : '\x22' = character := (List.cons_prefix_cons.mp begins).1
        simp [← isMark] at ordinary

theorem not_infix_escapeQuoted (text : List Char) :
    ¬ terminatorMarks <:+: escapeQuoted text ++ ['\x22'] := by
  induction text with
  | nil =>
      intro within
      exact absurd within.length_le (by decide)
  | cons character rest inductionHypothesis =>
      have notAfter (other : Char) : ¬ terminatorMarks <+: other :: (escapeQuoted rest ++ ['\x22']) :=
        fun begins => not_begins_escapeQuoted rest startsApart_nil (List.cons_prefix_cons.mp begins).2
      rw [escapeQuoted_cons]
      split
      -- The marks could begin at the backslash or at the character that it escapes.
      · intro within
        rcases List.infix_cons_iff.mp within with begins | within
        · exact absurd (List.cons_prefix_cons.mp begins).1 (by decide)
        · rcases List.infix_cons_iff.mp within with begins | within
          · exact notAfter character begins
          · exact inductionHypothesis within
      · intro within
        rcases List.infix_cons_iff.mp within with begins | within
        · exact notAfter character begins
        · exact inductionHypothesis within

theorem toList_raw_string (text : String) :
    (Token.string text).raw.toList = '\x22' :: (escapeQuoted text.toList ++ ['\x22']) := by
  simp [Token.string]

/-- A quoted text does not hold three quotation marks in a row. -/
theorem not_infix_raw_string (text : String) :
    ¬ terminatorMarks <:+: (Token.string text).raw.toList := by
  rw [toList_raw_string]
  intro within
  rcases List.infix_cons_iff.mp within with begins | within
  · exact not_begins_escapeQuoted text.toList startsApart_nil (List.cons_prefix_cons.mp begins).2
  · exact not_infix_escapeQuoted text.toList within

/-- A quoted text in front of a tail is read as one token. -/
theorem first?_string (text : String) {tail : List Char} (apart : StartsApart tail) :
    first? ((Token.string text).raw.toList ++ tail) =
      some (.token (.string text) (Token.string text).raw.toList.length) := by
  have notBegins : ¬ terminatorMarks <+:
      '\x22' :: (escapeQuoted text.toList ++ '\x22' :: tail) := fun begins =>
    not_begins_escapeQuoted text.toList apart (List.cons_prefix_cons.mp begins).2
  have noTerminator : terminator ('\x22' :: (escapeQuoted text.toList ++ '\x22' :: tail)) = none := by
    refine Option.eq_none_iff_forall_ne_some.mpr ?_
    intro reading present
    exact notBegins (mark_eq_some_iff.mp present).1
  have noBlock : block ('\x22' :: (escapeQuoted text.toList ++ '\x22' :: tail)) = none := by
    refine Option.eq_none_iff_forall_ne_some.mpr ?_
    intro reading present
    obtain ⟨rest, _, opened, _⟩ := block_eq_some_iff.mp present
    exact notBegins ⟨rest, opened.symm⟩
  have isQuoted : quoted ('\x22' :: (escapeQuoted text.toList ++ '\x22' :: tail)) =
      some (.token (.string text) ((escapeQuoted text.toList).length + 2)) := by
    simp [quoted, untilMark?_escapeQuoted]
  rw [toList_raw_string, List.cons_append, List.append_assoc, List.singleton_append,
    first?_quotationMark]
  simp [noBlock, noTerminator, isQuoted]

end Token

/-! ### Invocations with their substitutions replaced -/

/-- What stands for a token once the substitutions are replaced by their outputs. -/
def IsSubstituted (token replacement : Token) : Prop :=
  match token.kind with
  | .substitution _ => ∃ output, replacement = Token.string output
  | _ => replacement = token

/-- Tokens in which every substitution is replaced by some text. -/
inductive Substituted : List Token → List Token → Prop where
  | nil : Substituted [] []
  | cons {token replacement : Token} {tokens replacements : List Token}
      (first : IsSubstituted token replacement) (rest : Substituted tokens replacements) :
      Substituted (token :: tokens) (replacement :: replacements)

theorem IsSubstituted.cases {token replacement : Token}
    (substituted : IsSubstituted token replacement) :
    ((∃ command, token.kind = .substitution command) ∧ ∃ output, replacement = Token.string output) ∨
      replacement = token := by
  unfold IsSubstituted at substituted
  split at substituted
  · rename_i command isSubstitution
    exact .inl ⟨⟨command, isSubstitution⟩, substituted⟩
  · exact .inr substituted

theorem Substituted.length_eq {tokens replacements : List Token}
    (substituted : Substituted tokens replacements) : replacements.length = tokens.length := by
  induction substituted with
  | nil => rfl
  | cons first rest inductionHypothesis => simp [inductionHypothesis]

theorem Substituted.free_of_marks {tokens replacements : List Token}
    (substituted : Substituted tokens replacements)
    (free : ∀ token ∈ tokens, ¬ terminatorMarks <:+: token.raw.toList) :
    ∀ replacement ∈ replacements, ¬ terminatorMarks <:+: replacement.raw.toList := by
  induction substituted with
  | nil => simp
  | cons first rest inductionHypothesis =>
      rw [List.forall_mem_cons] at free ⊢
      refine ⟨?_, inductionHypothesis free.2⟩
      rcases first.cases with ⟨-, output, rfl⟩ | rfl
      · exact Token.not_infix_raw_string output
      · exact free.1

theorem Substituted.isInvocation {tokens replacements : List Token}
    (substituted : Substituted tokens replacements) (isInvocation : Token.IsInvocation tokens) :
    Token.IsInvocation replacements := by
  obtain ⟨nonempty, gathered⟩ := isInvocation
  constructor
  · intro empty
    have sameLength := substituted.length_eq
    rw [empty, List.length_nil] at sameLength
    exact nonempty (List.length_eq_zero_iff.mp sameLength.symm)
  · clear nonempty
    induction substituted with
    | nil => simp
    | cons first rest inductionHypothesis =>
        rw [List.forall_mem_cons] at gathered ⊢
        refine ⟨?_, inductionHypothesis gathered.2⟩
        rcases first.cases with ⟨-, output, rfl⟩ | rfl
        · rfl
        · exact gathered.1

theorem Substituted.eq_nil {tokens replacements : List Token}
    (substituted : Substituted tokens replacements) (ends : tokens = []) : replacements = [] := by
  cases substituted with
  | nil => rfl
  | cons first rest => contradiction

/-- Texts in the places of substitutions leave every token in its place. -/
theorem Tokenization.Reads.substituted {tokens replacements : List Token}
    (reads : Reads (Token.joinRaw tokens).toList tokens)
    (substituted : Substituted tokens replacements) :
    Reads (Token.joinRaw replacements).toList replacements := by
  induction substituted with
  | nil => exact .done rfl
  | @cons token replacement tokens replacements first rest inductionHypothesis =>
      obtain ⟨begins, applies, readsRest⟩ := reads_joinRaw_cons_iff.mp reads
      refine reads_joinRaw_cons_iff.mpr ?_
      have readsReplacements := inductionHypothesis readsRest
      rcases first.cases with ⟨-, output, rfl⟩ | rfl
      · refine ⟨⟨_, _, Token.toList_raw_string output, by decide⟩, ?_, readsReplacements⟩
        exact Token.first?_string output (continuation_apart replacements)
      · refine ⟨begins, first?_joinRaw_of_reads reads rest.eq_nil fun isTerminator => ?_,
          readsReplacements⟩
        exact rest.free_of_marks (free_of_marks_behind_terminator reads isTerminator)

/-- The outputs of substitutions do not bring in tokens. An invocation that is read as itself is
still read as one invocation when its substitutions are replaced by any texts, and each of these
texts is one token of it. -/
theorem ofText_joinRaw_substituted {tokens invocation replacements : List Token}
    (member : invocation ∈ Token.invocations tokens)
    (survives : (Tokenization.ofText (Token.joinRaw invocation)).succeeded = true ∧
      (Tokenization.ofText (Token.joinRaw invocation)).tokens = invocation)
    (substituted : Substituted invocation replacements) :
    ((Tokenization.ofText (Token.joinRaw replacements)).succeeded = true ∧
      (Tokenization.ofText (Token.joinRaw replacements)).tokens = replacements) ∧
      Token.invocations (Tokenization.ofText (Token.joinRaw replacements)).tokens =
        [replacements] ∧
      replacements.length = invocation.length := by
  have reads : Reads (Token.joinRaw replacements).toList replacements :=
    (succeeded_iff_reads.mp survives).substituted substituted
  have isInvocation := substituted.isInvocation (Token.isInvocation_of_mem_invocations member)
  have again : (Tokenization.ofText (Token.joinRaw replacements)).succeeded = true ∧
      (Tokenization.ofText (Token.joinRaw replacements)).tokens = replacements :=
    succeeded_iff_reads.mpr reads
  refine ⟨again, ?_, substituted.length_eq⟩
  rw [again.2]
  exact isInvocation.invocations_eq

theorem ofText_joinRaw_substituted_by_marks :
    let output := "\"; # `\\\"\"\"\r\n"
    let replacements := [Token.literal "put", Token.string output, ⟨.path "p", "@p"⟩]
    (Tokenization.ofText (Token.joinRaw replacements)).tokens = replacements ∧
      Token.invocations (Tokenization.ofText (Token.joinRaw replacements)).tokens =
        [replacements] := by
  intro output replacements
  have substituted : Substituted
      [Token.literal "put", ⟨.substitution "list", "`list`"⟩, ⟨.path "p", "@p"⟩] replacements :=
    .cons rfl (.cons ⟨output, rfl⟩ (.cons rfl .nil))
  have result := @ofText_joinRaw_substituted
    (Tokenization.ofText "put`list`@p;next # note").tokens _ replacements
    (by decide +kernel) (by decide +kernel) substituted
  exact ⟨result.1.2, result.2.1⟩

end MachineConsole
