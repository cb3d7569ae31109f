import MachineConsole.Proofs.Lexing.Rejoining

/-!
Contract: paths made by the console are read back.

Owns:
- escaped spaces are turned back into the same text;
- `FitsPath`, the texts that the characters of a path can write;
- `reads_joinRaw_replace_iff`: when a token of a line can be replaced without any other token of it
  being read differently;
- `ofText_path_iff`: a path is read back as one token exactly when its text fits, and what else is
  needed for it to be one token of a line.
-/

namespace MachineConsole

open LexicalRule Tokenization
open Text (isBlank escapeSpaces unescapeSpaces)

/-! ### Escaped spaces -/

namespace Text

theorem escapeSpaces_space (rest : List Char) :
    escapeSpaces (' ' :: rest) = '\\' :: ' ' :: escapeSpaces rest :=
  rfl

theorem escapeSpaces_cons {character : Char} (other : character ≠ ' ') (rest : List Char) :
    escapeSpaces (character :: rest) = character :: escapeSpaces rest := by
  unfold escapeSpaces
  rw [List.flatMap_cons, if_neg other, List.singleton_append]

/-- Behind a backslash of the text itself there is no space. -/
theorem escapeSpaces_ne_space (text more : List Char) : escapeSpaces text ≠ ' ' :: more := by
  cases text with
  | nil => nofun
  | cons character rest =>
      by_cases space : character = ' '
      · subst space
        rw [escapeSpaces_space]
        nofun
      · rw [escapeSpaces_cons space]
        exact fun same => space (List.cons.inj same).1

theorem escapeSpaces_ne_nil {text : List Char} (nonempty : text ≠ []) : escapeSpaces text ≠ [] := by
  obtain ⟨character, rest, rfl⟩ := List.exists_cons_of_ne_nil nonempty
  by_cases space : character = ' '
  · subst space
    nofun
  · rw [escapeSpaces_cons space]
    nofun

theorem unescapeSpaces_cons {character : Char} {rest : List Char}
    (notEscape : ∀ more, character = '\\' → rest = ' ' :: more → False) :
    unescapeSpaces (character :: rest) = character :: unescapeSpaces rest := by
  conv => lhs; unfold unescapeSpaces
  split
  · contradiction
  · simp_all
  · simp_all

theorem unescapeSpaces_escapeSpaces (text : List Char) :
    unescapeSpaces (escapeSpaces text) = text := by
  induction text with
  | nil => rfl
  | cons character rest inductionHypothesis =>
      by_cases space : character = ' '
      · subst space
        rw [escapeSpaces_space, unescapeSpaces, inductionHypothesis]
      · rw [escapeSpaces_cons space,
          unescapeSpaces_cons fun more _ => escapeSpaces_ne_space rest more, inductionHypothesis]

end Text

open Text (escapeSpaces_space escapeSpaces_cons escapeSpaces_ne_space)

/-! ### Texts of paths -/

/-- A text without semicolons whose only blanks are spaces. -/
def FitsPath (text : List Char) : Prop :=
  ∀ character ∈ text, character ≠ ';' ∧ (isBlank character = true → character = ' ')

instance (text : List Char) : Decidable (FitsPath text) :=
  List.decidableBAll _ text

theorem pathCharacters_escapeSpaces_iff {text : List Char} :
    pathCharacters (escapeSpaces text) = escapeSpaces text ↔ FitsPath text := by
  unfold FitsPath
  induction text with
  | nil => simp [escapeSpaces]
  | cons character rest inductionHypothesis =>
      rw [List.forall_mem_cons]
      by_cases space : character = ' '
      · subst space
        simp [escapeSpaces_space, inductionHypothesis]
      · rw [escapeSpaces_cons space,
          pathCharacters_cons fun more _ => escapeSpaces_ne_space rest more]
        cases blank : isBlank character with
        | true => simp [space]
        | false =>
            by_cases semicolon : character = ';'
            · simp [semicolon]
            · simp [semicolon, inductionHypothesis]

namespace Token

theorem toList_raw_path (text : String) :
    (Token.path text).raw.toList = '@' :: escapeSpaces text.toList :=
  String.toList_ofList

/-- A path whose text fits is read as one token in front of a tail, unless it ends with a backslash
that takes the tail with it. -/
theorem first?_path_of_fits {text : String} (nonempty : text ≠ "") (fits : FitsPath text.toList)
    {tail : List Char} (apart : StartsApart tail)
    (ends : (Token.path text).EscapesSpace → tail = []) :
    first? ((Token.path text).raw.toList ++ tail) =
      some (.token (.path text) (Token.path text).raw.toList.length) := by
  have whole := pathCharacters_escapeSpaces_iff.mpr fits
  have someCharacters : escapeSpaces text.toList ≠ [] :=
    Text.escapeSpaces_ne_nil (by simpa using nonempty)
  have written : pathCharacters (escapeSpaces text.toList ++ tail) = escapeSpaces text.toList := by
    have again := pathCharacters_append apart (escapeSpaces text.toList)
    rw [whole] at again
    refine again fun last => ends ⟨rfl, ?_⟩
    rw [toList_raw_path, List.getLast?_cons_of_ne_nil someCharacters]
    exact last
  rw [toList_raw_path, List.cons_append, first?_at]
  simp only [LexicalRule.path, written, if_neg someCharacters, Text.unescapeSpaces_escapeSpaces,
    String.ofList_toList, List.length_cons]

/-- The text of a path that begins a line fits. -/
theorem fitsPath_of_first? {text : String} {tail : List Char}
    (applies : first? ((Token.path text).raw.toList ++ tail) =
      some (.token (.path text) (Token.path text).raw.toList.length)) : FitsPath text.toList := by
  obtain ⟨rest, split, extent⟩ := first?_path applies ⟨text, rfl⟩
  rw [toList_raw_path, List.cons_append] at split
  rw [toList_raw_path, List.length_cons] at extent
  have begins : pathCharacters rest <+: rest := pathCharacters_begins rest
  have textBegins : escapeSpaces text.toList <+: rest := ⟨tail, (List.cons.inj split).2⟩
  have same : escapeSpaces text.toList = pathCharacters rest :=
    (List.prefix_of_prefix_length_le textBegins begins (by omega)).eq_of_length (by omega)
  have again := pathCharacters_append startsApart_nil rest fun _ => rfl
  rw [List.append_nil, ← same] at again
  exact pathCharacters_escapeSpaces_iff.mp again

end Token

/-- A path in front of tokens that are read from their joined texts. -/
theorem reads_joinRaw_path_iff {text : String} (nonempty : text ≠ "") {tokens : List Token}
    (reads : Reads (Token.joinRaw tokens).toList tokens) :
    Reads (Token.joinRaw (Token.path text :: tokens)).toList (Token.path text :: tokens) ↔
      FitsPath text.toList ∧ (tokens ≠ [] → ¬ (Token.path text).EscapesSpace) := by
  constructor
  · intro whole
    refine ⟨Token.fitsPath_of_first? (reads_joinRaw_cons_iff.mp whole).2.1, fun others => ?_⟩
    exact not_escapesSpace_of_reads whole _ ((mem_dropLast_cons others _).mpr (.inl rfl))
  · rintro ⟨fits, notEscaping⟩
    refine reads_joinRaw_cons_iff.mpr
      ⟨⟨_, _, Token.toList_raw_path text, by decide⟩, ?_, reads⟩
    refine Token.first?_path_of_fits nonempty fits (continuation_apart tokens) fun escaping => ?_
    by_cases others : tokens = []
    · rw [others, continuation_nil]
    · exact absurd escaping (notEscaping others)

/-! ### Paths in the places of other tokens -/

/-- A token of a line may be replaced when its replacement is read in front of the tokens behind it
and does not close a block that a terminator in front of it would open. -/
theorem reads_joinRaw_replace_iff {before after : List Token} {token replacement : Token}
    (reads : Reads (Token.joinRaw (before ++ token :: after)).toList (before ++ token :: after)) :
    Reads (Token.joinRaw (before ++ replacement :: after)).toList (before ++ replacement :: after) ↔
      Reads (Token.joinRaw (replacement :: after)).toList (replacement :: after) ∧
        ((∃ other ∈ before, other.kind = .terminator) →
          ¬ terminatorMarks <:+: replacement.raw.toList) := by
  induction before with
  | nil => simp
  | cons first before inductionHypothesis =>
      rw [List.cons_append] at reads ⊢
      obtain ⟨begins, -, readsRest⟩ := reads_joinRaw_cons_iff.mp reads
      have rest := inductionHypothesis readsRest
      simp only [List.mem_cons, exists_eq_or_imp]
      constructor
      · intro whole
        obtain ⟨-, -, wholeRest⟩ := reads_joinRaw_cons_iff.mp whole
        obtain ⟨readsAfter, freeRest⟩ := rest.mp wholeRest
        refine ⟨readsAfter, ?_⟩
        rintro (isTerminator | inRest)
        · exact free_of_marks_behind_terminator whole isTerminator replacement (by simp)
        · exact freeRest inRest
      · rintro ⟨readsAfter, free⟩
        have wholeRest := rest.mpr ⟨readsAfter, fun inRest => free (.inr inRest)⟩
        refine reads_joinRaw_cons_iff.mpr ⟨begins, ?_, wholeRest⟩
        refine first?_joinRaw_of_reads reads (fun empty => by simp at empty) fun isTerminator => ?_
        have freeBehind := free_of_marks_behind_terminator reads isTerminator
        intro other member
        rw [List.mem_append, List.mem_cons] at member
        rcases member with inFront | rfl | behind
        · exact freeBehind other (List.mem_append_left _ inFront)
        · exact free (.inl isTerminator)
        · exact freeBehind other (List.mem_append_right _ (List.mem_cons_of_mem _ behind))

/-- A path made from a text is read back as this one token exactly when the text has no semicolon
and no blank but spaces. In the place of a token of a line it leaves every token as it is exactly
when, besides, it does not take the space behind it and no terminator in front of it finds its end in
the path. -/
theorem ofText_path_iff {text : String} (nonempty : text ≠ "") :
    (ofText (Token.path text).raw = complete [Token.path text] ↔ FitsPath text.toList) ∧
    ∀ before token after,
      ofText (Token.joinRaw (before ++ token :: after)) = complete (before ++ token :: after) →
      (ofText (Token.joinRaw (before ++ Token.path text :: after)) =
          complete (before ++ Token.path text :: after) ↔
        FitsPath text.toList ∧ (after ≠ [] → ¬ (Token.path text).EscapesSpace) ∧
          ((∃ other ∈ before, other.kind = .terminator) →
            ¬ terminatorMarks <:+: (Token.path text).raw.toList)) := by
  constructor
  · have readsNothing : Reads (Token.joinRaw []).toList [] := .done rfl
    have alone := reads_joinRaw_path_iff nonempty readsNothing
    rw [show Token.joinRaw [Token.path text] = (Token.path text).raw from rfl] at alone
    exact (ofCharacters_eq_iff.trans alone).trans (and_iff_left nofun)
  · intro before token after line
    have reads : Reads (Token.joinRaw (before ++ token :: after)).toList (before ++ token :: after) :=
      ofCharacters_eq_iff.mp line
    have readsAfter : Reads (Token.joinRaw after).toList after :=
      (reads_joinRaw_cons_iff.mp ((reads_joinRaw_replace_iff reads).mp reads).1).2.2
    refine ofCharacters_eq_iff.trans ((reads_joinRaw_replace_iff reads).trans ?_)
    rw [reads_joinRaw_path_iff nonempty readsAfter, and_assoc]

theorem ofText_path_of_directory :
    let directory := Token.path "my dir/\\ü"
    let before := [Token.literal "include"]
    let after := [Token.string "x"]
    "my dir/\\ü" ≠ "" ∧
      ofText (Token.joinRaw (before ++ ⟨.variable "ORIGIN", "$ORIGIN"⟩ :: after)) =
        complete (before ++ ⟨.variable "ORIGIN", "$ORIGIN"⟩ :: after) ∧
      ofText directory.raw = complete [directory] ∧
      ofText (Token.joinRaw (before ++ directory :: after)) =
        complete (before ++ directory :: after) := by
  intro directory before after
  have nonempty : "my dir/\\ü" ≠ "" := by decide
  have line : ofText (Token.joinRaw (before ++ ⟨.variable "ORIGIN", "$ORIGIN"⟩ :: after)) =
      complete (before ++ ⟨.variable "ORIGIN", "$ORIGIN"⟩ :: after) := by
    have tokens : (ofText "include $ORIGIN \"x\"").tokens =
        before ++ ⟨.variable "ORIGIN", "$ORIGIN"⟩ :: after := by
      decide +kernel
    rw [← tokens]
    exact scan_eq_complete_of_succeeded (by decide +kernel)
  refine ⟨nonempty, line, (ofText_path_iff nonempty).1.mpr (by decide +kernel), ?_⟩
  exact ((ofText_path_iff nonempty).2 before _ after line).mpr
    ⟨by decide +kernel, fun _ => by decide +kernel, by simp [before, Token.literal]⟩

/-- A directory whose name has a semicolon is read back as a shorter path, a separator and a
word. -/
theorem ofText_path_with_semicolon :
    ¬ ∀ text : String, text ≠ "" →
      ofText (Token.path text).raw = complete [Token.path text] := by
  intro allReadBack
  have tokens := congrArg Tokenization.tokens (allReadBack "a;b" (by decide))
  have split : (ofText (Token.path "a;b").raw).tokens =
      [Token.path "a", ⟨.separator, ";"⟩, Token.literal "b"] := by
    decide +kernel
  exact absurd (split.symm.trans tokens) (by decide)

end MachineConsole
