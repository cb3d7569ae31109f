import MachineConsole.Proofs.Lexing.Lines
import MachineConsole.Session.Store

/-!
Contract: reading a block of lines.

Owns:
- a bare word in front of a space or a line feed is read as it is read alone;
- `openings`, the lines that open a block for a name;
- a block whose marks stand apart is one logical line of a script, and is read as a text, which is
  the lines between them.
-/

namespace MachineConsole

open LexicalRule Tokenization
open Text (isBlank trimStart broken broken_cons)
open Script (Assembly turnsBlock beginsWithTerminator blockLine)

/-! ### Marks in joined lines -/

namespace Text

theorem not_infix_broken {lines : List String}
    (free : ∀ line ∈ lines, ¬ terminatorMarks <:+: line.toList) :
    ¬ terminatorMarks <:+: broken lines := by
  induction lines with
  | nil => exact fun within => absurd (List.infix_nil.mp within) (by decide)
  | cons line rest inductionHypothesis =>
      have restFree := inductionHypothesis fun other member =>
        free other (List.mem_cons_of_mem line member)
      rw [broken_cons]
      intro within
      have inLine : terminatorMarks <:+: line.toList ++ broken rest := by
        have behindNothing : terminatorMarks <:+: [] ++ '\n' :: (line.toList ++ broken rest) :=
          within
        cases infix_of_infix_append_gap (by decide) lineFeed_mem_gaps behindNothing with
        | inl empty => exact absurd (List.infix_nil.mp empty) (by decide)
        | inr behind => exact behind
      cases rest with
      | nil =>
          rw [show broken [] = [] from rfl, List.append_nil] at inLine
          exact free line List.mem_cons_self inLine
      | cons second more =>
          rw [broken_cons] at inLine restFree
          cases infix_of_infix_append_gap (by decide) lineFeed_mem_gaps inLine with
          | inl here => exact free line List.mem_cons_self here
          | inr later => exact restFree (List.infix_cons later)

theorem mem_broken {lines : List String} {character : Char} (member : character ∈ broken lines) :
    character = '\n' ∨ ∃ line ∈ lines, character ∈ line.toList := by
  obtain ⟨line, inLines, inLine⟩ := List.mem_flatMap.mp member
  cases List.mem_cons.mp inLine with
  | inl isBreak => exact Or.inl isBreak
  | inr inside => exact Or.inr ⟨line, inLines, inside⟩

theorem mem_join {lines : List String} {character : Char}
    (member : character ∈ (join "\n" lines).toList) :
    character = '\n' ∨ ∃ line ∈ lines, character ∈ line.toList := by
  cases lines with
  | nil => exact absurd member (by simp [join])
  | cons line rest =>
      rw [toList_join_cons] at member
      cases List.mem_append.mp member with
      | inl here => exact Or.inr ⟨line, List.mem_cons_self, here⟩
      | inr later =>
          obtain isBreak | ⟨other, inRest, inside⟩ := mem_broken later
          · exact Or.inl isBreak
          · exact Or.inr ⟨other, List.mem_cons_of_mem line inRest, inside⟩

end Text

/-! ### The text of a block -/

/-- A block ends at the first three marks, which a gap keeps apart from what is in front of them. -/
theorem untilTerminator?_append {front : List Char} {gap : Char} (isGap : gap ∈ gaps)
    (free : ¬ terminatorMarks <:+: front) (after : List Char) :
    untilTerminator? (front ++ gap :: (terminatorMarks ++ after)) = some (front ++ [gap]) := by
  have apart := startsApart_cons isGap (terminatorMarks ++ after)
  induction front with
  | nil =>
      have notMark : ∀ gap ∈ gaps, gap ≠ '\x22' := forall_mem_gaps (by decide) (by decide)
      rw [List.nil_append, untilTerminator?.eq_3 _ _ fun _ same => absurd same (notMark gap isGap)]
      rfl
  | cons character rest inductionHypothesis =>
      have notHere (behind : List Char) (isMark : character = '\x22')
          (follows : rest ++ gap :: (terminatorMarks ++ after) = '\x22' :: '\x22' :: behind) :
          False := by
        have begins : terminatorMarks <+: (character :: rest) ++ gap :: (terminatorMarks ++ after) :=
          ⟨behind, by rw [List.cons_append, follows, isMark]; rfl⟩
        exact free (begins_of_begins_append (by decide) apart begins).isInfix
      rw [List.cons_append, untilTerminator?.eq_3 _ _ notHere,
        inductionHypothesis fun within => free (List.infix_cons within)]
      rfl

theorem dropTrailingBreak_append {text : List Char} (noReturn : '\r' ∉ text) :
    dropTrailingBreak (text ++ ['\n']) = text := by
  unfold dropTrailingBreak
  rw [List.reverse_append, List.reverse_singleton, List.singleton_append]
  split
  · next before reversed =>
      have last : '\r' ∈ text.reverse := by simp [(List.cons.inj reversed).2]
      exact absurd (List.mem_reverse.mp last) noReturn
  · next before _ reversed =>
      rw [← (List.cons.inj reversed).2, List.reverse_reverse]
  · next noBreak => exact absurd rfl (noBreak _)

/-- The breaks next to the marks are not part of the text. -/
theorem dropBreaks_broken {lines : List String} (noReturn : ∀ line ∈ lines, '\r' ∉ line.toList) :
    dropTrailingBreak (dropLeadingBreak (broken lines ++ ['\n'])) =
      (Text.join "\n" lines).toList := by
  cases lines with
  | nil => rfl
  | cons line rest =>
      have joined : dropLeadingBreak (broken (line :: rest) ++ ['\n']) =
          (Text.join "\n" (line :: rest)).toList ++ ['\n'] := by
        rw [broken_cons, Text.toList_join_cons]
        rfl
      rw [joined]
      apply dropTrailingBreak_append
      intro member
      cases Text.mem_join member with
      | inl isBreak => exact absurd isBreak (by decide)
      | inr inLine =>
          obtain ⟨other, inLines, inside⟩ := inLine
          exact noReturn other inLines inside

/-- A block with its marks on lines of their own is read as the text of the lines between them. -/
theorem first?_block {lines : List String}
    (free : ∀ line ∈ lines, ¬ terminatorMarks <:+: line.toList)
    (noReturn : ∀ line ∈ lines, '\r' ∉ line.toList) :
    first? (terminatorMarks ++ (broken lines ++ '\n' :: terminatorMarks)) =
      some (.token (.string (Text.join "\n" lines)) ((broken lines).length + 7)) := by
  have closed := untilTerminator?_append lineFeed_mem_gaps (Text.not_infix_broken free) []
  rw [List.append_nil] at closed
  have isBlock := block_eq_some_iff.mpr
    ⟨broken lines ++ '\n' :: terminatorMarks, _, rfl, closed, rfl⟩
  rw [dropBreaks_broken noReturn, String.ofList_toList, List.length_append] at isBlock
  unfold terminatorMarks at isBlock ⊢
  rw [List.cons_append, first?_quotationMark, List.findSome?_cons]
  simp only [List.cons_append, List.nil_append] at isBlock ⊢
  rw [isBlock]
  rfl

/-! ### Words in front of a block -/

/-- A bare word that is read as one: as a number or a truth value, some are not. -/
structure IsBareWord (name : String) : Prop where
  characters : ∀ character ∈ name.toList, isWordCharacter character = true
  succeeded : (Tokenization.ofText name).succeeded = true
  tokens : (Tokenization.ofText name).tokens = [Token.literal name]

instance (name : String) : Decidable (IsBareWord name) :=
  decidable_of_iff
    (name.toList.all isWordCharacter = true ∧
      (Tokenization.ofText name).succeeded = true ∧
        (Tokenization.ofText name).tokens = [Token.literal name])
    ⟨fun all => ⟨List.all_eq_true.mp all.1, all.2.1, all.2.2⟩,
      fun bare => ⟨List.all_eq_true.mpr bare.characters, bare.succeeded, bare.tokens⟩⟩

namespace IsBareWord

variable {name : String}

theorem reads (bare : IsBareWord name) : Reads name.toList [Token.literal name] :=
  succeeded_iff_reads.mp ⟨bare.succeeded, bare.tokens⟩

theorem not_mem (bare : IsBareWord name) {character : Char}
    (other : isWordCharacter character = false) : character ∉ name.toList := by
  intro member
  rw [bare.characters character member] at other
  cases other

theorem first? (bare : IsBareWord name) :
    LexicalRule.first? name.toList = some (.token (.literal name) name.toList.length) := by
  have joined : (Token.joinRaw [Token.literal name]).toList = name.toList := rfl
  have reads : Reads (Token.joinRaw [Token.literal name]).toList [Token.literal name] := by
    rw [joined]
    exact bare.reads
  have found := (reads_joinRaw_cons_iff.mp reads).2.1
  rw [show continuation [] = [] from rfl, List.append_nil] at found
  exact found

/-- The word is read in front of a gap as it is read alone. -/
theorem reads_append (bare : IsBareWord name) {gap : Char} (isGap : gap ∈ gaps)
    {behind : List Char} {tokens : List Token} (reads : Reads behind tokens) :
    Reads (name.toList ++ gap :: behind) (Token.literal name :: tokens) := by
  have admits : Admits (.literal name) (name.toList.take name.toList.length) (gap :: behind) :=
    ⟨startsApart_cons isGap behind, nofun, nofun, nofun⟩
  have applies := first?_take_append bare.first? admits
  obtain ⟨first, more, begins, notBlank⟩ :=
    bare.reads.raw_begins (Token.literal name) List.mem_cons_self
  have nameBegins : name.toList = first :: more := begins
  have trimmed : trimStart (name.toList ++ gap :: behind) = name.toList ++ gap :: behind := by
    rw [nameBegins]
    exact Tokenization.trimStart_of_not_blank _ notBlank
  have gapBlank : ∀ gap ∈ gaps, isBlank gap = true := forall_mem_gaps (by decide) (by decide)
  have skipped : trimStart (gap :: behind) = trimStart behind :=
    List.dropWhile_cons_of_pos (gapBlank gap isGap)
  have behindGap : Reads (gap :: behind) tokens := reads.of_trimStart_eq skipped
  rw [List.take_length, ← trimmed] at applies
  have afterName : Reads ((trimStart (name.toList ++ gap :: behind)).drop name.toList.length)
      tokens := by
    rw [trimmed, List.drop_left]
    exact behindGap
  have token := Reads.token applies afterName
  rw [trimmed, List.take_left, String.ofList_toList] at token
  exact token

end IsBareWord

/-! ### Lines that store something -/

theorem isBareWord_commandName (kind : StoreKind) : IsBareWord kind.commandName := by
  match kind with
  | .variables => decide +kernel
  | .macros => decide +kernel

/-- The beginning of a line that stores something under a name. -/
def storeWords (kind : StoreKind) (name : String) : String :=
  kind.commandName ++ " " ++ name

variable {name : String} (bare : IsBareWord name)
include bare

theorem reads_storeWords (kind : StoreKind) :
    Reads (storeWords kind name).toList [Token.literal kind.commandName, Token.literal name] := by
  have reads := (isBareWord_commandName kind).reads_append space_mem_gaps bare.reads
  simpa [storeWords] using reads

theorem reads_storeWords_append (kind : StoreKind) {gap : Char} (isGap : gap ∈ gaps)
    {behind : List Char} {tokens : List Token} (reads : Reads behind tokens) :
    Reads ((storeWords kind name).toList ++ gap :: behind)
      (Token.literal kind.commandName :: Token.literal name :: tokens) := by
  have nameReads := bare.reads_append isGap reads
  have wordReads := (isBareWord_commandName kind).reads_append space_mem_gaps nameReads
  simpa [storeWords] using wordReads

/-- Marks that open a block in an input line are a token of their own. -/
theorem reads_opening (kind : StoreKind) :
    Reads ((storeWords kind name).toList ++ ' ' :: terminatorMarks)
      [Token.literal kind.commandName, Token.literal name,
        ⟨.terminator, String.ofList terminatorMarks⟩] := by
  have marks : Reads terminatorMarks [⟨.terminator, String.ofList terminatorMarks⟩] :=
    succeeded_iff_reads.mp (by decide +kernel)
  exact reads_storeWords_append bare kind space_mem_gaps marks

/-- The whole block is one text. -/
theorem reads_block (kind : StoreKind) {gap : Char} (isGap : gap ∈ gaps) {lines : List String}
    (free : ∀ line ∈ lines, ¬ terminatorMarks <:+: line.toList)
    (noReturn : ∀ line ∈ lines, '\r' ∉ line.toList) :
    ∃ raw, Reads ((storeWords kind name).toList ++
        gap :: (terminatorMarks ++ (broken lines ++ '\n' :: terminatorMarks)))
      [Token.literal kind.commandName, Token.literal name,
        ⟨.string (Text.join "\n" lines), raw⟩] := by
  have applies := first?_block free noReturn
  have length : (terminatorMarks ++ (broken lines ++ '\n' :: terminatorMarks)).length =
      (broken lines).length + 7 := by
    simp [terminatorMarks]
  have nothingBehind : Reads ((terminatorMarks ++
      (broken lines ++ '\n' :: terminatorMarks)).drop ((broken lines).length + 7)) [] := by
    rw [← length, List.drop_length]
    exact .done rfl
  exact ⟨_, reads_storeWords_append bare kind isGap (.token applies nothingBehind)⟩

/-! ### Lines that open a block -/

/-- The lines that open a block for a name: the mark may stand behind the name or on a line of its
own. -/
def openings (kind : StoreKind) (name : String) : List (List String) :=
  [[storeWords kind name ++ " " ++ blockLine], [storeWords kind name, blockLine]]

theorem not_mem_storeWords (kind : StoreKind) {character : Char}
    (other : isWordCharacter character = false) (notSpace : character ≠ ' ') :
    character ∉ (storeWords kind name).toList := by
  have notName := bare.not_mem other
  have notCommand := (isBareWord_commandName kind).not_mem other
  simp [storeWords, notName, notCommand, notSpace]

theorem storeWords_free (kind : StoreKind) :
    ¬ terminatorMarks <:+: (storeWords kind name).toList := by
  intro within
  have inside : '\x22' ∈ (storeWords kind name).toList := within.subset (by decide)
  exact not_mem_storeWords bare kind (by decide) (by decide) inside

theorem storeWords_isUnbroken (kind : StoreKind) : Text.IsUnbroken (storeWords kind name) :=
  ⟨not_mem_storeWords bare kind (by decide) (by decide),
    not_mem_storeWords bare kind (by decide) (by decide)⟩

theorem turnsBlock_openingLine (kind : StoreKind) :
    turnsBlock (storeWords kind name ++ " " ++ blockLine) = true := by
  have noMark : '\x22' ∉ (storeWords kind name ++ " ").toList := by
    have notInWords : '\x22' ∉ (storeWords kind name).toList :=
      not_mem_storeWords bare kind (by decide) (by decide)
    simp [notInWords]
  unfold turnsBlock
  rw [String.toList_append, Script.terminators_of_not_mem noMark]
  decide

omit bare in
theorem beginsWithTerminator_openingLine (kind : StoreKind) (name : String) :
    beginsWithTerminator (storeWords kind name ++ " " ++ blockLine) = false := by
  match kind with
  | .variables =>
      have notBlank : isBlank 's' = false := by decide
      simp [storeWords, StoreKind.commandName, beginsWithTerminator, trimStart, notBlank,
        List.isPrefixOf]
  | .macros =>
      have notBlank : isBlank 'm' = false := by decide
      simp [storeWords, StoreKind.commandName, beginsWithTerminator, trimStart, notBlank,
        List.isPrefixOf]

/-- After its opening lines a block is open in a script. -/
theorem foldl_opening {kind : StoreKind} {opening : List String}
    (isOpening : opening ∈ openings kind name) :
    opening.foldl Assembly.add ⟨[], none⟩ = ⟨[], some (Text.join "\n" opening)⟩ := by
  cases isOpening with
  | head =>
      have turns := turnsBlock_openingLine bare kind
      have notFirst := beginsWithTerminator_openingLine kind name
      rw [List.foldl_cons, List.foldl_nil]
      unfold Assembly.add
      simp only [turns, notFirst]
      rfl
  | tail _ isSecond =>
      cases List.mem_singleton.mp isSecond
      have notTurns := Script.turnsBlock_of_free (storeWords_free bare kind)
      have first : Assembly.add ⟨[], none⟩ (storeWords kind name) =
          ⟨[storeWords kind name], none⟩ := by
        unfold Assembly.add
        rw [notTurns]
        rfl
      have turns : turnsBlock blockLine = true := by decide
      have beginsBlock : beginsWithTerminator blockLine = true := by decide
      rw [List.foldl_cons, first, List.foldl_cons, List.foldl_nil]
      unfold Assembly.add
      simp only [turns, beginsBlock]
      rfl

theorem opening_isUnbroken {kind : StoreKind} {opening : List String}
    (isOpening : opening ∈ openings kind name) : ∀ line ∈ opening, Text.IsUnbroken line := by
  have words := storeWords_isUnbroken bare kind
  have mark : Text.IsUnbroken blockLine := ⟨by decide, by decide⟩
  have together : Text.IsUnbroken (storeWords kind name ++ " " ++ blockLine) := by
    unfold Text.IsUnbroken at words mark ⊢
    simp [words, mark]
  cases isOpening with
  | head =>
      intro line member
      cases List.mem_singleton.mp member
      exact together
  | tail _ isSecond =>
      cases List.mem_singleton.mp isSecond
      intro line member
      cases member with
      | head => exact words
      | tail _ isMark =>
          cases List.mem_singleton.mp isMark
          exact mark

omit bare in
/-- In a text a gap stands between the name and the mark. -/
theorem toList_join_opening {kind : StoreKind} {opening : List String}
    (isOpening : opening ∈ openings kind name) :
    ∃ gap ∈ gaps, (Text.join "\n" opening).toList =
      (storeWords kind name).toList ++ gap :: terminatorMarks := by
  cases isOpening with
  | head => exact ⟨' ', space_mem_gaps, by simp [Text.join, blockLine]⟩
  | tail _ isSecond =>
      cases List.mem_singleton.mp isSecond
      exact ⟨'\n', lineFeed_mem_gaps, by simp [Text.join, blockLine]⟩

omit bare in
theorem opening_ne_nil {kind : StoreKind} {opening : List String}
    (isOpening : opening ∈ openings kind name) : opening ≠ [] := by
  rintro rfl
  simp [openings] at isOpening

variable {kind : StoreKind} {opening body : List String}

/-- A script that opens a block, gives its lines and closes it is one logical line. -/
theorem logicalLines_opened (isOpening : opening ∈ openings kind name)
    (unbroken : ∀ line ∈ body, Text.IsUnbroken line)
    (free : ∀ line ∈ body, ¬ terminatorMarks <:+: line.toList) :
    Script.logicalLines (Text.join "\n" (opening ++ body ++ [blockLine])) =
      [Text.join "\n" (opening ++ body ++ [blockLine])] := by
  apply Script.logicalLines_block (opening_ne_nil isOpening) (foldl_opening bare isOpening) _ free
  intro line member
  cases List.mem_append.mp member with
  | inl inOpening => exact opening_isUnbroken bare isOpening line inOpening
  | inr inBody => exact unbroken line inBody

/-- That logical line stores the lines of the block. -/
theorem reads_opened (isOpening : opening ∈ openings kind name)
    (unbroken : ∀ line ∈ body, Text.IsUnbroken line)
    (free : ∀ line ∈ body, ¬ terminatorMarks <:+: line.toList) :
    ∃ raw, Reads (Text.join "\n" (opening ++ body ++ [blockLine])).toList
      [Token.literal kind.commandName, Token.literal name,
        ⟨.string (Text.join "\n" body), raw⟩] := by
  obtain ⟨gap, isGap, opened⟩ := toList_join_opening isOpening
  have text : (Text.join "\n" (opening ++ body ++ [blockLine])).toList =
      (storeWords kind name).toList ++
        gap :: (terminatorMarks ++ (broken body ++ '\n' :: terminatorMarks)) := by
    rw [List.append_assoc, Text.toList_join_append (opening_ne_nil isOpening), opened,
      Text.broken_append]
    simp [broken, blockLine]
  rw [text]
  exact reads_block bare kind isGap free fun line member => (unbroken line member).2

end MachineConsole
