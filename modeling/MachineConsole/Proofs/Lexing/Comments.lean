import Mathlib.Data.List.TakeWhile
import MachineConsole.Proofs.Lexing.Lines

/-!
Contract: how far a comment goes.

Owns:
- `OpensComment`, what a comment begins with, and `commentLine`;
- a text that begins with a comment is that comment and nothing else, line breaks included;
- a block that was opened only grows, so it belongs to the logical line that it was opened in;
- `comment_takesFollowingLines`: what follows the line of a comment is read on its own only if it is
  blank, and a block behind that line is part of the comment.
-/

namespace MachineConsole

open LexicalRule Tokenization
open Text (isBlank isAllBlank trimStart)

/-! ### Comments alone -/

/-- A number sign in front of some text, or a colon that no equals sign follows. -/
def OpensComment (opener : Char) (words : List Char) : Prop :=
  opener = '#' ∨ (opener = ':' ∧ words.head? ≠ some '=')

instance (opener : Char) (words : List Char) : Decidable (OpensComment opener words) :=
  inferInstanceAs (Decidable (_ ∨ (_ ∧ _)))

namespace OpensComment

variable {opener : Char} {words : List Char}

theorem append (opens : OpensComment opener words) (behind : List Char) :
    OpensComment opener (words ++ '\n' :: behind) := by
  refine opens.imp_right fun ⟨colon, noEquals⟩ => ⟨colon, ?_⟩
  cases words with
  | nil => simp
  | cons first more => exact noEquals

theorem isBlank_opener (opens : OpensComment opener words) : isBlank opener = false := by
  rcases opens with rfl | ⟨rfl, -⟩ <;> rfl

/-- The rule for comments is the first to apply, and takes everything. -/
theorem first?_eq (opens : OpensComment opener words) : first? (opener :: words) =
    some (.token (.comment (String.ofList (Text.trim words))) (words.length + 1)) := by
  rcases opens with rfl | ⟨rfl, noEquals⟩
  · rw [first?_cons, show candidates '#' = [comment] from rfl]
    rfl
  · have notConditional : conditionalColon (':' :: words) = none := by
      refine Option.eq_none_iff_forall_ne_some.mpr ?_
      intro reading present
      obtain ⟨behind, split⟩ := (mark_eq_some_iff.mp present).1
      obtain rfl : '=' :: behind = words := (List.cons.inj split).2
      exact noEquals rfl
    rw [first?_cons, show candidates ':' = [conditionalColon, comment] from rfl,
      List.findSome?_cons, notConditional]
    rfl

theorem ofText_eq (opens : OpensComment opener words) {text : String}
    (begins : text.toList = opener :: words) :
    ofText text = complete [⟨.comment (String.ofList (Text.trim words)), text⟩] := by
  have whole := ofCharacters_single opens.isBlank_opener opens.first?_eq
  rwa [← begins, String.ofList_toList] at whole

end OpensComment

/-! ### Comments in front of other lines -/

/-- The line of a comment. -/
def commentLine (opener : Char) (words : String) : String :=
  String.ofList (opener :: words.toList)

theorem toList_commentLine (opener : Char) (words : String) :
    (commentLine opener words).toList = opener :: words.toList :=
  String.toList_ofList

/-- Whatever follows the line of a comment, all of it is one comment. -/
theorem ofText_of_commentLine {opener : Char} {words : String}
    (opens : OpensComment opener words.toList) {text : String}
    (begins : (commentLine opener words).toList ++ ['\n'] <+: text.toList) :
    ∃ comment, ofText text = complete [⟨.comment comment, text⟩] := by
  obtain ⟨behind, split⟩ := begins
  rw [toList_commentLine, List.cons_append, List.cons_append, List.append_assoc] at split
  exact ⟨_, (opens.append behind).ofText_eq split.symm⟩

/-- A text is read as a comment and then as another text, with the same characters left over and
the same fault. -/
def ReadsAsCommentThen (text rest : String) : Prop :=
  ∃ comment raw, (ofText text).tokens = ⟨.comment comment, raw⟩ :: (ofText rest).tokens ∧
    (ofText text).unmatched = (ofText rest).unmatched ∧ (ofText text).fault = (ofText rest).fault

theorem trimStart_eq_nil_iff {text : List Char} : trimStart text = [] ↔ text.all isBlank = true := by
  unfold trimStart
  rw [List.dropWhile_eq_nil_iff, List.all_eq_true]

/-- A text is blank exactly when it has no tokens and nothing of it is left over. -/
theorem ofText_eq_complete_nil_iff {text : String} :
    ofText text = complete [] ↔ isAllBlank text = true := by
  unfold ofText isAllBlank
  rw [ofCharacters_eq_iff, ← trimStart_eq_nil_iff]
  constructor
  · rintro ⟨blank⟩
    exact blank
  · exact .done

theorem readsAsCommentThen_iff {opener : Char} {words : String}
    (opens : OpensComment opener words.toList) (rest : String) :
    ReadsAsCommentThen (commentLine opener words ++ "\n" ++ rest) rest ↔
      isAllBlank rest = true := by
  obtain ⟨comment, whole⟩ : ∃ comment, ofText (commentLine opener words ++ "\n" ++ rest) =
      complete [⟨.comment comment, commentLine opener words ++ "\n" ++ rest⟩] :=
    ofText_of_commentLine opens ⟨rest.toList, by simp⟩
  unfold ReadsAsCommentThen
  rw [whole, ← ofText_eq_complete_nil_iff]
  constructor
  · rintro ⟨_, _, tokens, unmatched, -⟩
    have noTokens : (ofText rest).tokens = [] := (List.cons.inj tokens).2.symm
    have nothingLeft : (ofText rest).rest = [] := List.length_eq_zero_iff.mp unmatched.symm
    have success : (ofText rest).succeeded = true := List.isEmpty_iff.mpr nothingLeft
    have complete : ofText rest = complete (ofText rest).tokens :=
      scan_eq_complete_of_succeeded success
    rwa [noTokens] at complete
  · intro blank
    rw [blank]
    exact ⟨comment, _, rfl, rfl, rfl⟩

/-! ### Blocks of a script -/

namespace Script

namespace Assembly

/-- Some line of the assembly, finished or not, begins with these characters. -/
def HoldsBeginning (assembly : Assembly) (start : List Char) : Prop :=
  (∃ line ∈ assembly.finished, start <+: line.toList) ∨
    ∃ block ∈ assembly.open?, start <+: block.toList

variable {assembly : Assembly} {start : List Char}

/-- Lines are extended at their ends only. -/
theorem HoldsBeginning.add (holds : assembly.HoldsBeginning start) (line : String) :
    (assembly.add line).HoldsBeginning start := by
  obtain ⟨finished, open?⟩ := assembly
  have extended {front : String} (begins : start <+: front.toList) :
      start <+: (front ++ "\n" ++ line).toList := by
    rw [String.toList_append, String.toList_append, List.append_assoc]
    exact begins.trans (List.prefix_append _ _)
  unfold Assembly.add
  cases open? with
  | some block =>
      dsimp only
      rcases holds with ⟨other, member, begins⟩ | ⟨_, ⟨⟩, begins⟩
      · split
        · exact .inl ⟨other, List.mem_cons_of_mem _ member, begins⟩
        · exact .inl ⟨other, member, begins⟩
      · split
        · exact .inl ⟨_, List.mem_cons_self, extended begins⟩
        · exact .inr ⟨_, rfl, extended begins⟩
  | none =>
      obtain ⟨other, member, begins⟩ : ∃ other ∈ finished, start <+: other.toList := by
        rcases holds with held | ⟨_, ⟨⟩, -⟩
        exact held
      dsimp only
      split
      · exact .inl ⟨other, List.mem_cons_of_mem _ member, begins⟩
      · split
        · cases finished with
          | nil => contradiction
          | cons previous earlier =>
              rcases List.mem_cons.mp member with rfl | before
              · exact .inr ⟨_, rfl, extended begins⟩
              · exact .inl ⟨other, before, begins⟩
        · exact .inl ⟨other, member, begins⟩

theorem HoldsBeginning.foldl (lines : List String) (holds : assembly.HoldsBeginning start) :
    (lines.foldl Assembly.add assembly).HoldsBeginning start := by
  induction lines generalizing assembly with
  | nil => exact holds
  | cons line rest inductionHypothesis => exact inductionHypothesis (holds.add line)

theorem HoldsBeginning.mem_lines (holds : assembly.HoldsBeginning start) :
    ∃ line ∈ assembly.lines, start <+: line.toList := by
  unfold Assembly.lines
  rcases holds with ⟨line, member, begins⟩ | ⟨block, isOpen, begins⟩
  · exact ⟨line, List.mem_append_left _ (List.mem_reverse.mpr member), begins⟩
  · exact ⟨block, List.mem_append_right _ (Option.mem_toList.mpr isOpen), begins⟩

end Assembly

/-- The physical line `block` opens a block behind the line `previous`, to which it belongs. -/
structure OpensBlockBehind (text previous block : String) : Prop where
  lines : ∃ before after, Text.lines text = before ++ previous :: block :: after ∧
    (before.foldl Assembly.add ⟨[], none⟩).open? = none
  previousWhole : turnsBlock previous = false
  opens : turnsBlock block = true
  begins : beginsWithTerminator block = true

/-- A block that begins with its mark is joined to the line in front of it. -/
theorem OpensBlockBehind.mem_logicalLines {text previous block : String}
    (opensBehind : OpensBlockBehind text previous block) :
    ∃ line ∈ logicalLines text, (previous ++ "\n" ++ block).toList <+: line.toList := by
  obtain ⟨⟨before, after, split, nothingOpen⟩, whole, opens, begins⟩ := opensBehind
  unfold logicalLines
  rw [split, List.foldl_append, List.foldl_cons, List.foldl_cons]
  generalize before.foldl Assembly.add ⟨[], none⟩ = assembly at nothingOpen
  obtain ⟨finished, open?⟩ := assembly
  obtain rfl : open? = none := nothingOpen
  have joined : Assembly.add (Assembly.add ⟨finished, none⟩ previous) block =
      ⟨finished, some (previous ++ "\n" ++ block)⟩ := by
    simp [Assembly.add, whole, opens, begins]
  rw [joined]
  have holds : Assembly.HoldsBeginning ⟨finished, some (previous ++ "\n" ++ block)⟩
      (previous ++ "\n" ++ block).toList :=
    .inr ⟨_, rfl, List.prefix_refl _⟩
  exact (holds.foldl after).mem_lines

end Script

/-- A comment does not end at its line break. What follows the line of a comment is read on its own
only if it is blank, and a block that a script opens behind that line is part of the comment. -/
theorem comment_takesFollowingLines {opener : Char} {words : String}
    (opens : OpensComment opener words.toList) :
    (∀ rest, ReadsAsCommentThen (commentLine opener words ++ "\n" ++ rest) rest ↔
      isAllBlank rest = true) ∧
    ∀ text block, Script.OpensBlockBehind text (commentLine opener words) block →
      ∃ line ∈ Script.logicalLines text,
        (commentLine opener words ++ "\n" ++ block).toList <+: line.toList ∧
        ∃ comment, ofText line = complete [⟨.comment comment, line⟩] := by
  refine ⟨readsAsCommentThen_iff opens, ?_⟩
  intro text block opensBehind
  obtain ⟨line, member, begins⟩ := opensBehind.mem_logicalLines
  refine ⟨line, member, begins, ofText_of_commentLine opens ?_⟩
  rw [String.toList_append, String.toList_append] at begins
  exact (List.prefix_append _ _).trans begins

theorem comment_takesFollowingLines_block :
    OpensComment ':' " note".toList ∧
      Script.OpensBlockBehind "set x\n: note\n\"\"\"\nabc\n\"\"\"" (commentLine ':' " note")
        "\"\"\"" ∧
      ∃ line ∈ Script.logicalLines "set x\n: note\n\"\"\"\nabc\n\"\"\"",
        (commentLine ':' " note" ++ "\n" ++ "\"\"\"").toList <+: line.toList ∧
        ∃ comment, ofText line = complete [⟨.comment comment, line⟩] := by
  have opens : OpensComment ':' " note".toList := by decide
  have opensBehind : Script.OpensBlockBehind "set x\n: note\n\"\"\"\nabc\n\"\"\""
      (commentLine ':' " note") "\"\"\"" :=
    ⟨⟨["set x"], ["abc", "\"\"\""], by decide +kernel, by decide +kernel⟩, by decide +kernel,
      by decide +kernel, by decide +kernel⟩
  exact ⟨opens, opensBehind, (comment_takesFollowingLines opens).2 _ _ opensBehind⟩

/-- The line behind a comment is not read as the word that it holds. -/
theorem comment_hides_next_line :
    ¬ ReadsAsCommentThen (commentLine '#' "c" ++ "\n" ++ "x") "x" := by
  rintro ⟨comment, raw, tokens, -⟩
  have sameLength := congrArg List.length tokens
  rw [List.length_cons] at sameLength
  exact absurd sameLength (by decide +kernel)

end MachineConsole
