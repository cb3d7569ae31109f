import Mathlib.Algebra.Ring.Parity
import Mathlib.Data.List.Basic
import Mathlib.Data.List.Induction
import MachineConsole.Proofs.Lexing.Lines
import MachineConsole.Proofs.Text.Pieces

/-!
Contract: logical lines as groups of physical lines.

Owns:
- `EndsInsideBlock`, which says of physical lines, without assembling them, that a block is open
  behind them;
- `Assembly.Grouped`, the invariant of assembling: what is finished and what is open are joined
  groups of the physical lines so far, in their order, each of which would be assembled alike alone;
- `logicalLines_regroup`: nothing is lost, and no logical line but the last is an unclosed block.

Does not own: what a logical line is read as.
-/

namespace MachineConsole

namespace Text

/-! ### Joined groups -/

theorem toList_join (lines : List String) : (join "\n" lines).toList = (broken lines).tail := by
  cases lines with
  | nil => rfl
  | cons line rest => exact toList_join_cons line rest

theorem broken_join {group : List String} (nonempty : group ≠ []) :
    broken [join "\n" group] = broken group := by
  obtain ⟨line, rest, rfl⟩ := List.exists_cons_of_ne_nil nonempty
  rw [broken_cons, toList_join_cons, broken_cons]
  exact congrArg _ (List.append_nil _)

theorem join_map_join {groups : List (List String)} (nonempty : ∀ group ∈ groups, group ≠ []) :
    join "\n" (groups.map (join "\n")) = join "\n" groups.flatten := by
  have sameBroken : broken (groups.map (join "\n")) = broken groups.flatten := by
    induction groups with
    | nil => rfl
    | cons group rest inductionHypothesis =>
        rw [List.map_cons, ← List.singleton_append, broken_append,
          broken_join (nonempty group List.mem_cons_self),
          inductionHypothesis fun other member => nonempty other (List.mem_cons_of_mem _ member),
          List.flatten_cons, broken_append]
  apply String.toList_injective
  rw [toList_join, toList_join, sameBroken]

theorem join_concat {group : List String} (nonempty : group ≠ []) (line : String) :
    join "\n" (group ++ [line]) = join "\n" group ++ "\n" ++ line := by
  apply String.toList_injective
  rw [toList_join_append nonempty, broken_cons, String.append_assoc, String.toList_append,
    String.toList_append]
  exact congrArg _ (congrArg _ (List.append_nil _))

/-! ### Characters of physical lines -/

theorem dropCarriageReturn_subset (line : List Char) : dropCarriageReturn line ⊆ line := by
  unfold dropCarriageReturn
  split
  · next before reversed =>
      intro character member
      have inReverse : character ∈ line.reverse := by
        rw [reversed]
        exact List.mem_cons_of_mem _ (List.mem_reverse.mp member)
      exact List.mem_reverse.mp inReverse
  · exact List.Subset.refl _

theorem exists_piece_of_mem_linesOfPieces {parts : List (List Char)} {line : List Char}
    (isLine : line ∈ linesOfPieces parts) : ∃ piece ∈ parts, line ⊆ piece := by
  induction parts using linesOfPieces.induct with
  | case1 => cases isLine
  | case2 =>
      rw [linesOfPieces, if_pos rfl] at isLine
      cases isLine
  | case3 last nonempty =>
      rw [linesOfPieces, if_neg nonempty] at isLine
      exact ⟨line, isLine, List.Subset.refl _⟩
  | case4 piece second rest inductionHypothesis =>
      rcases List.mem_cons.mp isLine with rfl | later
      · exact ⟨piece, List.mem_cons_self, dropCarriageReturn_subset piece⟩
      · obtain ⟨other, member, within⟩ := inductionHypothesis later
        exact ⟨other, List.mem_cons_of_mem _ member, within⟩

/-- Physical lines hold no line break, and no carriage return that the text does not hold. -/
theorem isUnbroken_of_mem_lines {text line : String} (noReturn : '\r' ∉ text.toList)
    (isLine : line ∈ Text.lines text) : IsUnbroken line := by
  obtain ⟨characters, isPart, rfl⟩ := List.mem_map.mp isLine
  obtain ⟨piece, isPiece, within⟩ := exists_piece_of_mem_linesOfPieces isPart
  obtain ⟨noBreak, ofText⟩ := of_mem_pieces isPiece
  unfold IsUnbroken
  rw [String.toList_ofList]
  exact ⟨fun member => noBreak (within member), fun member => noReturn (ofText (within member))⟩

end Text

namespace Script

/-! ### Blocks among physical lines -/

/-- Lines behind which no block is open: single lines and closed blocks, one behind the other. -/
inductive OutsideBlock : List String → Prop
  | start : OutsideBlock []
  | line {before : List String} {line : String} : OutsideBlock before →
      turnsBlock line = false → OutsideBlock (before ++ [line])
  | block {before body : List String} {opening closing : String} : OutsideBlock before →
      turnsBlock opening = true → (∀ line ∈ body, turnsBlock line = false) →
        turnsBlock closing = true → OutsideBlock (before ++ opening :: body ++ [closing])

/-- Lines behind which a block is open that none of them closes. -/
def EndsInsideBlock (lines : List String) : Prop :=
  ∃ before opening body, lines = before ++ opening :: body ∧ OutsideBlock before ∧
    turnsBlock opening = true ∧ ∀ line ∈ body, turnsBlock line = false

theorem outsideBlock_or_endsInsideBlock (lines : List String) :
    OutsideBlock lines ∨ EndsInsideBlock lines := by
  induction lines using List.reverseRecOn with
  | nil => exact .inl .start
  | append_singleton lines line inductionHypothesis =>
      cases turns : turnsBlock line with
      | false =>
          rcases inductionHypothesis with
            outside | ⟨before, opening, body, rfl, outside, opens, free⟩
          · exact .inl (outside.line turns)
          · refine .inr ⟨before, opening, body ++ [line], by simp, outside, opens, ?_⟩
            intro other member
            rcases List.mem_append.mp member with early | late
            · exact free other early
            · rwa [List.mem_singleton.mp late]
      | true =>
          rcases inductionHypothesis with
            outside | ⟨before, opening, body, rfl, outside, opens, free⟩
          · exact .inr ⟨lines, line, [], rfl, outside, turns, nofun⟩
          · exact .inl (outside.block opens free turns)

namespace Assembly

section Steps

variable {finished : List String} {previous block line : String}

/-! What a line does outside of a block, where a block that begins with the mark is put behind the
finished line in front of it, and inside of one. -/

theorem add_line (free : turnsBlock line = false) :
    add ⟨finished, none⟩ line = ⟨line :: finished, none⟩ := by
  unfold add
  rw [free]
  rfl

theorem add_first (turns : turnsBlock line = true) : add ⟨[], none⟩ line = ⟨[], some line⟩ := by
  unfold add
  rw [turns]
  cases beginsWithTerminator line <;> rfl

theorem add_opening (turns : turnsBlock line = true) (words : beginsWithTerminator line = false) :
    add ⟨finished, none⟩ line = ⟨finished, some line⟩ := by
  unfold add
  rw [turns, words]
  rfl

theorem add_behind (turns : turnsBlock line = true) (begins : beginsWithTerminator line = true) :
    add ⟨previous :: finished, none⟩ line = ⟨finished, some (previous ++ "\n" ++ line)⟩ := by
  unfold add
  rw [turns, begins]
  rfl

theorem add_inside (free : turnsBlock line = false) :
    add ⟨finished, some block⟩ line = ⟨finished, some (block ++ "\n" ++ line)⟩ := by
  unfold add
  rw [free]
  rfl

theorem add_closing (turns : turnsBlock line = true) :
    add ⟨finished, some block⟩ line = ⟨(block ++ "\n" ++ line) :: finished, none⟩ := by
  unfold add
  rw [turns]
  rfl

end Steps

/-- A block is open behind a line if one was open in front of it or the line turns, but not both. -/
theorem isSome_open?_add (assembly : Assembly) (line : String) :
    (assembly.add line).open?.isSome = (assembly.open?.isSome ^^ turnsBlock line) := by
  obtain ⟨finished, open?⟩ := assembly
  cases turns : turnsBlock line with
  | false =>
      cases open? with
      | none => rw [add_line turns]; rfl
      | some block => rw [add_inside turns]; rfl
  | true =>
      cases open? with
      | some block => rw [add_closing turns]; rfl
      | none =>
          cases begins : beginsWithTerminator line with
          | false => rw [add_opening turns begins]; rfl
          | true =>
              cases finished with
              | nil => rw [add_first turns]; rfl
              | cons previous earlier => rw [add_behind turns begins]; rfl

theorem isSome_open?_foldl_of_free {lines : List String}
    (free : ∀ line ∈ lines, turnsBlock line = false) (assembly : Assembly) :
    (lines.foldl add assembly).open?.isSome = assembly.open?.isSome := by
  induction lines generalizing assembly with
  | nil => rfl
  | cons line rest inductionHypothesis =>
      rw [List.foldl_cons,
        inductionHypothesis fun other member => free other (List.mem_cons_of_mem _ member),
        isSome_open?_add, free line List.mem_cons_self, Bool.xor_false]

end Assembly

/-- Assembling agrees on which lines are outside of blocks. -/
theorem OutsideBlock.isSome_open? {lines : List String} (outside : OutsideBlock lines) :
    (lines.foldl Assembly.add ⟨[], none⟩).open?.isSome = false := by
  induction outside with
  | start => rfl
  | line _ free closed =>
      rw [List.foldl_concat, Assembly.isSome_open?_add, closed, free]
      rfl
  | block _ opens free closes closed =>
      rw [List.foldl_concat, Assembly.isSome_open?_add, List.foldl_append, List.foldl_cons,
        Assembly.isSome_open?_foldl_of_free free, Assembly.isSome_open?_add, closed, opens, closes]
      rfl

theorem isSome_open?_iff (lines : List String) :
    (lines.foldl Assembly.add ⟨[], none⟩).open?.isSome = true ↔ EndsInsideBlock lines := by
  constructor
  · intro isOpen
    refine (outsideBlock_or_endsInsideBlock lines).resolve_left fun outside => ?_
    rw [outside.isSome_open?] at isOpen
    cases isOpen
  · rintro ⟨before, opening, body, rfl, outside, opens, free⟩
    rw [List.foldl_append, List.foldl_cons, Assembly.isSome_open?_foldl_of_free free,
      Assembly.isSome_open?_add, outside.isSome_open?, opens]
    rfl

/-! ### Groups -/

/-- How often the mark occurs in some physical lines. -/
def marks (lines : List String) : Nat :=
  (lines.map fun line => terminators line.toList).sum

theorem marks_concat (lines : List String) (line : String) :
    marks (lines ++ [line]) = marks lines + terminators line.toList := by
  unfold marks
  rw [List.map_append, List.sum_append]
  exact congrArg _ (Nat.add_zero _)

theorem turnsBlock_iff {line : String} :
    turnsBlock line = true ↔ Odd (terminators line.toList) := by
  rw [Nat.odd_iff]
  exact beq_iff_eq

theorem not_turnsBlock_iff {line : String} :
    turnsBlock line = false ↔ Even (terminators line.toList) := by
  rw [← Nat.not_odd_iff_even, ← turnsBlock_iff, Bool.not_eq_true]

/-- Physical lines that are assembled into one logical line and nothing else. -/
structure IsWhole (group : List String) : Prop where
  nonempty : group ≠ []
  assembled : group.foldl Assembly.add ⟨[], none⟩ = ⟨[Text.join "\n" group], none⟩
  even : Even (marks group)

/-- Physical lines that are assembled into an open block and nothing else. -/
structure IsUnclosed (group : List String) : Prop where
  nonempty : group ≠ []
  assembled : group.foldl Assembly.add ⟨[], none⟩ = ⟨[], some (Text.join "\n" group)⟩
  odd : Odd (marks group)

section Steps

variable {group : List String} {line : String}

theorem isWhole_singleton (free : turnsBlock line = false) : IsWhole [line] where
  nonempty := List.cons_ne_nil _ _
  assembled := Assembly.add_line free
  even := not_turnsBlock_iff.mp free

theorem isUnclosed_singleton (turns : turnsBlock line = true) : IsUnclosed [line] where
  nonempty := List.cons_ne_nil _ _
  assembled := Assembly.add_first turns
  odd := turnsBlock_iff.mp turns

theorem IsWhole.openBehind (whole : IsWhole group) (turns : turnsBlock line = true)
    (begins : beginsWithTerminator line = true) : IsUnclosed (group ++ [line]) where
  nonempty := List.concat_ne_nil _ _
  assembled := by
    rw [List.foldl_concat, whole.assembled, Text.join_concat whole.nonempty]
    exact Assembly.add_behind turns begins
  odd := marks_concat group line ▸ whole.even.add_odd (turnsBlock_iff.mp turns)

theorem IsUnclosed.extend (unclosed : IsUnclosed group) (free : turnsBlock line = false) :
    IsUnclosed (group ++ [line]) where
  nonempty := List.concat_ne_nil _ _
  assembled := by
    rw [List.foldl_concat, unclosed.assembled, Text.join_concat unclosed.nonempty]
    exact Assembly.add_inside free
  odd := marks_concat group line ▸ unclosed.odd.add_even (not_turnsBlock_iff.mp free)

theorem IsUnclosed.close (unclosed : IsUnclosed group) (turns : turnsBlock line = true) :
    IsWhole (group ++ [line]) where
  nonempty := List.concat_ne_nil _ _
  assembled := by
    rw [List.foldl_concat, unclosed.assembled, Text.join_concat unclosed.nonempty]
    exact Assembly.add_closing turns
  even := marks_concat group line ▸ unclosed.odd.add_odd (turnsBlock_iff.mp turns)

end Steps

/-- An assembly holds the physical lines so far in groups, latest first: a whole one for each of its
finished lines, and an unclosed one for its open block. -/
inductive Grouped : List String → Assembly → Prop
  | closed (groups : List (List String)) : (∀ group ∈ groups, IsWhole group) →
      Grouped groups.reverse.flatten ⟨groups.map (Text.join "\n"), none⟩
  | inside (groups : List (List String)) (group : List String) :
      (∀ group ∈ groups, IsWhole group) → IsUnclosed group →
        Grouped (groups.reverse.flatten ++ group)
          ⟨groups.map (Text.join "\n"), some (Text.join "\n" group)⟩

namespace Grouped

variable {groups : List (List String)} {group physical : List String} {assembly : Assembly}

theorem finish (whole : ∀ group ∈ groups, IsWhole group) (isWhole : IsWhole group) :
    Grouped (groups.reverse.flatten ++ group)
      ⟨Text.join "\n" group :: groups.map (Text.join "\n"), none⟩ := by
  have more := closed (group :: groups) (List.forall_mem_cons.mpr ⟨isWhole, whole⟩)
  rwa [List.reverse_cons, List.flatten_concat] at more

theorem add (grouped : Grouped physical assembly) (line : String) :
    Grouped (physical ++ [line]) (assembly.add line) := by
  cases grouped with
  | closed groups whole =>
      cases turns : turnsBlock line with
      | false =>
          rw [Assembly.add_line turns]
          exact finish whole (isWhole_singleton turns)
      | true =>
          cases begins : beginsWithTerminator line with
          | false =>
              rw [Assembly.add_opening turns begins]
              exact inside groups [line] whole (isUnclosed_singleton turns)
          | true =>
              cases groups with
              | nil =>
                  rw [List.map_nil, Assembly.add_first turns]
                  exact inside [] [line] whole (isUnclosed_singleton turns)
              | cons previous earlier =>
                  -- The line that was finished last is taken back.
                  obtain ⟨lastWhole, whole⟩ := List.forall_mem_cons.mp whole
                  rw [List.map_cons, Assembly.add_behind turns begins,
                    ← Text.join_concat lastWhole.nonempty, List.reverse_cons, List.flatten_concat,
                    List.append_assoc]
                  exact inside earlier _ whole (lastWhole.openBehind turns begins)
  | inside groups group whole unclosed =>
      rw [List.append_assoc]
      cases turns : turnsBlock line with
      | false =>
          rw [Assembly.add_inside turns, ← Text.join_concat unclosed.nonempty]
          exact inside groups _ whole (unclosed.extend turns)
      | true =>
          rw [Assembly.add_closing turns, ← Text.join_concat unclosed.nonempty]
          exact finish whole (unclosed.close turns)

theorem foldl (lines : List String) (grouped : Grouped physical assembly) :
    Grouped (physical ++ lines) (lines.foldl Assembly.add assembly) := by
  induction lines generalizing physical assembly with
  | nil => rwa [List.append_nil]
  | cons line rest inductionHypothesis =>
      rw [← List.singleton_append, ← List.append_assoc]
      exact inductionHypothesis (grouped.add line)

end Grouped

theorem grouped_lines (lines : List String) :
    Grouped lines (lines.foldl Assembly.add ⟨[], none⟩) :=
  (Grouped.closed [] nofun).foldl lines

/-! ### Lines that are read again -/

/-- The last physical line of a whole group is not empty unless nothing else is in it. -/
theorem IsWhole.last_ne_empty {before : List String} {last : String}
    (whole : IsWhole (before ++ [last])) (nonempty : Text.join "\n" (before ++ [last]) ≠ "") :
    last ≠ "" := by
  rintro rfl
  have assembled := whole.assembled
  have free : turnsBlock "" = false := by decide
  rw [List.foldl_concat] at assembled
  generalize before.foldl Assembly.add ⟨[], none⟩ = assembly at assembled
  obtain ⟨finished, open?⟩ := assembly
  cases open? with
  | some block =>
      rw [Assembly.add_inside free] at assembled
      cases assembled
  | none =>
      rw [Assembly.add_line free] at assembled
      have lines := congrArg Assembly.finished assembled
      exact nonempty (List.cons.inj lines).1.symm

/-- A whole group is one logical line again if its lines can be told apart. -/
theorem IsWhole.logicalLines_join {group : List String} (whole : IsWhole group)
    (unbroken : ∀ line ∈ group, Text.IsUnbroken line) (nonempty : Text.join "\n" group ≠ "") :
    logicalLines (Text.join "\n" group) = [Text.join "\n" group] := by
  obtain ⟨before, last, rfl⟩ := (List.eq_nil_or_concat' group).resolve_left whole.nonempty
  unfold logicalLines
  rw [Text.lines_join unbroken (whole.last_ne_empty nonempty), whole.assembled]
  rfl

/-! ### Scripts -/

theorem mem_of_mem_dropLast_append_toList {Item : Type} {items : List Item} {last? : Option Item}
    {item : Item} (member : item ∈ (items ++ last?.toList).dropLast) : item ∈ items := by
  cases last? with
  | none => exact List.append_nil items ▸ List.dropLast_subset _ member
  | some last => rwa [Option.toList_some, List.dropLast_concat] at member

/-- The logical lines of a script are whole groups of its physical lines, and one unclosed group if
it ends inside of a block. -/
theorem exists_groups (text : String) :
    ∃ (whole : List (List String)) (unclosed? : Option (List String)),
      (whole ++ unclosed?.toList).flatten = Text.lines text ∧
      logicalLines text = (whole ++ unclosed?.toList).map (Text.join "\n") ∧
      (∀ group ∈ whole, IsWhole group) ∧ (∀ group ∈ unclosed?, IsUnclosed group) ∧
      (unclosed?.isSome = true ↔ EndsInsideBlock (Text.lines text)) := by
  have grouped := grouped_lines (Text.lines text)
  have isOpen := isSome_open?_iff (Text.lines text)
  unfold logicalLines
  generalize (Text.lines text).foldl Assembly.add ⟨[], none⟩ = assembly at grouped isOpen ⊢
  generalize Text.lines text = physical at grouped isOpen ⊢
  cases grouped with
  | closed groups whole =>
      refine ⟨groups.reverse, none, by simp, ?_, by simpa using whole, nofun, isOpen⟩
      simp [Assembly.lines]
  | inside groups group whole unclosed =>
      refine ⟨groups.reverse, some group, by simp, ?_, by simpa using whole, ?_, isOpen⟩
      · simp [Assembly.lines]
      · rintro _ ⟨⟩
        exact unclosed

/-- The logical lines of a script are its physical lines in groups: nothing is lost and the order
is kept. In each of them but the last the marks are even in number, and in the last they are odd
exactly if the script ends inside of a block. Without carriage returns, a logical line that is
neither empty nor such an unclosed block is a logical line again if it is a script of its own. -/
theorem logicalLines_regroup (text : String) :
    Text.join "\n" (logicalLines text) = Text.join "\n" (Text.lines text) ∧
    (∃ groups : List (List String), groups.flatten = Text.lines text ∧
      logicalLines text = groups.map (Text.join "\n") ∧ (∀ group ∈ groups, group ≠ []) ∧
      (∀ group ∈ groups.dropLast, Even (marks group)) ∧
      ((∃ last ∈ groups.getLast?, Odd (marks last)) ↔ EndsInsideBlock (Text.lines text))) ∧
    ('\r' ∉ text.toList → ∀ line ∈ logicalLines text, line ≠ "" →
      (line ∈ (logicalLines text).dropLast ∨ ¬ EndsInsideBlock (Text.lines text)) →
        logicalLines line = [line]) := by
  obtain ⟨whole, unclosed?, physical, logical, areWhole, isUnclosed, inside⟩ := exists_groups text
  have nonempty : ∀ group ∈ whole ++ unclosed?.toList, group ≠ [] := by
    intro group member
    rcases List.mem_append.mp member with isWhole | isLast
    · exact (areWhole group isWhole).nonempty
    · exact (isUnclosed group (Option.mem_toList.mp isLast)).nonempty
  refine ⟨?_, ⟨whole ++ unclosed?.toList, physical, logical, nonempty, ?_, ?_⟩, ?_⟩
  · rw [logical, Text.join_map_join nonempty, physical]
  · exact fun group member => (areWhole group (mem_of_mem_dropLast_append_toList member)).even
  · rw [← inside]
    cases unclosed? with
    | none =>
        rw [Option.toList_none, List.append_nil]
        refine iff_of_false ?_ (by decide)
        rintro ⟨last, isLast, odd⟩
        have even := (areWhole last (List.mem_of_getLast? isLast)).even
        exact Nat.not_even_iff_odd.mpr odd even
    | some group =>
        rw [Option.toList_some, List.getLast?_concat]
        exact iff_of_true ⟨group, rfl, (isUnclosed group rfl).odd⟩ rfl
  · intro noReturn line member nonemptyLine finished
    obtain ⟨group, isGroup, rfl⟩ : ∃ group ∈ whole, Text.join "\n" group = line := by
      rw [logical] at member finished
      rcases finished with notLast | outside
      · rw [← List.map_dropLast] at notLast
        obtain ⟨group, early, joined⟩ := List.mem_map.mp notLast
        exact ⟨group, mem_of_mem_dropLast_append_toList early, joined⟩
      · obtain ⟨group, isGroup, joined⟩ := List.mem_map.mp member
        refine ⟨group, (List.mem_append.mp isGroup).resolve_right fun isLast => ?_, joined⟩
        exact outside (inside.mp (Option.isSome_of_mem (Option.mem_toList.mp isLast)))
    refine (areWhole group isGroup).logicalLines_join (fun line isLine => ?_) nonemptyLine
    apply Text.isUnbroken_of_mem_lines noReturn
    rw [← physical]
    exact List.mem_flatten.mpr ⟨group, List.mem_append_left _ isGroup, isLine⟩

/-- A command with a block behind it is one logical line, in a script and on its own. -/
theorem logicalLines_regroup_block :
    let block := "set x\n\x22\x22\x22\none\n\x22\x22\x22"
    '\r' ∉ (block ++ "\nquit").toList ∧ block ∈ logicalLines (block ++ "\nquit") ∧ block ≠ "" ∧
      block ∈ (logicalLines (block ++ "\nquit")).dropLast ∧ logicalLines block = [block] := by
  intro block
  have noReturn : '\r' ∉ (block ++ "\nquit").toList := by decide +kernel
  have isLine : block ∈ logicalLines (block ++ "\nquit") := by decide +kernel
  have nonempty : block ≠ "" := by decide +kernel
  have notLast : block ∈ (logicalLines (block ++ "\nquit")).dropLast := by decide +kernel
  exact ⟨noReturn, isLine, nonempty, notLast,
    (logicalLines_regroup (block ++ "\nquit")).2.2 noReturn block isLine nonempty (.inl notLast)⟩

end Script

end MachineConsole
