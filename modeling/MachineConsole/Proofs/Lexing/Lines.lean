import MachineConsole.Proofs.Lexing.Rejoining
import MachineConsole.Session.Script

/-!
Contract: lines that are joined into one text.

Owns:
- `broken`: lines with a break in front of each, which is what stands behind the first line of a
  text;
- the physical lines of joined lines are those lines;
- `logicalLines_block`: joined lines in which a block is opened once, and closed by the last, are one
  logical line.
-/

namespace MachineConsole

open LexicalRule Tokenization

namespace Text

/-- Lines with a line break in front of each. -/
def broken (lines : List String) : List Char :=
  lines.flatMap fun line => '\n' :: line.toList

theorem broken_cons (line : String) (rest : List String) :
    broken (line :: rest) = '\n' :: (line.toList ++ broken rest) :=
  List.flatMap_cons

theorem broken_append (first second : List String) :
    broken (first ++ second) = broken first ++ broken second :=
  List.flatMap_append

theorem toList_join_cons (line : String) (rest : List String) :
    (join "\n" (line :: rest)).toList = line.toList ++ broken rest := by
  induction rest generalizing line with
  | nil => simp [join, broken]
  | cons second more inductionHypothesis =>
      rw [join, broken_cons, String.toList_append, String.toList_append, inductionHypothesis]
      simp

theorem toList_join_append {first : List String} (nonempty : first ≠ []) (second : List String) :
    (join "\n" (first ++ second)).toList = (join "\n" first).toList ++ broken second := by
  obtain ⟨line, rest, rfl⟩ := List.exists_cons_of_ne_nil nonempty
  rw [List.cons_append, toList_join_cons, toList_join_cons, broken_append, List.append_assoc]

/-! ### Physical lines -/

theorem pieces_append_of_not_mem {mark : Char} {front tail first : List Char}
    {more : List (List Char)} (absent : mark ∉ front) (split : pieces mark tail = first :: more) :
    pieces mark (front ++ tail) = (front ++ first) :: more := by
  induction front with
  | nil => exact split
  | cons character rest inductionHypothesis =>
      have other : character ≠ mark := fun same => absent (by simp [same])
      have restSplit := inductionHypothesis fun member => absent (List.mem_cons_of_mem _ member)
      rw [List.cons_append, pieces, if_neg other, restSplit]
      rfl

theorem pieces_broken {front : List Char} {rest : List String} (frontUnbroken : '\n' ∉ front)
    (unbroken : ∀ line ∈ rest, '\n' ∉ line.toList) :
    pieces '\n' (front ++ broken rest) = front :: rest.map String.toList := by
  induction rest generalizing front with
  | nil =>
      have split : pieces '\n' (broken []) = [[]] := rfl
      rw [pieces_append_of_not_mem frontUnbroken split, List.append_nil]
      rfl
  | cons line more inductionHypothesis =>
      have behind := inductionHypothesis (unbroken line List.mem_cons_self)
        fun other member => unbroken other (List.mem_cons_of_mem line member)
      have split : pieces '\n' (broken (line :: more)) =
          [] :: line.toList :: more.map String.toList := by
        rw [broken_cons, pieces, if_pos rfl, behind]
      rw [pieces_append_of_not_mem frontUnbroken split, List.append_nil]
      rfl

theorem dropCarriageReturn_of_not_mem {line : List Char} (absent : '\r' ∉ line) :
    dropCarriageReturn line = line := by
  unfold dropCarriageReturn
  split
  · next before reversed =>
      have last : '\r' ∈ line.reverse := by simp [reversed]
      exact absurd (List.mem_reverse.mp last) absent
  · rfl

theorem linesOfPieces_of_no_returns {lines : List (List Char)} {last : List Char}
    (noReturn : ∀ line ∈ lines, '\r' ∉ line) (nonempty : last ≠ []) :
    linesOfPieces (lines ++ [last]) = lines ++ [last] := by
  induction lines with
  | nil => exact if_neg nonempty
  | cons line rest inductionHypothesis =>
      have restLines := inductionHypothesis fun other member =>
        noReturn other (List.mem_cons_of_mem line member)
      obtain ⟨second, more, split⟩ : ∃ second more, rest ++ [last] = second :: more :=
        List.exists_cons_of_ne_nil (by simp)
      rw [List.cons_append, split, linesOfPieces,
        dropCarriageReturn_of_not_mem (noReturn line List.mem_cons_self), ← split, restLines]

/-- A line that holds no line break and no carriage return. -/
def IsUnbroken (line : String) : Prop :=
  '\n' ∉ line.toList ∧ '\r' ∉ line.toList

instance (line : String) : Decidable (IsUnbroken line) :=
  inferInstanceAs (Decidable ('\n' ∉ line.toList ∧ '\r' ∉ line.toList))

/-- Joined lines are taken apart again, unless the last one is empty. -/
theorem lines_join {lines : List String} {last : String}
    (unbroken : ∀ line ∈ lines ++ [last], IsUnbroken line) (nonempty : last ≠ "") :
    Text.lines (join "\n" (lines ++ [last])) = lines ++ [last] := by
  obtain ⟨first, rest, split⟩ : ∃ first rest, lines ++ [last] = first :: rest :=
    List.exists_cons_of_ne_nil (by simp)
  have allPieces : pieces '\n' (join "\n" (lines ++ [last])).toList =
      (lines ++ [last]).map String.toList := by
    rw [split] at unbroken ⊢
    rw [toList_join_cons, pieces_broken (unbroken first List.mem_cons_self).1
      fun line member => (unbroken line (List.mem_cons_of_mem first member)).1]
    rfl
  have noReturn : ∀ line ∈ lines.map String.toList, '\r' ∉ line := by
    intro line member
    obtain ⟨text, textMember, rfl⟩ := List.mem_map.mp member
    exact (unbroken text (List.mem_append_left _ textMember)).2
  have lastNonempty : last.toList ≠ [] := by simpa using nonempty
  unfold Text.lines
  rw [allPieces, List.map_append, List.map_singleton,
    linesOfPieces_of_no_returns noReturn lastNonempty]
  simp

end Text

/-! ### Logical lines -/

namespace Script

theorem terminators_of_not_mem {front : List Char} (absent : '\x22' ∉ front) (text : List Char) :
    terminators (front ++ text) = terminators text := by
  induction front with
  | nil => rfl
  | cons character rest inductionHypothesis =>
      have other : character ≠ '\x22' := fun same => absent (by simp [same])
      rw [List.cons_append, terminators.eq_3 _ _ fun _ same => absurd same other]
      exact inductionHypothesis fun member => absent (List.mem_cons_of_mem _ member)

theorem terminators_of_free {text : List Char} (free : ¬ terminatorMarks <:+: text) :
    terminators text = 0 := by
  induction text using terminators.induct with
  | case1 => rfl
  | case2 rest => exact absurd ⟨[], rest, rfl⟩ free
  | case3 character rest notMarks inductionHypothesis =>
      rw [terminators.eq_3 _ _ notMarks]
      exact inductionHypothesis fun within => free (List.infix_cons within)

theorem turnsBlock_of_free {line : String} (free : ¬ terminatorMarks <:+: line.toList) :
    turnsBlock line = false := by
  unfold turnsBlock
  rw [terminators_of_free free]
  rfl

/-- Inside a block, lines without the mark are added to it. -/
theorem foldl_add_block {lines : List String}
    (free : ∀ line ∈ lines, turnsBlock line = false) (finished : List String) (block : String) :
    lines.foldl Assembly.add ⟨finished, some block⟩ =
      ⟨finished, some (Text.join "\n" (block :: lines))⟩ := by
  induction lines generalizing block with
  | nil => rfl
  | cons line rest inductionHypothesis =>
      have joined : Text.join "\n" ((block ++ "\n" ++ line) :: rest) =
          Text.join "\n" (block :: line :: rest) := by
        cases rest with
        | nil => rfl
        | cons second more => simp only [Text.join, String.append_assoc]
      have added : Assembly.add ⟨finished, some block⟩ line =
          ⟨finished, some (block ++ "\n" ++ line)⟩ := by
        unfold Assembly.add
        rw [free line List.mem_cons_self]
        rfl
      rw [List.foldl_cons, added, inductionHypothesis fun other member =>
        free other (List.mem_cons_of_mem line member), joined]

/-- The line that opens or closes a block and holds nothing else. -/
def blockLine : String :=
  String.ofList terminatorMarks

/-- Lines that open a block and keep it open until the line that closes it. -/
theorem logicalLines_block {opening body : List String} (nonempty : opening ≠ [])
    (opens : opening.foldl Assembly.add ⟨[], none⟩ = ⟨[], some (Text.join "\n" opening)⟩)
    (unbroken : ∀ line ∈ opening ++ body, Text.IsUnbroken line)
    (free : ∀ line ∈ body, ¬ terminatorMarks <:+: line.toList) :
    logicalLines (Text.join "\n" (opening ++ body ++ [blockLine])) =
      [Text.join "\n" (opening ++ body ++ [blockLine])] := by
  have physical : Text.lines (Text.join "\n" (opening ++ body ++ [blockLine])) =
      opening ++ body ++ [blockLine] := by
    refine Text.lines_join ?_ (by decide)
    intro line member
    cases List.mem_append.mp member with
    | inl early => exact unbroken line early
    | inr late =>
        cases List.mem_singleton.mp late
        exact ⟨by decide, by decide⟩
  have filled : (opening ++ body).foldl Assembly.add ⟨[], none⟩ =
      ⟨[], some (Text.join "\n" (Text.join "\n" opening :: body))⟩ := by
    rw [List.foldl_append, opens]
    exact foldl_add_block (fun line member => turnsBlock_of_free (free line member)) [] _
  have closed : Text.join "\n" (Text.join "\n" opening :: body) ++ "\n" ++ blockLine =
      Text.join "\n" (opening ++ body ++ [blockLine]) := by
    apply String.toList_injective
    rw [List.append_assoc, Text.toList_join_append nonempty, String.toList_append,
      String.toList_append, Text.toList_join_cons, Text.broken_append]
    simp [Text.broken]
  have closes : turnsBlock blockLine = true := by decide
  unfold logicalLines
  rw [physical, List.foldl_append, filled, List.foldl_cons, List.foldl_nil]
  unfold Assembly.add
  dsimp only
  rw [if_pos closes, closed]
  rfl

end Script

end MachineConsole
