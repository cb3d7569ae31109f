import Mathlib.Data.List.DropRight
import MachineConsole.Text.Pieces

/-!
Contract: texts that are taken apart at a character and put together again.

Owns:
- cutting and joining in terms of the library's `splitOn` and `intercalate`;
- what stands on either side of the first and of the last occurrence of a character, and of the
  first occurrence of a pattern;
- the characters of the pieces, and `pieces_eq_iff`: what makes some texts the pieces of another;
- the last piece of a text that is not empty;
- the characters of repeated and of padded texts.
-/

namespace MachineConsole.Text

/-! ### Pieces -/

theorem pieces_eq_splitOn (mark : Char) (text : List Char) :
    pieces mark text = text.splitOn mark := by
  induction text with
  | nil => rfl
  | cons character rest inductionHypothesis =>
      rw [pieces, List.splitOn_cons_eq_if_modifyHead, ← inductionHypothesis]
      by_cases same : character = mark
      · simp [same]
      · have nonempty : pieces mark rest ≠ [] := by
          rw [inductionHypothesis]
          exact List.splitOn_ne_nil mark rest
        obtain ⟨first, more, split⟩ := List.exists_cons_of_ne_nil nonempty
        simp [same, split]

theorem of_mem_pieces {mark : Char} {text piece : List Char} (isPiece : piece ∈ pieces mark text) :
    mark ∉ piece ∧ piece ⊆ text := by
  induction text generalizing piece with
  | nil =>
      obtain rfl := List.mem_singleton.mp isPiece
      exact ⟨List.not_mem_nil, List.Subset.refl _⟩
  | cons character rest inductionHypothesis =>
      unfold pieces at isPiece
      split at isPiece
      · rcases List.mem_cons.mp isPiece with rfl | later
        · exact ⟨List.not_mem_nil, List.nil_subset _⟩
        · obtain ⟨absent, within⟩ := inductionHypothesis later
          exact ⟨absent, List.Subset.trans within (List.subset_cons_self _ _)⟩
      · next other =>
          have absentAtHead : mark ∉ [character] := by
            rw [List.mem_singleton]
            exact Ne.symm other
          cases split : pieces mark rest with
          | nil =>
              rw [split] at isPiece
              obtain rfl := List.mem_singleton.mp isPiece
              exact ⟨absentAtHead, List.cons_subset_cons _ (List.nil_subset _)⟩
          | cons first more =>
              rw [split] at isPiece
              rcases List.mem_cons.mp isPiece with rfl | later
              · obtain ⟨absent, within⟩ := inductionHypothesis (split ▸ List.mem_cons_self)
                refine ⟨fun member => ?_, List.cons_subset_cons _ within⟩
                exact (List.mem_cons.mp member).elim (Ne.symm other) absent
              · obtain ⟨absent, within⟩ :=
                  inductionHypothesis (split ▸ List.mem_cons_of_mem _ later)
                exact ⟨absent, List.Subset.trans within (List.subset_cons_self _ _)⟩

/-- The pieces of a text are what makes up the text with single marks between, and has none. -/
theorem pieces_eq_iff {mark : Char} {text : List Char} {parts : List (List Char)} :
    pieces mark text = parts ↔
      parts ≠ [] ∧ (∀ part ∈ parts, mark ∉ part) ∧ [mark].intercalate parts = text := by
  rw [pieces_eq_splitOn]
  constructor
  · rintro rfl
    refine ⟨List.splitOn_ne_nil mark text, fun part isPiece => ?_, List.intercalate_splitOn mark⟩
    rw [← pieces_eq_splitOn] at isPiece
    exact (of_mem_pieces isPiece).1
  · rintro ⟨nonempty, absent, rfl⟩
    exact List.splitOn_intercalate mark absent nonempty

theorem pieces_eq_singleton_iff {mark : Char} {text piece : List Char} :
    pieces mark text = [piece] ↔ mark ∉ piece ∧ piece = text := by
  rw [pieces_eq_iff]
  simp

theorem pieces_eq_pair_iff {mark : Char} {text first second : List Char} :
    pieces mark text = [first, second] ↔
      (mark ∉ first ∧ mark ∉ second) ∧ first ++ mark :: second = text := by
  rw [pieces_eq_iff]
  simp

/-- A mark sets the pieces in front of it apart from those behind it. -/
theorem pieces_append (mark : Char) (front back : List Char) :
    pieces mark (front ++ mark :: back) = pieces mark front ++ pieces mark back := by
  rw [pieces_eq_splitOn, pieces_eq_splitOn, pieces_eq_splitOn, List.splitOn_append_cons_self]

theorem pieces_replicate (mark : Char) (count : Nat) :
    pieces mark (List.replicate count mark) = List.replicate (count + 1) [] := by
  induction count with
  | zero => rfl
  | succ count inductionHypothesis =>
      rw [List.replicate_succ, pieces, if_pos rfl, inductionHypothesis]
      rfl

/-! ### The last piece with characters -/

/-- A text that is more than marks is taken apart around its last run of other characters. -/
theorem exists_lastRun {mark : Char} {text : List Char}
    (other : ∃ character ∈ text, character ≠ mark) :
    ∃ front run count, text = front ++ run ++ List.replicate count mark ∧ run ≠ [] ∧ mark ∉ run ∧
      (front = [] ∨ front.getLast? = some mark) := by
  let core := text.rdropWhile (· == mark)
  let trailing := text.rtakeWhile (· == mark)
  have marks : trailing = List.replicate trailing.length mark :=
    List.eq_replicate_of_mem fun character member => by
      simpa using List.mem_rtakeWhile_imp member
  have someCore : core ≠ [] := by
    obtain ⟨character, member, isOther⟩ := other
    intro noCore
    exact isOther (by simpa using List.rdropWhile_eq_nil_iff.mp noCore character member)
  have lastOther : core.getLast someCore ≠ mark := by
    simpa using List.rdropWhile_last_not _ text someCore
  refine ⟨core.rdropWhile (· != mark), core.rtakeWhile (· != mark), trailing.length, ?_, ?_, ?_, ?_⟩
  · rw [List.rdropWhile_append_rtakeWhile, ← marks, List.rdropWhile_append_rtakeWhile]
  · exact fun noRun => List.rtakeWhile_eq_nil_iff.mp noRun someCore (by simpa using lastOther)
  · exact fun member => by simpa using List.mem_rtakeWhile_imp member
  · by_cases noFront : core.rdropWhile (· != mark) = []
    · exact .inl noFront
    · refine .inr ?_
      rw [List.getLast?_eq_some_getLast noFront]
      simpa using List.rdropWhile_last_not _ core noFront

/-- Read from its end, a text has its last run of other characters as its first piece that is not
empty. -/
theorem find?_reverse_pieces {mark : Char} {front run : List Char} (nonempty : run ≠ [])
    (absent : mark ∉ run) (begins : front = [] ∨ front.getLast? = some mark) (count : Nat) :
    (pieces mark (front ++ run ++ List.replicate count mark)).reverse.find?
      (fun piece => !piece.isEmpty) = some run := by
  have alone : pieces mark run = [run] := pieces_eq_singleton_iff.mpr ⟨absent, rfl⟩
  have last : pieces mark (run ++ List.replicate count mark) = run :: List.replicate count [] := by
    cases count with
    | zero =>
        rw [List.replicate_zero, List.append_nil, alone]
        rfl
    | succ count =>
        rw [List.replicate_succ, pieces_append, alone, pieces_replicate]
        rfl
  obtain ⟨before, split⟩ : ∃ before, pieces mark (front ++ (run ++ List.replicate count mark)) =
      before ++ run :: List.replicate count [] := by
    rcases begins with rfl | endsInMark
    · exact ⟨[], last⟩
    · obtain ⟨inFront, rfl⟩ := List.getLast?_eq_some_iff.mp endsInMark
      refine ⟨pieces mark inFront, ?_⟩
      rw [List.append_assoc, List.singleton_append, pieces_append, last]
  rw [List.append_assoc, split, List.find?_eq_some_iff_append]
  refine ⟨by simpa using nonempty, List.replicate count [], before.reverse, by simp, ?_⟩
  intro piece member
  rw [List.eq_of_mem_replicate member]
  rfl

/-! ### Joining -/

theorem join_eq_intercalate (separator : String) (parts : List String) :
    join separator parts = separator.intercalate parts := by
  induction parts using join.induct with
  | case1 => simp [join]
  | case2 only => simp [join]
  | case3 first second rest inductionHypothesis =>
      rw [join, inductionHypothesis, String.intercalate_cons_cons]

theorem eq_of_cut? {mark : Char} {text front back : List Char}
    (cuts : cut? mark text = some (front, back)) : text = front ++ mark :: back ∧ mark ∉ front := by
  induction text generalizing front with
  | nil => cases cuts
  | cons character rest inductionHypothesis =>
      rw [cut?] at cuts
      by_cases same : character = mark
      · rw [if_pos same] at cuts
        cases cuts
        simp [same]
      · rw [if_neg same] at cuts
        obtain ⟨⟨later, behind⟩, cutsRest, rejoined⟩ := Option.map_eq_some_iff.mp cuts
        cases rejoined
        obtain ⟨split, absent⟩ := inductionHypothesis cutsRest
        refine ⟨by rw [split, List.cons_append], ?_⟩
        simp [absent, Ne.symm same]

theorem mem_of_cut? {mark : Char} {text : List Char} {parts : List Char × List Char}
    (cuts : cut? mark text = some parts) : mark ∈ text := by
  rw [(eq_of_cut? cuts).1]
  exact List.mem_append_right _ List.mem_cons_self

theorem eq_of_cutLast? {mark : Char} {text front back : List Char}
    (cuts : cutLast? mark text = some (front, back)) :
    text = front ++ mark :: back ∧ mark ∉ back := by
  obtain ⟨⟨reversedBack, reversedFront⟩, cutsReverse, turned⟩ := Option.map_eq_some_iff.mp cuts
  cases turned
  obtain ⟨split, absent⟩ := eq_of_cut? cutsReverse
  refine ⟨?_, by simpa using absent⟩
  have reversed := congrArg List.reverse split
  simpa using reversed

theorem eq_of_cutAt? {pattern text front back : List Char}
    (cuts : cutAt? pattern text = some (front, back)) : text = front ++ pattern ++ back := by
  induction text generalizing front with
  | nil =>
      rw [cutAt?] at cuts
      split at cuts
      · cases cuts
        simp_all
      · cases cuts
  | cons character rest inductionHypothesis =>
      rw [cutAt?] at cuts
      split at cuts
      · next after begins =>
          cases cuts
          exact (List.isPrefixOf?_eq_some_iff_append_eq.mp begins).symm
      · obtain ⟨⟨later, behind⟩, cutsRest, rejoined⟩ := Option.map_eq_some_iff.mp cuts
        cases rejoined
        rw [inductionHypothesis cutsRest, List.cons_append, List.cons_append]

end MachineConsole.Text
