import Mathlib.Tactic.SplitIfs
import MachineConsole.Path.FileTree
import MachineConsole.Proofs.Text.Pieces

/-!
Contract: where paths lead by the names in them.

Owns:
- `enter` and `positionOf`, following the segments of a path whatever exists under them;
- `FileTree.eq_of_locate`: a file tree finds a path at its position, or not at all;
- `positionOf_join`: a name joined to a directory is followed from where the directory leads;
- `isDirectlyInside_join_iff`: such a path leads directly below the directory unless the name is a
  single or a double dot.

Does not own: what exists in a file tree.
-/

namespace MachineConsole

namespace Path

/-- Where one segment leads from a position. A position is given by its names from the innermost
outwards. -/
def enter (position : List String) (segment : String) : List String :=
  if segment = "" ∨ segment = "." then position
  else if segment = ".." then position.drop 1
  else segment :: position

/-- Where a path leads, a relative one from a working position. -/
def positionOf (working : List String) (path : String) : List String :=
  (rawSegments path).foldl enter (if isAbsolute path then [] else working)

/-- A name that can stand in a directory. -/
def IsEntryName (name : String) : Prop :=
  name ≠ "" ∧ name ≠ "." ∧ name ≠ ".."

theorem enter_of_isEntryName {name : String} (isName : IsEntryName name) (position : List String) :
    enter position name = name :: position := by
  obtain ⟨nonempty, noDot, noDots⟩ := isName
  simp [enter, nonempty, noDot, noDots]

/-- Nothing but a name leads one down. -/
theorem exists_enter_eq_cons_iff {position : List String} {segment : String} :
    (∃ name, enter position segment = name :: position) ↔ IsEntryName segment := by
  constructor
  · rintro ⟨name, down⟩
    have deeper : (enter position segment).length = position.length + 1 := by
      rw [down, List.length_cons]
    rw [enter] at deeper
    refine ⟨fun empty => ?_, fun dot => ?_, fun dots => ?_⟩
    · rw [if_pos (.inl empty)] at deeper
      omega
    · rw [if_pos (.inr dot)] at deeper
      omega
    · rw [if_neg (by simp [dots]), if_pos dots, List.length_drop] at deeper
      omega
  · exact fun isName => ⟨segment, enter_of_isEntryName isName position⟩

end Path

/-! ### Positions in file trees -/

namespace FileTree

variable {tree : FileTree} {found : List String}

theorem eq_of_walk {position segments : List String}
    (leads : tree.walk position segments = .ok found) :
    found = segments.foldl Path.enter position := by
  induction segments generalizing position with
  | nil =>
      cases leads
      rfl
  | cons segment rest inductionHypothesis =>
      rw [walk] at leads
      rw [List.foldl_cons, Path.enter]
      split_ifs at leads with noDirectory stays up tooLong missing
      · rw [if_pos (by simpa using stays)]
        exact inductionHypothesis leads
      · rw [if_neg (by simpa using stays), if_pos up]
        exact inductionHypothesis leads
      · rw [if_neg (by simpa using stays), if_neg up]
        exact inductionHypothesis leads

/-- What is found at a path is found where its names lead. -/
theorem eq_of_locate {path : String} (leads : tree.locate path = .ok found) :
    found = Path.positionOf tree.workingPosition path := by
  unfold locate at leads
  split_ifs at leads with empty nul tooLong isAbsolute
  · rw [Path.positionOf, if_pos isAbsolute]
    exact eq_of_walk leads
  · rw [Path.positionOf, if_neg isAbsolute]
    exact eq_of_walk leads

end FileTree

/-! ### Names joined to directories -/

namespace Path

theorem rawSegments_of_slashless {name : String} (slashless : '/' ∉ name.toList) :
    rawSegments name = [name] := by
  rw [rawSegments, Text.pieces_eq_singleton_iff.mpr ⟨slashless, rfl⟩, List.map_singleton,
    String.ofList_toList]

theorem isAbsolute_of_slashless {name : String} (slashless : '/' ∉ name.toList) :
    isAbsolute name = false := by
  rw [isAbsolute, beq_eq_false_iff_ne]
  exact fun begins => slashless (List.mem_of_head? begins)

theorem isAbsolute_append {front : String} (nonempty : front ≠ "") (back : String) :
    isAbsolute (front ++ back) = isAbsolute front := by
  have someCharacters : front.toList ≠ [] := by simpa using nonempty
  rw [isAbsolute, isAbsolute, String.toList_append, List.head?_append_of_ne_nil _ someCharacters]

/-- A name behind a slash is followed from where the text in front of the slash leads. -/
theorem positionOf_behind_slash {path name : String} {front : List Char}
    (slashless : '/' ∉ name.toList) (behindSlash : path.toList = front ++ '/' :: name.toList)
    (working : List String) :
    positionOf working path =
      enter (((Text.pieces '/' front).map String.ofList).foldl enter
        (if isAbsolute path then [] else working)) name := by
  have split : rawSegments path = (Text.pieces '/' front).map String.ofList ++ [name] := by
    rw [rawSegments, behindSlash, Text.pieces_append, List.map_append,
      ← rawSegments_of_slashless slashless]
    rfl
  rw [positionOf, split, List.foldl_append]
  rfl

/-- A name is followed from where the directory leads that it is joined to. -/
theorem positionOf_join {name : String} (slashless : '/' ∉ name.toList) (directory : String)
    (working : List String) :
    positionOf working (join directory name) = enter (positionOf working directory) name := by
  have relative := isAbsolute_of_slashless slashless
  rw [join, relative, if_neg Bool.false_ne_true]
  by_cases empty : directory = ""
  · subst empty
    rw [if_pos (by simp), String.empty_append, positionOf, rawSegments_of_slashless slashless,
      relative]
    rfl
  have sameRoot : ∀ back, isAbsolute (directory ++ back) = isAbsolute directory :=
    isAbsolute_append empty
  by_cases slash : directory.toList.getLast? = some '/'
  · -- The slash at the end of the directory is followed by an empty name there.
    obtain ⟨front, endsInSlash⟩ := List.getLast?_eq_some_iff.mp slash
    have emptyName : directory.toList = front ++ '/' :: "".toList := endsInSlash
    have named : (directory ++ name).toList = front ++ '/' :: name.toList := by
      rw [String.toList_append, endsInSlash, List.append_assoc, List.singleton_append]
    rw [if_pos (by simp [slash]), positionOf_behind_slash slashless named,
      positionOf_behind_slash List.not_mem_nil emptyName, sameRoot]
    rfl
  · have named : (directory ++ "/" ++ name).toList = directory.toList ++ '/' :: name.toList := by
      simp
    rw [if_neg (by simp [empty, slash]), positionOf_behind_slash slashless named,
      String.append_assoc, sameRoot]
    rfl

/-- A path leads to a place directly below the place that a directory leads to, from wherever
relative paths are followed. -/
def IsDirectlyInside (directory path : String) : Prop :=
  ∀ working, ∃ name, positionOf working path = name :: positionOf working directory

theorem isDirectlyInside_join_iff {name : String} (slashless : '/' ∉ name.toList)
    (directory : String) :
    IsDirectlyInside directory (join directory name) ↔ IsEntryName name := by
  constructor
  · intro inside
    obtain ⟨child, below⟩ := inside []
    rw [positionOf_join slashless] at below
    exact exists_enter_eq_cons_iff.mp ⟨child, below⟩
  · intro isName working
    rw [positionOf_join slashless]
    exact exists_enter_eq_cons_iff.mpr isName

end Path

/-- What a file tree finds under a name joined to a directory is that entry of the directory. -/
theorem FileTree.locate_join {tree : FileTree} {directory name : String}
    {position found : List String} (slashless : '/' ∉ name.toList) (isName : Path.IsEntryName name)
    (leads : tree.locate directory = .ok position)
    (leadsOn : tree.locate (Path.join directory name) = .ok found) :
    found = name :: position := by
  rw [eq_of_locate leadsOn, eq_of_locate leads, Path.positionOf_join slashless,
    Path.enter_of_isEntryName isName]

end MachineConsole
