import MachineConsole.Proofs.Text.Pieces

/-!
Contract: dotted names as lists of segments.

Owns:
- a name and its segments determine each other;
- `IsDottedPrefix`, which is being a prefix as a list of segments;
- `leading`, the name made of the leading segments of another.

Does not own: which names are registered.
-/

namespace MachineConsole

namespace Text

theorem segments_eq (name : String) :
    segments name = (name.toList.splitOn '.').map String.ofList := by
  rw [segments, pieces_eq_splitOn]

theorem segments_ne_nil (name : String) : segments name ≠ [] := by
  rw [segments_eq]
  simp [List.splitOn_ne_nil]

theorem dotless_of_mem_segments {name segment : String} (member : segment ∈ segments name) :
    '.' ∉ segment.toList := by
  obtain ⟨piece, isPiece, rfl⟩ := List.mem_map.mp member
  rw [String.toList_ofList]
  exact (of_mem_pieces isPiece).1

/-- Nothing of a name is lost in its segments. -/
theorem join_segments (name : String) : join "." (segments name) = name := by
  apply String.toList_injective
  rw [join_eq_intercalate, String.toList_intercalate, segments_eq, List.map_map]
  have unchanged : String.toList ∘ String.ofList = id := funext fun _ => String.toList_ofList
  rw [unchanged, List.map_id]
  exact List.intercalate_splitOn '.'

theorem segments_join {parts : List String} (nonempty : parts ≠ [])
    (dotless : ∀ part ∈ parts, '.' ∉ part.toList) : segments (join "." parts) = parts := by
  have joined : (join "." parts).toList = ['.'].intercalate (parts.map String.toList) := by
    rw [join_eq_intercalate, String.toList_intercalate]
    rfl
  rw [segments_eq, joined, List.splitOn_intercalate '.' (by simpa using dotless) (by simpa),
    List.map_map]
  have unchanged : String.ofList ∘ String.toList = id := funext fun _ => String.ofList_toList
  rw [unchanged, List.map_id]

theorem segments_injective : Function.Injective segments := by
  intro first second same
  rw [← join_segments first, same, join_segments]

/-- A dot between two names sets their segments apart. -/
theorem segments_append (front back : String) :
    segments (front ++ "." ++ back) = segments front ++ segments back := by
  have characters : (front ++ "." ++ back).toList = front.toList ++ '.' :: back.toList := by
    simp
  rw [segments_eq, segments_eq, segments_eq, characters, List.splitOn_append_cons_self,
    List.map_append]

theorem segments_of_dotless {name : String} (dotless : '.' ∉ name.toList) :
    segments name = [name] := by
  rw [segments_eq, List.splitOn_eq_singleton dotless, List.map_singleton, String.ofList_toList]

theorem join_append {front back : List String} (frontNonempty : front ≠ [])
    (backNonempty : back ≠ []) :
    join "." (front ++ back) = join "." front ++ "." ++ join "." back := by
  rw [join_eq_intercalate, join_eq_intercalate, join_eq_intercalate,
    String.intercalate_append_of_ne_nil frontNonempty backNonempty]

end Text

open Text (segments join)

/-! ### Dotted prefixes -/

/-- One name is another, or what stands in front of a dot in it. -/
def IsDottedPrefix (lead name : String) : Prop :=
  lead = name ∨ ∃ rest, name = lead ++ "." ++ rest

theorem isDottedPrefix_iff {lead name : String} :
    IsDottedPrefix lead name ↔ segments lead <+: segments name := by
  constructor
  · rintro (rfl | ⟨rest, rfl⟩)
    · exact List.prefix_refl _
    · rw [Text.segments_append]
      exact List.prefix_append _ _
  · rintro ⟨others, split⟩
    by_cases whole : others = []
    · rw [whole, List.append_nil] at split
      exact Or.inl (Text.segments_injective split)
    · refine Or.inr ⟨join "." others, ?_⟩
      rw [← Text.join_segments name, ← split,
        Text.join_append (Text.segments_ne_nil lead) whole, Text.join_segments]

theorem IsDottedPrefix.length_le {lead name : String} (isPrefix : IsDottedPrefix lead name) :
    lead.length ≤ name.length := by
  rcases isPrefix with rfl | ⟨rest, rfl⟩
  · exact Nat.le_refl _
  · rw [String.length_append, String.length_append]
    omega

/-! ### Leading segments -/

/-- The name made of so many leading segments of a name. -/
def leading (count : Nat) (name : String) : String :=
  join "." ((segments name).take count)

theorem segments_leading {count : Nat} (positive : 0 < count) (name : String) :
    segments (leading count name) = (segments name).take count := by
  apply Text.segments_join
  · have nonempty := Text.segments_ne_nil name
    simp [nonempty]
    omega
  · exact fun part member => Text.dotless_of_mem_segments (List.mem_of_mem_take member)

theorem leading_of_length_le {count : Nat} {name : String}
    (enough : (segments name).length ≤ count) : leading count name = name := by
  rw [leading, List.take_of_length_le enough, Text.join_segments]

/-- The leading segments of a name behind a dot come behind all the segments in front of it. -/
theorem leading_append {count : Nat} (positive : 0 < count) (front back : String) :
    leading ((segments front).length + count) (front ++ "." ++ back) =
      front ++ "." ++ leading count back := by
  have nonempty : (segments back).take count ≠ [] := by
    have segmentsNonempty := Text.segments_ne_nil back
    simp [segmentsNonempty]
    omega
  rw [leading, Text.segments_append, List.take_length_add_append,
    Text.join_append (Text.segments_ne_nil front) nonempty, Text.join_segments, leading]

theorem isDottedPrefix_leading {fewer more : Nat} (positive : 0 < fewer) (within : fewer ≤ more)
    (name : String) : IsDottedPrefix (leading fewer name) (leading more name) := by
  rw [isDottedPrefix_iff, segments_leading positive, segments_leading (by omega)]
  exact List.take_prefix_take_left within

/-- The dotted prefixes of a name are its leading segments. -/
theorem isDottedPrefix_iff_leading {lead name : String} :
    IsDottedPrefix lead name ↔
      ∃ count, 0 < count ∧ count ≤ (segments name).length ∧ lead = leading count name := by
  rw [isDottedPrefix_iff]
  constructor
  · intro isPrefix
    refine ⟨(segments lead).length, List.length_pos_iff.mpr (Text.segments_ne_nil lead),
      isPrefix.length_le, ?_⟩
    rw [leading, ← List.prefix_iff_eq_take.mp isPrefix, Text.join_segments]
  · rintro ⟨count, positive, within, rfl⟩
    rw [segments_leading positive]
    exact List.take_prefix count _

end MachineConsole
