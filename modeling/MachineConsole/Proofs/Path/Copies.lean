import MachineConsole.Proofs.Path.Positions
import MachineConsole.Uri

/-!
Contract: the names of copies of remote resources.

Owns:
- `SegmentedUri`, a text taken apart around its last segment in front of any query or fragment;
- `cacheName_text`: the name of a copy is that segment with its doubtful characters replaced;
- `exists_segmentedUri`: every remote resource has such a segment;
- `copy_directlyInside_iff`: a copy lies directly inside the directory of copies unless the last
  segment is a single or a double dot.

Does not own: fetching resources.
-/

namespace MachineConsole.Uri

/-! ### Last segments -/

/-- Whether a character can stand in front of any query or fragment. -/
def isInside (character : Char) : Bool :=
  character != '?' && character != '#'

/-- A text taken apart around the last segment of its resource. In front of the segment there is
nothing or a text that ends in a slash, behind it there may be slashes and then a query or a
fragment. -/
structure SegmentedUri where
  front : List Char
  segment : List Char
  slashes : Nat
  behind : List Char
  nonempty : segment ≠ []
  slashless : '/' ∉ segment
  begins : front = [] ∨ front.getLast? = some '/'
  inside : ∀ character ∈ front ++ segment, isInside character = true
  ends : ∀ character, behind.head? = some character → isInside character = false

namespace SegmentedUri

/-- The part in front of any query or fragment. -/
def resource (uri : SegmentedUri) : List Char :=
  uri.front ++ uri.segment ++ List.replicate uri.slashes '/'

def text (uri : SegmentedUri) : String :=
  String.ofList (uri.resource ++ uri.behind)

theorem takeWhile_text (uri : SegmentedUri) :
    uri.text.toList.takeWhile isInside = uri.resource := by
  have allInside : ∀ character ∈ uri.resource, isInside character = true := by
    intro character member
    rcases List.mem_append.mp member with named | slash
    · exact uri.inside character named
    · rw [List.eq_of_mem_replicate slash]
      rfl
  have nothingBehind : uri.behind.takeWhile isInside = [] := by
    cases split : uri.behind with
    | nil => rfl
    | cons first rest =>
        have stops : isInside first = false := uri.ends first (by rw [split]; rfl)
        exact List.takeWhile_cons_of_neg (by simp [stops])
  rw [text, String.toList_ofList, List.takeWhile_append_of_pos allInside, nothingBehind,
    List.append_nil]

end SegmentedUri

/-- A remote resource begins with a letter. -/
theorem exists_letter_of_isRemote {uri : String} (remote : isRemote uri = true) :
    ∃ letter rest, uri.toList = letter :: rest ∧ letter.isAlpha = true := by
  rw [isRemote] at remote
  split at remote
  · cases remote
  · next scheme rest cuts =>
      have split := Text.eq_of_cutAt? cuts
      cases scheme with
      | nil => simp [isScheme] at remote
      | cons letter more =>
          refine ⟨letter, more ++ [':', '/', '/'] ++ rest, by simpa using split, ?_⟩
          simp only [isScheme, Bool.and_eq_true] at remote
          exact remote.1.1.1

theorem isInside_of_isAlpha {letter : Char} (isLetter : letter.isAlpha = true) :
    isInside letter = true ∧ letter ≠ '/' := by
  refine ⟨?_, fun slash => ?_⟩
  · rw [isInside, Bool.and_eq_true, bne_iff_ne, bne_iff_ne]
    constructor <;> rintro rfl <;> exact absurd isLetter (by decide)
  · subst slash
    exact absurd isLetter (by decide)

/-- Every remote resource has a last segment, at the latest its scheme. -/
theorem exists_segmentedUri {uri : String} (remote : isRemote uri = true) :
    ∃ parts : SegmentedUri, parts.text = uri := by
  obtain ⟨letter, rest, begins, isLetter⟩ := exists_letter_of_isRemote remote
  obtain ⟨letterInside, noSlash⟩ := isInside_of_isAlpha isLetter
  have isNamed : ∃ character ∈ uri.toList.takeWhile isInside, character ≠ '/' := by
    refine ⟨letter, ?_, noSlash⟩
    rw [begins, List.takeWhile_cons_of_pos letterInside]
    exact List.mem_cons_self
  obtain ⟨front, segment, slashes, resource, nonempty, slashless, frontEnds⟩ :=
    Text.exists_lastRun isNamed
  have inside : ∀ character ∈ front ++ segment, isInside character = true := by
    intro character member
    have inResource := List.mem_append_left (List.replicate slashes '/') member
    rw [← resource] at inResource
    exact List.mem_takeWhile_imp inResource
  have ends : ∀ character, (uri.toList.dropWhile isInside).head? = some character →
      isInside character = false := by
    intro character first
    have stops := List.head?_dropWhile_not isInside uri.toList
    rw [first] at stops
    exact stops
  refine ⟨⟨front, segment, slashes, _, nonempty, slashless, frontEnds, inside, ends⟩, ?_⟩
  apply String.toList_injective
  rw [SegmentedUri.text, String.toList_ofList, SegmentedUri.resource]
  exact (congrArg (· ++ _) resource.symm).trans List.takeWhile_append_dropWhile

/-! ### Names of copies -/

/-- A character as it stands in the name of a copy. -/
def cleaned (character : Char) : Char :=
  if isNameCharacter character then character else '_'

theorem isNameCharacter_cleaned (character : Char) :
    isNameCharacter (cleaned character) = true := by
  unfold cleaned
  split
  · next isName => exact isName
  · rfl

theorem cleaned_eq_dot_iff {character : Char} : cleaned character = '.' ↔ character = '.' := by
  unfold cleaned
  split
  · rfl
  · next noName =>
      refine ⟨fun same => absurd same (by decide), ?_⟩
      rintro rfl
      exact absurd rfl noName

/-- The name of a copy is the last segment with its doubtful characters replaced. -/
theorem cacheName_text (uri : SegmentedUri) :
    cacheName uri.text = String.ofList (uri.segment.map cleaned) := by
  have last := Text.find?_reverse_pieces uri.nonempty uri.slashless uri.begins uri.slashes
  have resource := uri.takeWhile_text
  unfold isInside at resource
  simp only [cacheName]
  rw [resource, SegmentedUri.resource, last]
  rfl

theorem isNameCharacter_of_mem_cacheName {uri : String} {character : Char}
    (member : character ∈ (cacheName uri).toList) : isNameCharacter character = true := by
  rw [cacheName, String.toList_ofList] at member
  obtain ⟨original, -, rfl⟩ := List.mem_map.mp member
  exact isNameCharacter_cleaned original

theorem slashless_cacheName (uri : String) : '/' ∉ (cacheName uri).toList :=
  fun member => absurd (isNameCharacter_of_mem_cacheName member) (by decide)

/-! ### Places of copies -/

/-- The last segment of a text, in front of any query or fragment, is a single or a double dot. -/
def EndsInDots (uri : String) : Prop :=
  ∃ parts : SegmentedUri, parts.text = uri ∧
    (parts.segment = ['.'] ∨ parts.segment = ['.', '.'])

/-- No other character is replaced by a dot. -/
theorem cacheName_text_eq_dots_iff (uri : SegmentedUri) (count : Nat) :
    cacheName uri.text = String.ofList (List.replicate count '.') ↔
      uri.segment = List.replicate count '.' := by
  rw [cacheName_text, String.ofList_inj]
  simp [List.eq_replicate_iff, cleaned_eq_dot_iff]

theorem cacheName_eq_dots_iff {uri : String} (remote : isRemote uri = true) :
    cacheName uri = "." ∨ cacheName uri = ".." ↔ EndsInDots uri := by
  have dots : ∀ parts : SegmentedUri,
      cacheName parts.text = "." ∨ cacheName parts.text = ".." ↔
        parts.segment = ['.'] ∨ parts.segment = ['.', '.'] := fun parts =>
    or_congr (cacheName_text_eq_dots_iff parts 1) (cacheName_text_eq_dots_iff parts 2)
  constructor
  · intro named
    obtain ⟨parts, rfl⟩ := exists_segmentedUri remote
    exact ⟨parts, rfl, (dots parts).mp named⟩
  · rintro ⟨parts, rfl, isDots⟩
    exact (dots parts).mpr isDots

theorem cacheName_ne_empty {uri : String} (remote : isRemote uri = true) : cacheName uri ≠ "" := by
  obtain ⟨parts, rfl⟩ := exists_segmentedUri remote
  rw [cacheName_text]
  simpa using parts.nonempty

/-- The name of a copy is not empty and has only letters and digits of ASCII, dots, hyphens and
underscores in it. It names the copy directly inside the directory of copies unless the last segment
of the resource is a single or a double dot. -/
theorem copy_directlyInside_iff {uri : String} (remote : isRemote uri = true) (directory : String) :
    cacheName uri ≠ "" ∧
    (∀ character ∈ (cacheName uri).toList, character.isAlphanum = true ∨ character = '.' ∨
      character = '-' ∨ character = '_') ∧
    (cacheName uri ≠ "." ∧ cacheName uri ≠ ".." ↔ ¬ EndsInDots uri) ∧
    (Path.IsDirectlyInside directory (Path.join directory (cacheName uri)) ↔ ¬ EndsInDots uri) := by
  have noDots : cacheName uri ≠ "." ∧ cacheName uri ≠ ".." ↔ ¬ EndsInDots uri := by
    rw [← cacheName_eq_dots_iff remote, not_or]
  refine ⟨cacheName_ne_empty remote, fun character member => ?_, noDots, ?_⟩
  · have isName := isNameCharacter_of_mem_cacheName member
    simpa [isNameCharacter, or_assoc] using isName
  · rw [Path.isDirectlyInside_join_iff (slashless_cacheName uri), ← noDots]
    exact and_iff_right (cacheName_ne_empty remote)

theorem copy_directlyInside_behind_query :
    let uri := "https://host/dir/we ird.resc//?path=/.."
    isRemote uri = true ∧ cacheName uri = "we_ird.resc" ∧
      Path.IsDirectlyInside "/tmp/copies/" (Path.join "/tmp/copies/" (cacheName uri)) := by
  intro uri
  have remote : isRemote uri = true := by decide +kernel
  have name : cacheName uri = "we_ird.resc" := by decide +kernel
  have safe := copy_directlyInside_iff remote "/tmp/copies/"
  refine ⟨remote, name, safe.2.2.2.mpr (safe.2.2.1.mp ?_)⟩
  rw [name]
  decide

/-- Two dots behind a host are taken for the name, which then leads to the directory above. -/
theorem copy_notInside_behind_host :
    ¬ ∀ uri : String, isRemote uri = true →
      cacheName uri ≠ "" ∧
      (∀ character ∈ (cacheName uri).toList, character.isAlphanum = true ∨ character = '.' ∨
        character = '-' ∨ character = '_') ∧
      (cacheName uri ≠ "." ∧ cacheName uri ≠ "..") ∧
      ∀ directory, Path.IsDirectlyInside directory (Path.join directory (cacheName uri)) := by
  intro allInside
  have inside := allInside "http://h/.." (by decide +kernel)
  exact inside.2.2.1.2 (by decide +kernel)

end MachineConsole.Uri
