import MachineConsole.Console.Completion
import MachineConsole.Proofs.Lexing.Paths

/-!
Contract: a text and the words that completion takes it apart into.

Owns:
- `Text.collapsed`, a text with its runs of blanks collapsed and those at its ends dropped;
- `collapsed_spaced_words`: words put together again collapse to what the text collapses to;
- `EndsWord`, the texts behind which a new word begins, and `words_append`: words are taken apart
  in front of such a place and behind it;
- `IsUnbroken`, the texts that are one word;
- `spacesEscaped_of_mem_words`: the spaces in words are escaped.

Does not own: the word that is being typed and its completions, which are
`MachineConsole.Proofs.Completion.Candidates`.
-/

namespace MachineConsole

/-! ### Collapsed texts -/

namespace Text

/-- The blanks that are owed in front of the next other character, behind one more character. None
are owed in a word, and nothing is owed in a gap at the beginning of a text. -/
def gapBehind (gap? : Option (List Char)) (character : Char) : Option (List Char) :=
  if isBlank character then some (gap?.getD [' ']) else none

/-- A text with a space in place of each run of blanks, from a place on where a gap is owed. -/
def collapseFrom (gap? : Option (List Char)) : List Char → List Char
  | [] => []
  | character :: rest =>
    if isBlank character then collapseFrom (gapBehind gap? character) rest
    else gap?.getD [] ++ character :: collapseFrom (gapBehind gap? character) rest

/-- A text without blanks at its ends and with one space in place of any other run of blanks. -/
def collapsed (text : List Char) : List Char :=
  collapseFrom (some []) text

theorem collapseFrom_append (gap? : Option (List Char)) (front back : List Char) :
    collapseFrom gap? (front ++ back) =
      collapseFrom gap? front ++ collapseFrom (front.foldl gapBehind gap?) back := by
  induction front generalizing gap? with
  | nil => rfl
  | cons character front inductionHypothesis =>
      rw [List.cons_append, collapseFrom, collapseFrom, List.foldl_cons, inductionHypothesis]
      split <;> simp

/-- The beginning of a text collapses to the beginning of what the text collapses to. -/
theorem collapsed_begins {front text : List Char} (begins : front <+: text) :
    collapsed front <+: collapsed text := by
  obtain ⟨back, rfl⟩ := begins
  unfold collapsed
  rw [collapseFrom_append]
  exact List.prefix_append _ _

/-- It does not matter which blank follows a text. -/
theorem collapseFrom_append_blank {blank : Char} (isBlank : isBlank blank = true)
    (gap? : Option (List Char)) (front back : List Char) :
    collapseFrom gap? (front ++ blank :: back) =
      collapseFrom gap? front ++
        collapseFrom (some ((front.foldl gapBehind gap?).getD [' '])) back := by
  rw [collapseFrom_append, collapseFrom, if_pos isBlank, gapBehind, if_pos isBlank]

theorem isBlank_space : isBlank ' ' = true :=
  rfl

theorem collapsed_append_space (text : List Char) : collapsed (text ++ [' ']) = collapsed text := by
  unfold collapsed
  rw [collapseFrom_append_blank isBlank_space, collapseFrom, List.append_nil]

example : collapsed ['\t', 'a', ' ', '\t', 'b', ' '] = ['a', ' ', 'b'] := by
  decide

end Text

open Text (isBlank escapeSpaces unescapeSpaces collapsed collapseFrom collapseFrom_append_blank
  isBlank_space)

namespace Completion

/-! ### Words and the text they are taken from -/

theorem wordsFrom_escape (begun rest : List Char) :
    wordsFrom begun ('\\' :: ' ' :: rest) = wordsFrom (' ' :: '\\' :: begun) rest :=
  rfl

theorem wordsFrom_cons {character : Char} {rest : List Char}
    (notEscape : ∀ more, character = '\\' → rest = ' ' :: more → False) (begun : List Char) :
    wordsFrom begun (character :: rest) =
      if isBlank character then nonEmptyWord begun ++ wordsFrom [] rest
      else wordsFrom (character :: begun) rest := by
  conv => lhs; unfold wordsFrom
  split
  · contradiction
  · simp_all
  · simp_all

theorem wordsFrom_blank {blank : Char} (isBlank : isBlank blank = true) (begun rest : List Char) :
    wordsFrom begun (blank :: rest) = nonEmptyWord begun ++ wordsFrom [] rest := by
  have notEscape : ∀ more, blank = '\\' → rest = ' ' :: more → False := by
    rintro more rfl
    cases isBlank
  rw [wordsFrom_cons notEscape, if_pos isBlank]

theorem spaced_append (front back : List String) :
    spaced (front ++ back) = spaced front ++ spaced back := by
  simp [spaced]

theorem toList_spaced_cons (word : String) (words : List String) :
    (spaced (word :: words)).toList = word.toList ++ ' ' :: (spaced words).toList := by
  simp [spaced]

theorem toList_spaced_nonEmptyWord {begun : List Char} (nonempty : begun ≠ [])
    (words : List String) :
    (spaced (nonEmptyWord begun ++ words)).toList =
      begun.reverse ++ ' ' :: (spaced words).toList := by
  rw [nonEmptyWord, if_neg nonempty, List.singleton_append, toList_spaced_cons, String.toList_ofList]

/-- Behind a gap, words put together again collapse like the text they are taken from. -/
theorem collapseFrom_spaced (gap begun text : List Char) :
    collapseFrom (some gap) (spaced (wordsFrom begun text)).toList =
      collapseFrom (some gap) (begun.reverse ++ text) := by
  induction begun, text using wordsFrom.induct generalizing gap with
  | case1 begun =>
      by_cases empty : begun = []
      · subst empty
        rfl
      · have written := toList_spaced_nonEmptyWord empty []
        rw [List.append_nil] at written
        change collapseFrom (some gap) (spaced (nonEmptyWord begun)).toList = _
        rw [written, collapseFrom_append_blank isBlank_space, List.append_nil]
        exact List.append_nil _
  | case2 begun rest inductionHypothesis =>
      rw [wordsFrom_escape, inductionHypothesis]
      simp
  | case3 begun character rest _ blank inductionHypothesis =>
      rw [wordsFrom_blank blank]
      by_cases empty : begun = []
      · subst empty
        have owed : collapseFrom (some gap) (character :: rest) = collapseFrom (some gap) rest := by
          rw [collapseFrom, if_pos blank, Text.gapBehind, if_pos blank, Option.getD_some]
        exact (inductionHypothesis gap).trans owed.symm
      · rw [toList_spaced_nonEmptyWord empty, collapseFrom_append_blank isBlank_space,
          collapseFrom_append_blank blank, inductionHypothesis]
        rfl
  | case4 begun character rest notEscape other inductionHypothesis =>
      rw [wordsFrom_cons notEscape, if_neg other, inductionHypothesis]
      simp

/-- Words put together again collapse to what the text collapses to. -/
theorem collapsed_spaced_words (text : List Char) :
    collapsed (spaced (words text)).toList = collapsed text :=
  collapseFrom_spaced [] [] text

/-! ### Places where a new word begins -/

/-- A blank ends a word unless it is a space behind a backslash. -/
def Separates (front : List Char) (character : Char) : Prop :=
  isBlank character = true ∧ (character = ' ' → front.getLast? ≠ some '\\')

/-- A text that is empty or whose last character ends a word. -/
def EndsWord (text : List Char) : Prop :=
  ∀ last ∈ text.getLast?, Separates text.dropLast last

/-- A text in which no character ends a word. -/
def IsUnbroken (text : List Char) : Prop :=
  ∀ front character back, text = front ++ character :: back → ¬Separates front character

theorem Separates.of_cons {first character : Char} {front : List Char}
    (separates : Separates (first :: front) character) : Separates front character := by
  refine ⟨separates.1, fun space => ?_⟩
  cases front with
  | nil => simp
  | cons second front => exact separates.2 space

/-- Behind anything but a backslash, what follows a text separates as it does without that text. -/
theorem separates_append_iff {front : List Char} (notBackslash : front.getLast? ≠ some '\\')
    {back : List Char} {character : Char} :
    Separates (front ++ back) character ↔ Separates back character := by
  obtain rfl | ⟨earlier, last, rfl⟩ := List.eq_nil_or_concat back
  · rw [List.append_nil]
    exact and_congr_right fun _ => iff_of_true (fun _ => notBackslash) (by simp)
  · rw [List.concat_eq_append, Separates, Separates, ← List.append_assoc, List.getLast?_concat,
      List.getLast?_concat]

theorem EndsWord.getLast?_ne {text : List Char} (ends : EndsWord text) :
    text.getLast? ≠ some '\\' := by
  intro backslash
  have blank := (ends '\\' backslash).1
  cases blank

/-- Behind a backslash a space is taken into the word, anywhere else it is not. -/
theorem notEscape_append {character separator : Char} {rest : List Char}
    (notEscape : ∀ more, character = '\\' → rest = ' ' :: more → False)
    (separates : Separates (character :: rest) separator) (behind : List Char) :
    ∀ more, character = '\\' → rest ++ separator :: behind = ' ' :: more → False := by
  intro more backslash space
  cases rest with
  | nil => exact separates.2 (List.cons.inj space).1 (congrArg some backslash)
  | cons first rest => exact notEscape rest backslash (by rw [(List.cons.inj space).1])

/-- Words are taken apart at a character that separates and behind it. -/
theorem wordsFrom_append_separator {separator : Char} (begun front back : List Char)
    (separates : Separates front separator) :
    wordsFrom begun (front ++ separator :: back) =
      wordsFrom begun (front ++ [separator]) ++ wordsFrom [] back := by
  induction begun, front using wordsFrom.induct with
  | case1 begun =>
      have nothing : wordsFrom [] [] = [] := rfl
      rw [List.nil_append, List.nil_append, wordsFrom_blank separates.1 begun back,
        wordsFrom_blank separates.1 begun [], nothing, List.append_nil]
  | case2 begun rest inductionHypothesis =>
      exact inductionHypothesis separates.of_cons.of_cons
  | case3 begun character rest _ blank inductionHypothesis =>
      rw [List.cons_append, List.cons_append, wordsFrom_blank blank, wordsFrom_blank blank,
        inductionHypothesis separates.of_cons, List.append_assoc]
  | case4 begun character rest notEscape other inductionHypothesis =>
      have stillNotEscape := notEscape_append notEscape separates
      rw [List.cons_append, List.cons_append, wordsFrom_cons (stillNotEscape back),
        wordsFrom_cons (stillNotEscape []), if_neg other, if_neg other]
      exact inductionHypothesis separates.of_cons

theorem words_append {front : List Char} (ends : EndsWord front) (back : List Char) :
    words (front ++ back) = words front ++ words back := by
  obtain rfl | ⟨earlier, separator, rfl⟩ := List.eq_nil_or_concat front
  · rfl
  · rw [List.concat_eq_append] at ends ⊢
    have separates := ends separator (by simp)
    rw [List.dropLast_concat] at separates
    unfold words
    rw [List.append_assoc, List.singleton_append]
    exact wordsFrom_append_separator [] earlier back separates

/-- A text in which nothing separates continues a word as a whole. -/
theorem wordsFrom_of_isUnbroken {begun text : List Char} (unbroken : IsUnbroken text) :
    wordsFrom begun text = nonEmptyWord (text.reverse ++ begun) := by
  induction begun, text using wordsFrom.induct with
  | case1 begun => rfl
  | case2 begun rest inductionHypothesis =>
      have restUnbroken : IsUnbroken rest := by
        rintro front character back rfl separates
        have behindSpace : [('\\' : Char), ' '].getLast? ≠ some '\\' := by decide
        exact unbroken ('\\' :: ' ' :: front) character back rfl
          ((separates_append_iff behindSpace).mpr separates)
      rw [wordsFrom_escape, inductionHypothesis restUnbroken]
      simp
  | case3 begun character rest _ blank _ =>
      exact absurd ⟨blank, by simp⟩ (unbroken [] character rest rfl)
  | case4 begun character rest notEscape other inductionHypothesis =>
      have restUnbroken : IsUnbroken rest := by
        rintro front separator back rfl separates
        refine unbroken (character :: front) separator back rfl ⟨separates.1, ?_⟩
        rintro rfl
        cases front with
        | nil =>
            intro backslash
            exact notEscape back (Option.some.inj backslash) rfl
        | cons second front => exact separates.2 rfl
      rw [wordsFrom_cons notEscape, if_neg other, inductionHypothesis restUnbroken]
      simp

theorem words_of_isUnbroken {text : List Char} (unbroken : IsUnbroken text)
    (nonempty : text ≠ []) : words text = [String.ofList text] := by
  rw [words, wordsFrom_of_isUnbroken unbroken, List.append_nil, nonEmptyWord,
    if_neg (by simpa using nonempty), List.reverse_reverse]

/-! ### Escaped spaces in words -/

/-- A text in which every space is escaped. -/
def SpacesEscaped (text : List Char) : Prop :=
  escapeSpaces (unescapeSpaces text) = text

theorem escapeSpaces_append (front back : List Char) :
    escapeSpaces (front ++ back) = escapeSpaces front ++ escapeSpaces back :=
  List.flatMap_append

/-- What is not a space does not become one behind a backslash. -/
theorem unescapeSpaces_append {back : List Char} (other : ∀ more, back ≠ ' ' :: more)
    (front : List Char) :
    unescapeSpaces (front ++ back) = unescapeSpaces front ++ unescapeSpaces back := by
  induction front using Text.unescapeSpaces.induct with
  | case1 => rfl
  | case2 rest inductionHypothesis => exact congrArg (' ' :: ·) inductionHypothesis
  | case3 character rest notEscape inductionHypothesis =>
      have stillNotEscape : ∀ more, character = '\\' → rest ++ back = ' ' :: more → False := by
        intro more backslash space
        cases rest with
        | nil => exact other more space
        | cons first rest => exact notEscape rest backslash (by rw [(List.cons.inj space).1])
      rw [List.cons_append, Text.unescapeSpaces_cons stillNotEscape,
        Text.unescapeSpaces_cons notEscape, inductionHypothesis, List.cons_append]

theorem SpacesEscaped.append {front back : List Char} (other : ∀ more, back ≠ ' ' :: more)
    (frontEscaped : SpacesEscaped front) (backEscaped : SpacesEscaped back) :
    SpacesEscaped (front ++ back) := by
  unfold SpacesEscaped
  rw [unescapeSpaces_append other, escapeSpaces_append, frontEscaped, backEscaped]

theorem spacesEscaped_escape : SpacesEscaped ['\\', ' '] :=
  rfl

theorem spacesEscaped_singleton {character : Char} (other : character ≠ ' ') :
    SpacesEscaped [character] := by
  have alone : unescapeSpaces [character] = [character] :=
    Text.unescapeSpaces_cons (by simp)
  unfold SpacesEscaped
  rw [alone, Text.escapeSpaces_cons other]
  rfl

theorem SpacesEscaped.tail {character : Char} {rest : List Char} (notSpace : character ≠ ' ')
    (notBackslash : character ≠ '\\') (escaped : SpacesEscaped (character :: rest)) :
    SpacesEscaped rest := by
  unfold SpacesEscaped at escaped
  rw [Text.unescapeSpaces_cons fun _ same => absurd same notBackslash,
    Text.escapeSpaces_cons notSpace] at escaped
  exact (List.cons.inj escaped).2

theorem spacesEscaped_of_mem_nonEmptyWord {begun : List Char} {word : String}
    (escaped : SpacesEscaped begun.reverse) (member : word ∈ nonEmptyWord begun) :
    SpacesEscaped word.toList := by
  unfold nonEmptyWord at member
  split at member
  · cases member
  · rwa [List.mem_singleton.mp member, String.toList_ofList]

theorem spacesEscaped_of_mem_wordsFrom {begun text : List Char}
    (escaped : SpacesEscaped begun.reverse) :
    ∀ word ∈ wordsFrom begun text, SpacesEscaped word.toList := by
  induction begun, text using wordsFrom.induct with
  | case1 begun => exact fun word member => spacesEscaped_of_mem_nonEmptyWord escaped member
  | case2 begun rest inductionHypothesis =>
      apply inductionHypothesis
      have longer : SpacesEscaped (begun.reverse ++ ['\\', ' ']) :=
        escaped.append (by simp) spacesEscaped_escape
      simpa using longer
  | case3 begun character rest _ blank inductionHypothesis =>
      intro word member
      rw [wordsFrom_blank blank, List.mem_append] at member
      cases member with
      | inl ended => exact spacesEscaped_of_mem_nonEmptyWord escaped ended
      | inr later =>
          have nothing : SpacesEscaped ([] : List Char).reverse := rfl
          exact inductionHypothesis nothing word later
  | case4 begun character rest notEscape other inductionHypothesis =>
      rw [wordsFrom_cons notEscape, if_neg other]
      apply inductionHypothesis
      have notSpace : character ≠ ' ' := by
        rintro rfl
        exact other isBlank_space
      rw [List.reverse_cons]
      exact escaped.append (by simpa using notSpace) (spacesEscaped_singleton notSpace)

/-- The spaces in the words of a text are escaped. -/
theorem spacesEscaped_of_mem_words {text : List Char} {word : String}
    (member : word ∈ words text) : SpacesEscaped word.toList := by
  have begun : SpacesEscaped ([] : List Char).reverse := rfl
  exact spacesEscaped_of_mem_wordsFrom begun word member

end Completion

end MachineConsole
