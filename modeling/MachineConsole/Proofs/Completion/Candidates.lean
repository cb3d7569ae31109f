import MachineConsole.Proofs.Completion.LastCommand
import MachineConsole.Proofs.Completion.Words
import MachineConsole.Proofs.Evaluation.CurrentMachine
import MachineConsole.Proofs.Naming.Resolution
import MachineConsole.Proofs.Text.Pieces
import Mathlib.Data.List.Induction

/-!
Contract: what completions keep of the text that they complete.

Owns:
- `IsTyped`, a text in front of the word being typed and that word;
- `Console.Completes`, the ways in which a completion comes about, and `mem_suggestions_iff`: there
  are no others;
- `KeepsText`, and which completions keep the whole text;
- `suggestions_keep`: completions keep what is in front of the word being typed and in front of the
  command being typed, with two exceptions.

The exceptions are members of the manager of emulations, which are offered without any text in front
of them, and arguments where the words that completion takes a line apart into are not those that its
commands are taken apart into.
-/

namespace MachineConsole

open Text (collapsed collapsed_begins isBlank)

namespace Completion

/-! ### The word being typed -/

/-- A text in front of the word being typed, up to the last character that ends a word, and that
word. -/
structure IsTyped (before word : List Char) : Prop where
  ends : EndsWord before
  unbroken : IsUnbroken word

/-- Every text has a word being typed at its end, which may be empty. -/
theorem exists_isTyped (text : List Char) :
    ∃ before word, text = before ++ word ∧ IsTyped before word := by
  induction text using List.reverseRecOn with
  | nil => exact ⟨[], [], rfl, by simp [EndsWord], by simp [IsUnbroken]⟩
  | append_singleton text last inductionHypothesis =>
      obtain ⟨before, word, rfl, ends, unbroken⟩ := inductionHypothesis
      by_cases separates : Separates (before ++ word) last
      · refine ⟨before ++ word ++ [last], [], by simp, ?_, by simp [IsUnbroken]⟩
        simpa [EndsWord] using separates
      · refine ⟨before, word ++ [last], by simp, ends, ?_⟩
        intro front character back split separatesInside
        obtain rfl | ⟨earlier, other, rfl⟩ := List.eq_nil_or_concat back
        · obtain ⟨rfl, rfl⟩ : word = front ∧ last = character := by simpa using split
          exact separates ((separates_append_iff ends.getLast?_ne).mpr separatesInside)
        · have shorter : word = front ++ character :: earlier := by
            rw [List.concat_eq_append, ← List.cons_append, ← List.append_assoc] at split
            exact (List.append_inj' split rfl).1
          exact unbroken front character earlier shorter separatesInside

/-! ### The parts of a line that completions are made of -/

/-- The text in front of the command being typed. -/
def head (text : List Char) : List Char :=
  text.take (text.length - (lastCommand text).length)

/-- The word that is completed; a space begins a new one. -/
def completedWord (text : List Char) : String :=
  if text.getLast? == some ' ' then "" else (words text).getLast?.getD ""

/-- The words in front of the last one. -/
def beforeWord (text : List Char) : String :=
  spaced (words text).dropLast

/-- The words in front of an argument that is completed. -/
def beforeArgument (text : List Char) : String :=
  if text.getLast? == some ' ' then spaced (words text) else beforeWord text

/-- The words in front of the last one are those in front of the word being typed. -/
theorem IsTyped.beforeWord_eq {before word : List Char} (typed : IsTyped before word)
    (nonempty : word ≠ []) : beforeWord (before ++ word) = spaced (words before) := by
  have single : words word = [String.ofList word] := words_of_isUnbroken typed.unbroken nonempty
  rw [beforeWord, words_append typed.ends, single, List.dropLast_concat]

theorem lastCommand_suffix (text : List Char) : lastCommand text <:+ text := by
  unfold lastCommand
  cases found : afterSeparator? none text with
  | none => exact List.dropWhile_suffix isBlank
  | some after =>
      obtain ⟨before, rfl, -⟩ := afterSeparator?_eq_some_iff.mp found
      have behind : after <:+ before ++ ';' :: after :=
        (List.suffix_cons ';' after).trans (List.suffix_append before _)
      exact (List.dropWhile_suffix isBlank).trans behind

theorem head_append_lastCommand (text : List Char) : head text ++ lastCommand text = text := by
  obtain ⟨front, split⟩ := lastCommand_suffix text
  have frontLength : text.length - (lastCommand text).length = front.length := by
    have whole := congrArg List.length split
    rw [List.length_append] at whole
    omega
  have isFront : head text = front := by
    unfold head
    rw [frontLength, ← split, List.take_left]
  rw [isFront, split]

/-! ### What is kept -/

/-- A candidate begins with a text, up to collapsing and trimming of blanks. -/
def KeepsText (text : List Char) (candidate : String) : Prop :=
  collapsed text <+: collapsed candidate.toList

theorem KeepsText.of_begins {front text : List Char} {candidate : String}
    (keeps : KeepsText text candidate) (begins : front <+: text) : KeepsText front candidate :=
  (collapsed_begins begins).trans keeps

theorem keeps_of_begins {text : List Char} {candidate : String}
    (begins : text <+: candidate.toList) : KeepsText text candidate :=
  collapsed_begins begins

/-- What begins with the words of a text keeps the text. -/
theorem keeps_spaced_words (text : List Char) (completed : String) :
    KeepsText text (spaced (words text) ++ completed) := by
  unfold KeepsText
  rw [← collapsed_spaced_words text, String.toList_append]
  exact collapsed_begins (List.prefix_append _ _)

/-- What begins with all words but the last and goes on with the last one keeps the text. -/
theorem keeps_of_last_word {text : List Char} {word completed : String}
    (last : (words text).getLast? = some word) (begins : word.toList <+: completed.toList) :
    KeepsText text (beforeWord text ++ completed) := by
  have written : (spaced (words text)).toList =
      (beforeWord text).toList ++ word.toList ++ [' '] := by
    have split : (words text).dropLast ++ [word] = words text :=
      List.dropLast_append_getLast? word last
    conv => lhs; rw [← split]
    rw [spaced_append, String.toList_append, toList_spaced_cons, List.append_assoc]
    rfl
  unfold KeepsText
  rw [← collapsed_spaced_words text, written, Text.collapsed_append_space, String.toList_append]
  exact collapsed_begins ((List.prefix_append_right_inj _).mpr begins)

end Completion

open Completion

namespace Console

variable {console : Console} {text : List Char}

/-! ### How completions come about -/

/-- A member of the manager of emulations is offered, because nothing else completes a command
without a space in it. -/
structure OffersMember (console : Console) (text : List Char) (candidate : String) : Prop where
  single : ' ' ∉ lastCommand text
  unfound : console.sigilCompletions (beforeWord text) (completedWord text) = []
  unnamed : console.nameCompletions (String.ofList (lastCommand text)) = []
  offered : candidate ∈ beginningWithLower (String.ofList (lastCommand text))
    (console.memberNames (.manager console.manager))

/-- Behind some words, a completion of what stands behind the only space in the command is
offered. -/
def OffersArgument (console : Console) (text : List Char) (before candidate : String) : Prop :=
  ∃ name typed completed,
    ((' ' ∉ name ∧ ' ' ∉ typed) ∧ name ++ ' ' :: typed = lastCommand text) ∧
    completed ∈ console.argumentCompletions (String.ofList name) (String.ofList typed) ∧
    candidate = before ++ completed

/-- The ways in which a candidate comes about. -/
inductive Completes (console : Console) (text : List Char) (candidate : String) : Prop where
  | sigil (found : candidate ∈ console.sigilCompletions (beforeWord text) (completedWord text))
  | name (name : String) (single : ' ' ∉ lastCommand text)
      (offered : name ∈ console.nameCompletions (String.ofList (lastCommand text)))
      (written : candidate = String.ofList (head text) ++ name)
  | argument (offers : console.OffersArgument text (beforeArgument text) candidate)
  | member (offers : console.OffersMember text candidate)

theorem suggestions_eq (console : Console) (line : String) :
    console.suggestions line =
      Text.sortedDistinct
        (console.lineCompletions (String.ofList (head line.toList))
          (String.ofList (lastCommand line.toList)) (beforeArgument line.toList)
          (console.sigilCompletions (beforeWord line.toList) (completedWord line.toList))) :=
  rfl

section

variable {head beforeArgument candidate : String} {command name typed : List Char}
  {found : List String}

theorem lineCompletions_of_single (single : ' ' ∉ command) :
    console.lineCompletions head (String.ofList command) beforeArgument found =
      match found ++ (console.nameCompletions (String.ofList command)).map (head ++ ·) with
      | [] => beginningWithLower (String.ofList command)
          (console.memberNames (.manager console.manager))
      | completions => completions := by
  unfold lineCompletions
  rw [String.toList_ofList, Text.pieces_eq_singleton_iff.mpr ⟨single, rfl⟩]
  rfl

theorem lineCompletions_of_pair (isPair : (' ' ∉ name ∧ ' ' ∉ typed) ∧
    name ++ ' ' :: typed = command) :
    console.lineCompletions head (String.ofList command) beforeArgument found =
      found ++ (console.argumentCompletions (String.ofList name) (String.ofList typed)).map
        (beforeArgument ++ ·) := by
  unfold lineCompletions
  rw [String.toList_ofList, Text.pieces_eq_pair_iff.mpr isPair]
  rfl

theorem mem_lineCompletions_of_found {command : String} (isFound : candidate ∈ found) :
    candidate ∈ console.lineCompletions head command beforeArgument found := by
  unfold lineCompletions
  split
  · split
    · next nothing =>
        obtain ⟨rfl, -⟩ := List.append_eq_nil_iff.mp nothing
        cases isFound
    · exact List.mem_append_left _ isFound
  · exact List.mem_append_left _ isFound
  · exact isFound

end

theorem completes_of_mem_suggestions {line candidate : String}
    (offered : candidate ∈ console.suggestions line) :
    console.Completes line.toList candidate := by
  rw [suggestions_eq, Text.mem_sortedDistinct] at offered
  unfold lineCompletions at offered
  rw [String.toList_ofList] at offered
  -- The pieces between spaces say whether a name, an argument or neither is completed.
  split at offered
  · next name single =>
      obtain ⟨piece, isPiece, rfl⟩ := List.map_eq_singleton_iff.mp single
      obtain ⟨single, rfl⟩ := Text.pieces_eq_singleton_iff.mp isPiece
      split at offered
      · next nothing =>
          obtain ⟨unfound, unnamed⟩ := List.append_eq_nil_iff.mp nothing
          exact .member ⟨single, unfound, List.map_eq_nil_iff.mp unnamed, offered⟩
      · cases List.mem_append.mp offered with
        | inl found => exact .sigil found
        | inr named =>
            obtain ⟨name, isName, rfl⟩ := List.mem_map.mp named
            exact .name name single isName rfl
  · next name typed pair =>
      obtain ⟨first, rest, arePieces, rfl, others⟩ := List.map_eq_cons_iff.mp pair
      obtain ⟨second, rfl, rfl⟩ := List.map_eq_singleton_iff.mp others
      have isPair := Text.pieces_eq_pair_iff.mp arePieces
      cases List.mem_append.mp offered with
      | inl found => exact .sigil found
      | inr argued =>
          obtain ⟨completed, isArgument, rfl⟩ := List.mem_map.mp argued
          exact .argument ⟨first, second, completed, isPair, isArgument, rfl⟩
  · exact .sigil offered

/-- Completions come about in these ways and in no others. -/
theorem mem_suggestions_iff {line candidate : String} :
    candidate ∈ console.suggestions line ↔ console.Completes line.toList candidate := by
  refine ⟨completes_of_mem_suggestions, fun completes => ?_⟩
  rw [suggestions_eq, Text.mem_sortedDistinct]
  cases completes with
  | sigil found => exact mem_lineCompletions_of_found found
  | name name single offered written =>
      rw [lineCompletions_of_single single, written]
      split
      · next nothing =>
          obtain ⟨-, unnamed⟩ := List.append_eq_nil_iff.mp nothing
          rw [List.map_eq_nil_iff.mp unnamed] at offered
          cases offered
      · exact List.mem_append_right _ (List.mem_map_of_mem offered)
  | argument offers =>
      obtain ⟨name, typed, completed, isPair, offered, rfl⟩ := offers
      rw [lineCompletions_of_pair isPair]
      exact List.mem_append_right _ (List.mem_map_of_mem offered)
  | member offers =>
      rw [lineCompletions_of_single offers.single, offers.unfound, offers.unnamed]
      exact offers.offered

/-! ### Completions of words with a sign -/

theorem prefix_of_beginsWith {text start : String} (begins : Text.beginsWith text start = true) :
    start.toList <+: text.toList :=
  List.isPrefixOf_iff_prefix.mp begins

theorem prefix_of_mem_beginningWith {typed completed : String} {names : List String}
    (offered : completed ∈ beginningWith typed names) : typed.toList <+: completed.toList :=
  prefix_of_beginsWith (List.mem_filter.mp offered).2

theorem splitTypedPath_append (typed : String) :
    (splitTypedPath typed).1.toList ++ (splitTypedPath typed).2.toList = typed.toList := by
  unfold splitTypedPath
  split
  · next directory file cuts => simp [(Text.eq_of_cutLast? cuts).1]
  · rfl

theorem escapeSpaces_begins {front text : List Char} (begins : front <+: text) :
    Text.escapeSpaces front <+: Text.escapeSpaces text := by
  obtain ⟨back, rfl⟩ := begins
  rw [escapeSpaces_append]
  exact List.prefix_append _ _

theorem prefix_of_mem_pathCompletions {written completed : String}
    (escaped : SpacesEscaped written.toList)
    (offered : completed ∈ console.pathCompletions written) :
    written.toList <+: completed.toList := by
  have split := splitTypedPath_append (String.ofList (Text.unescapeSpaces written.toList))
  unfold pathCompletions at offered
  dsimp only at offered
  obtain ⟨entry, chosen, isWritten⟩ := List.mem_map.mp offered
  obtain ⟨-, entryBegins⟩ := List.mem_filter.mp chosen
  have begins := prefix_of_beginsWith entryBegins
  rw [String.toList_ofList] at split
  rw [← isWritten, String.toList_ofList]
  conv => lhs; rw [← escaped, ← split]
  apply escapeSpaces_begins
  rw [String.toList_append, String.toList_append, List.append_assoc]
  exact (List.prefix_append_right_inj _).mpr (begins.trans (List.prefix_append _ _))

/-- Completions of a word with a sign go on with the word behind the words before it. -/
theorem sigilCompletions_keep {before word candidate : String}
    (escaped : SpacesEscaped word.toList)
    (found : candidate ∈ console.sigilCompletions before word) :
    ∃ completed, candidate = before ++ completed ∧ word.toList <+: completed.toList := by
  unfold sigilCompletions at found
  split at found
  · next path isPath =>
      rw [isPath] at escaped ⊢
      obtain ⟨completed, offered, rfl⟩ := List.mem_map.mp found
      have pathEscaped := escaped.tail (by decide) (by decide)
      have begins := prefix_of_mem_pathCompletions (by simpa using pathEscaped) offered
      refine ⟨"@" ++ completed, String.append_assoc, ?_⟩
      rw [String.toList_append]
      exact (List.prefix_cons_inj '@').mpr (by simpa using begins)
  · next name isName =>
      rw [isName]
      obtain ⟨completed, offered, rfl⟩ := List.mem_map.mp found
      have begins := prefix_of_mem_beginningWith offered
      refine ⟨"$" ++ completed, String.append_assoc, ?_⟩
      rw [String.toList_append]
      exact (List.prefix_cons_inj '$').mpr (by simpa using begins)
  · cases found

/-- Completions of a word with a sign keep the whole text. -/
theorem keeps_of_sigil {candidate : String}
    (found : candidate ∈ console.sigilCompletions (beforeWord text) (completedWord text)) :
    KeepsText text candidate := by
  unfold completedWord at found
  split at found
  · cases found
  · cases last : (words text).getLast? with
    | none =>
        rw [last] at found
        cases found
    | some word =>
        rw [last, Option.getD_some] at found
        have escaped := spacesEscaped_of_mem_words (List.mem_of_getLast? last)
        obtain ⟨completed, rfl, begins⟩ := sigilCompletions_keep escaped found
        exact keeps_of_last_word last begins

/-- Names that a command may begin with are offered behind everything in front of the command. -/
theorem keeps_of_name {name : String}
    (offered : name ∈ console.nameCompletions (String.ofList (lastCommand text))) :
    KeepsText text (String.ofList (head text) ++ name) := by
  have begins := prefix_of_mem_beginningWith offered
  rw [String.toList_ofList] at begins
  apply keeps_of_begins
  rw [String.toList_append, String.toList_ofList]
  conv => lhs; rw [← head_append_lastCommand text]
  exact (List.prefix_append_right_inj _).mpr begins

/-- Arguments that are offered behind the words of a text keep the text. -/
theorem OffersArgument.keeps {kept : List Char} {candidate : String}
    (offers : console.OffersArgument text (spaced (words kept)) candidate) :
    KeepsText kept candidate := by
  obtain ⟨_, _, completed, -, -, rfl⟩ := offers
  exact keeps_spaced_words kept completed

/-! ### Completions keep what was typed -/

/-- Every line has a word being typed, and completions keep what is in front of it and in front of
the command being typed, so the line can be replaced by any of them. There are two exceptions:
members of the manager of emulations, which are offered when nothing else is found and replace the
whole line, and arguments, when the word being typed begins in front of the command, or is empty
behind a blank that is no space. -/
theorem suggestions_keep (console : Console) (line : String) :
    (∃ before word, line.toList = before ++ word ∧ IsTyped before word) ∧
      ∀ before word, line.toList = before ++ word → IsTyped before word →
        ∀ candidate ∈ console.suggestions line,
          (KeepsText before candidate ∧ KeepsText (head line.toList) candidate) ∨
          ((collapsed before ≠ [] ∨ collapsed (head line.toList) ≠ []) ∧
            console.OffersMember line.toList candidate) ∨
          ((before.length < (head line.toList).length ∨
              word = [] ∧ line.toList.getLast? ≠ some ' ') ∧
            console.OffersArgument line.toList (beforeWord line.toList) candidate) := by
  refine ⟨exists_isTyped line.toList, ?_⟩
  intro before word split typed candidate offered
  have beforeBegins : before <+: line.toList := ⟨word, split.symm⟩
  have headBegins : head line.toList <+: line.toList :=
    ⟨lastCommand line.toList, head_append_lastCommand line.toList⟩
  have keepsWhole (keeps : KeepsText line.toList candidate) :
      KeepsText before candidate ∧ KeepsText (head line.toList) candidate :=
    ⟨keeps.of_begins beforeBegins, keeps.of_begins headBegins⟩
  cases mem_suggestions_iff.mp offered with
  | sigil found => exact .inl (keepsWhole (keeps_of_sigil found))
  | name name _ named written =>
      rw [written] at keepsWhole ⊢
      exact .inl (keepsWhole (keeps_of_name named))
  | member offers =>
      by_cases blank : collapsed before = [] ∧ collapsed (head line.toList) = []
      · left
        unfold KeepsText
        rw [blank.1, blank.2]
        constructor
        · exact List.nil_prefix
        · exact List.nil_prefix
      · exact .inr (.inl ⟨Decidable.not_and_iff_not_or_not.mp blank, offers⟩)
  | argument offers =>
      unfold beforeArgument at offers
      split at offers
      · exact .inl (keepsWhole offers.keeps)
      · next trailing =>
          have noSpace : line.toList.getLast? ≠ some ' ' := by simpa using trailing
          by_cases empty : word = []
          · exact .inr (.inr ⟨.inr ⟨empty, noSpace⟩, offers⟩)
          · by_cases shorter : before.length < (head line.toList).length
            · exact .inr (.inr ⟨.inl shorter, offers⟩)
            · have others : beforeWord line.toList = spaced (words before) := by
                rw [split, typed.beforeWord_eq empty]
              rw [others] at offers
              have headInside : head line.toList <+: before :=
                List.prefix_of_prefix_length_le headBegins beforeBegins (by omega)
              exact .inl ⟨offers.keeps, offers.keeps.of_begins headInside⟩

/-- A text without blanks is one word. -/
theorem isUnbroken_of_not_blank {text : List Char} (notBlank : text.any isBlank = false) :
    IsUnbroken text := by
  rintro front character back rfl separates
  exact List.any_eq_false.mp notBlank character (by simp) separates.1

/-- A space ends a word unless it stands behind a backslash. -/
theorem endsWord_of_space {text : List Char} (last : text.getLast? = some ' ')
    (notEscaped : text.dropLast.getLast? ≠ some '\\') : EndsWord text := by
  intro character isLast
  obtain rfl := Option.some.inj (last.symm.trans isLast)
  exact ⟨Text.isBlank_space, fun _ => notEscaped⟩

/-- A command is completed behind an earlier one. -/
theorem suggestions_keep_earlier_command :
    "numbersMode; mach" ∈ (Eval.afterLines []).console.suggestions "numbersMode; ma" ∧
      KeepsText "numbersMode; ".toList "numbersMode; mach" ∧
      KeepsText (head "numbersMode; ma".toList) "numbersMode; mach" := by
  have isCommand : lastCommand "numbersMode; ma".toList = "ma".toList := by decide
  have named : "mach" ∈ (Eval.afterLines []).console.nameCompletions "ma" := by
    refine List.mem_filter.mpr ⟨?_, by decide⟩
    exact List.mem_append_left _ (List.mem_append_left _ (List.mem_mergeSort.mpr
      (by decide +kernel)))
  have offered : "numbersMode; mach" ∈
      (Eval.afterLines []).console.suggestions "numbersMode; ma" := by
    refine mem_suggestions_iff.mpr (.name "mach" ?_ ?_ (by decide))
    · rw [isCommand]
      decide
    · rwa [isCommand, String.ofList_toList]
  have typed : IsTyped "numbersMode; ".toList "ma".toList :=
    ⟨endsWord_of_space (by decide) (by decide), isUnbroken_of_not_blank (by decide)⟩
  refine ⟨offered, ?_⟩
  obtain keeps | ⟨-, offers⟩ | ⟨-, _, _, _, ⟨-, command⟩, -⟩ :=
    (suggestions_keep (Eval.afterLines []).console "numbersMode; ma").2 _ _ (by decide) typed _
      offered
  · exact keeps
  · have unnamed := offers.unnamed
    rw [isCommand, String.ofList_toList] at unnamed
    rw [unnamed] at named
    cases named
  · have spaceless : ' ' ∉ lastCommand "numbersMode; ma".toList := by
      rw [isCommand]
      decide
    rw [← command] at spaceless
    exact absurd (List.mem_append_right _ List.mem_cons_self) spaceless

/-- A member of the manager is offered in place of the whole line, the command in front of the one
being typed included. -/
theorem suggestions_drop_earlier_command :
    ¬∀ (console : Console) (line : String) (before word : List Char),
      line.toList = before ++ word → IsTyped before word →
      ∀ candidate ∈ console.suggestions line,
        KeepsText before candidate ∧ KeepsText (head line.toList) candidate := by
  intro keeps
  have isCommand : lastCommand "numbersMode; Cle".toList = "Cle".toList := by decide
  have typed : IsTyped "numbersMode; ".toList "Cle".toList :=
    ⟨endsWord_of_space (by decide) (by decide), isUnbroken_of_not_blank (by decide)⟩
  have unnamed : (Eval.afterLines []).console.nameCompletions "Cle" = [] := by
    have commands : ∀ name ∈ (Eval.afterLines []).console.commands.commands.keys ++
        (Eval.afterLines []).console.commands.aliases.keys,
        Text.beginsWith name "Cle" = false := by
      decide +kernel
    have objects : ∀ name ∈ (Eval.afterLines []).console.surroundings.bindings.names false ++
        (Eval.afterLines []).console.surroundings.externals.keys ++ [],
        Text.beginsWith name "Cle" = false := by
      decide +kernel
    refine List.filter_eq_nil_iff.mpr fun name member => ?_
    rw [Bool.not_eq_true]
    obtain (isCommand | isObject) | isBuiltin :=
      (List.mem_append.mp member).imp_left List.mem_append.mp
    · exact commands name (List.mem_mergeSort.mp isCommand)
    · exact objects name (Text.mem_sortedDistinct.mp isObject)
    · cases isBuiltin
  have offers : (Eval.afterLines []).console.OffersMember "numbersMode; Cle".toList "Clear" := by
    constructor
    · rw [isCommand]
      decide
    · rfl
    · rwa [isCommand, String.ofList_toList]
    · rw [isCommand, String.ofList_toList]
      refine List.mem_filter.mpr ⟨?_, by decide⟩
      exact List.mem_append_left _ (Text.mem_sortedDistinct.mpr (by decide +kernel))
  have kept := keeps _ "numbersMode; Cle" _ _ (by decide) typed "Clear"
    (mem_suggestions_iff.mpr (.member offers))
  exact absurd kept.1 (by unfold KeepsText; decide)

end Console

end MachineConsole
