import MachineConsole.Proofs.Lexing.Kinds

/-!
Contract: a token is read again from its own text when something apart from it follows.

Owns:
- `StartsApart`: what may follow a token, nothing, a space or a line feed;
- `Stable`: what one rule makes of a text is what it makes of the token's text with another tail;
- `first?_take_append`: the rule that made a token makes it again, and no earlier rule steps in.

A rule that failed may depend on text far behind the token, as the search for closing quotation marks
does. Such rules are told apart by their first character, after which only a few rules remain.
-/

namespace MachineConsole.LexicalRule

open Text (isBlank trimStart)
open Number (isHexDigit)

/-- The characters that separate tokens. -/
def gaps : List Char := [' ', '\n']

theorem space_mem_gaps : ' ' ∈ gaps := by
  decide

theorem lineFeed_mem_gaps : '\n' ∈ gaps := by
  decide

theorem forall_mem_gaps {holds : Char → Prop} (space : holds ' ') (lineFeed : holds '\n') :
    ∀ gap ∈ gaps, holds gap :=
  List.forall_mem_cons.mpr ⟨space, List.forall_mem_singleton.mpr lineFeed⟩

/-- Marks among which there is no gap. -/
def FreeOfGaps (marks : List Char) : Prop :=
  ∀ gap ∈ gaps, gap ∉ marks

instance (marks : List Char) : Decidable (FreeOfGaps marks) :=
  decidable_of_iff (' ' ∉ marks ∧ '\n' ∉ marks)
    ⟨fun both => forall_mem_gaps both.1 both.2,
      fun free => ⟨free ' ' space_mem_gaps, free '\n' lineFeed_mem_gaps⟩⟩

/-- A gap ends a run of accepted characters. -/
def EndsAtGaps (accepts : Char → Bool) : Prop :=
  ∀ gap ∈ gaps, accepts gap = false

instance (accepts : Char → Bool) : Decidable (EndsAtGaps accepts) :=
  decidable_of_iff (accepts ' ' = false ∧ accepts '\n' = false)
    ⟨fun both => forall_mem_gaps both.1 both.2,
      fun ends => ⟨ends ' ' space_mem_gaps, ends '\n' lineFeed_mem_gaps⟩⟩

/-- What follows a token is nothing or begins with a space or a line feed. -/
def StartsApart (tail : List Char) : Prop :=
  ∀ character ∈ tail.head?, character ∈ gaps

theorem startsApart_nil : StartsApart [] := by
  simp [StartsApart]

theorem startsApart_cons {gap : Char} (isGap : gap ∈ gaps) (more : List Char) :
    StartsApart (gap :: more) := by
  rintro _ ⟨⟩
  exact isGap

theorem startsApart_space (more : List Char) : StartsApart (' ' :: more) :=
  startsApart_cons space_mem_gaps more

theorem StartsApart.cases {tail : List Char} (apart : StartsApart tail) :
    tail = [] ∨ ∃ gap more, gap ∈ gaps ∧ tail = gap :: more := by
  cases tail with
  | nil => exact .inl rfl
  | cons first more => exact .inr ⟨first, more, apart first rfl, rfl⟩

theorem gap_toLower {gap : Char} (isGap : gap ∈ gaps) : gap.toLower ∈ gaps := by
  have all : ∀ gap ∈ gaps, gap.toLower ∈ gaps := forall_mem_gaps (by decide) (by decide)
  exact all gap isGap

theorem StartsApart.map_toLower {tail : List Char} (apart : StartsApart tail) :
    StartsApart (tail.map Char.toLower) := by
  rcases apart.cases with rfl | ⟨gap, more, isGap, rfl⟩
  · exact startsApart_nil
  · exact startsApart_cons (gap_toLower isGap) _

/-! ### Runs in front of a tail -/

theorem takeWhile_of_apart {accepts : Char → Bool} (gapEnds : EndsAtGaps accepts)
    {tail : List Char} (apart : StartsApart tail) : tail.takeWhile accepts = [] := by
  rcases apart.cases with rfl | ⟨gap, more, isGap, rfl⟩
  · rfl
  · simp [gapEnds gap isGap]

theorem dropWhile_of_apart {accepts : Char → Bool} (gapEnds : EndsAtGaps accepts)
    {tail : List Char} (apart : StartsApart tail) : tail.dropWhile accepts = tail := by
  rcases apart.cases with rfl | ⟨gap, more, isGap, rfl⟩
  · rfl
  · simp [gapEnds gap isGap]

theorem takeWhile_take_append (accepts : Char → Bool)
    (gapEnds : EndsAtGaps accepts) {tail : List Char} (apart : StartsApart tail)
    (text : List Char) (length : Nat) :
    (text.take length ++ tail).takeWhile accepts = (text.takeWhile accepts).take length := by
  induction text generalizing length with
  | nil => simp [takeWhile_of_apart gapEnds apart]
  | cons first rest inductionHypothesis =>
      cases length with
      | zero => simp [takeWhile_of_apart gapEnds apart]
      | succ length =>
          cases accepted : accepts first with
          | false => simp [accepted]
          | true => simp [accepted, inductionHypothesis]

theorem dropWhile_take_append (accepts : Char → Bool)
    (gapEnds : EndsAtGaps accepts) {tail : List Char} (apart : StartsApart tail)
    (text : List Char) (length : Nat) :
    (text.take length ++ tail).dropWhile accepts =
      (text.dropWhile accepts).take (length - (text.takeWhile accepts).length) ++ tail := by
  induction text generalizing length with
  | nil => simp [dropWhile_of_apart gapEnds apart]
  | cons first rest inductionHypothesis =>
      cases length with
      | zero => simp [dropWhile_of_apart gapEnds apart]
      | succ length =>
          cases accepted : accepts first with
          | false => simp [accepted]
          | true => simp [accepted, inductionHypothesis]

/-- Characters without a gap that begin a token with a tail begin the token. -/
theorem begins_of_begins_take {written tail : List Char} (noGap : FreeOfGaps written)
    (apart : StartsApart tail) {text : List Char} {length : Nat}
    (begins : written <+: text.take length ++ tail) : written <+: text := by
  induction written generalizing text length with
  | nil => exact List.nil_prefix
  | cons first more inductionHypothesis =>
      have notTail : ¬ first :: more <+: tail := by
        intro beginsTail
        rcases apart.cases with rfl | ⟨gap, behind, isGap, rfl⟩
        · simp at beginsTail
        · obtain rfl : first = gap := (List.cons_prefix_cons.mp beginsTail).1
          exact noGap first isGap List.mem_cons_self
      cases text with
      | nil => exact absurd (by simpa using begins) notTail
      | cons head rest =>
          cases length with
          | zero => exact absurd (by simpa using begins) notTail
          | succ length =>
              rw [List.take_succ_cons, List.cons_append, List.cons_prefix_cons] at begins
              obtain ⟨rfl, beginsRest⟩ := begins
              rw [List.cons_prefix_cons]
              have restNoGap : FreeOfGaps more := fun gap isGap member =>
                noGap gap isGap (List.mem_cons_of_mem _ member)
              exact ⟨rfl, inductionHypothesis restNoGap beginsRest⟩

theorem begins_of_begins_append {written text tail : List Char} (noGap : FreeOfGaps written)
    (apart : StartsApart tail) (begins : written <+: text ++ tail) : written <+: text := by
  rw [← List.take_length (l := text)] at begins
  exact begins_of_begins_take noGap apart begins

theorem head?_take_append {text : List Char} {length : Nat} (tail : List Char)
    (positive : 0 < length) (nonempty : text ≠ []) :
    (text.take length ++ tail).head? = text.head? := by
  obtain ⟨first, rest, rfl⟩ := List.exists_cons_of_ne_nil nonempty
  obtain ⟨taken, rfl⟩ : ∃ taken, length = taken + 1 := ⟨length - 1, by omega⟩
  rfl

/-! ### Stable rules -/

/-- A rule makes of the beginning of a text with another tail what it makes of the text, as far as
failing and making the token of the given kind and length are concerned. -/
structure Stable (rule : LexicalRule) (text tail : List Char) (kind : TokenKind) (length : Nat) :
    Prop where
  absent : rule text = none → rule (text.take length ++ tail) = none
  present : rule text = some (.token kind length) →
    rule (text.take length ++ tail) = some (.token kind length)

variable {text tail : List Char} {kind : TokenKind} {length : Nat}

theorem findSome?_stable {rules : List LexicalRule}
    (stable : ∀ rule ∈ rules, Stable rule text tail kind length)
    (found : rules.findSome? (fun rule => rule text) = some (.token kind length)) :
    rules.findSome? (fun rule => rule (text.take length ++ tail)) = some (.token kind length) := by
  induction rules with
  | nil => contradiction
  | cons rule rules inductionHypothesis =>
      have ruleStable := stable rule List.mem_cons_self
      cases reading : rule text with
      | none =>
          rw [List.findSome?_cons, reading] at found
          rw [List.findSome?_cons, ruleStable.absent reading]
          exact inductionHypothesis
            (fun other member => stable other (List.mem_cons_of_mem _ member)) found
      | some first =>
          rw [List.findSome?_cons, reading] at found
          rw [List.findSome?_cons, ruleStable.present (reading.trans found)]

theorem Stable.orElse {first second : LexicalRule}
    (firstStable : Stable first text tail kind length)
    (secondStable : Stable second text tail kind length) :
    Stable (fun text => first text <|> second text) text tail kind length := by
  constructor
  · intro absent
    cases reading : first text with
    | none =>
        rw [reading] at absent
        simp only [firstStable.absent reading]
        exact secondStable.absent absent
    | some made =>
        rw [reading] at absent
        contradiction
  · intro present
    cases reading : first text with
    | none =>
        rw [reading] at present
        simp only [firstStable.absent reading]
        exact secondStable.present present
    | some made =>
        rw [reading] at present
        simp only [firstStable.present (reading.trans present)]
        rfl

theorem mark_stable {written : List Char} {marked : TokenKind} (noGap : FreeOfGaps written)
    (apart : StartsApart tail) : Stable (mark written marked) text tail kind length := by
  constructor
  · intro absent
    refine Option.eq_none_iff_forall_ne_some.mpr ?_
    intro reading present
    obtain ⟨begins, same⟩ := mark_eq_some_iff.mp present
    have beginsText := begins_of_begins_take noGap apart begins
    rw [mark_eq_some_iff.mpr ⟨beginsText, same⟩] at absent
    contradiction
  · intro present
    obtain ⟨begins, same⟩ := mark_eq_some_iff.mp present
    obtain ⟨rfl, rfl⟩ := Reading.token.inj same
    rw [← List.prefix_iff_eq_take.mp begins]
    exact mark_eq_some_iff.mpr ⟨List.prefix_append _ _, rfl⟩

theorem bracket_stable (apart : StartsApart tail) : Stable bracket text tail kind length :=
  (mark_stable (by decide) apart).orElse (mark_stable (by decide) apart)

theorem boolean_stable (apart : StartsApart tail) : Stable boolean text tail kind length := by
  have lowered : Stable (fun lowered => mark ['t', 'r', 'u', 'e'] (.boolean true) lowered <|>
      mark ['f', 'a', 'l', 's', 'e'] (.boolean false) lowered)
      (text.map Char.toLower) (tail.map Char.toLower) kind length :=
    (mark_stable (by decide) apart.map_toLower).orElse
      (mark_stable (by decide) apart.map_toLower)
  constructor
  · intro absent
    have stillAbsent := lowered.absent absent
    rwa [← List.map_take, ← List.map_append] at stillAbsent
  · intro present
    have stillPresent := lowered.present present
    rwa [← List.map_take, ← List.map_append] at stillPresent

theorem literal_stable (apart : StartsApart tail) : Stable literal text tail kind length := by
  have word := takeWhile_take_append isWordCharacter (by decide) apart text length
  constructor
  · intro absent
    have empty : text.takeWhile isWordCharacter = [] := by simpa [literal] using absent
    simp [literal, word, empty]
  · intro present
    simp only [literal, word] at present ⊢
    split at present
    · contradiction
    · rename_i nonempty
      obtain ⟨-, rfl⟩ := Reading.token.inj (Option.some.inj present)
      rw [List.take_length, if_neg nonempty]
      exact present

theorem OpensWith.stable {opens : Char → Bool} {rule : LexicalRule} (ruleOpens : OpensWith opens rule)
    (positive : 0 < length) (nonempty : text ≠ [])
    (other : ∀ first ∈ text.head?, opens first = false) : Stable rule text tail kind length := by
  constructor
  · intro _
    apply ruleOpens
    rw [head?_take_append tail positive nonempty]
    exact other
  · intro present
    rw [ruleOpens text other] at present
    contradiction

theorem variableName_stable (apart : StartsApart tail) (positive : 0 < length)
    (nonempty : text ≠ []) : Stable variableName text tail kind length := by
  obtain ⟨first, rest, rfl⟩ := List.exists_cons_of_ne_nil nonempty
  obtain ⟨taken, rfl⟩ : ∃ taken, length = taken + 1 := ⟨length - 1, by omega⟩
  by_cases dollar : first = '$'
  · subst dollar
    have name := takeWhile_take_append isNameCharacter (by decide) apart rest taken
    constructor
    · intro absent
      have empty : rest.takeWhile isNameCharacter = [] := by simpa [variableName] using absent
      simp [variableName, name, empty]
    · intro present
      simp only [List.take_succ_cons, List.cons_append, variableName, name] at present ⊢
      split at present
      · contradiction
      · rename_i someName
        obtain ⟨-, sameLength⟩ := Reading.token.inj (Option.some.inj present)
        obtain rfl : (rest.takeWhile isNameCharacter).length = taken := by omega
        rw [List.take_length, if_neg someName]
        exact present
  · exact variableName_opens.stable positive nonempty (by simpa using dollar)

theorem hexadecimal_eq_none {text : List Char} (differs : ¬ ['0', 'x'] <+: text) :
    hexadecimal text = none := by
  unfold hexadecimal
  split
  · exact absurd (List.prefix_append ['0', 'x'] _) differs
  · rfl

theorem hexadecimal_begins {text : List Char} {kind : TokenKind} {length : Nat}
    (present : hexadecimal text = some (.token kind length)) :
    ∃ rest taken, text = '0' :: 'x' :: rest ∧ length = taken + 2 := by
  unfold hexadecimal at present
  split at present
  · dsimp only at present
    split at present
    · contradiction
    · split at present
      · cases present
      · exact ⟨_, _, rfl, (Reading.token.inj (Option.some.inj present)).2.symm⟩
  · contradiction

theorem hexadecimal_stable (apart : StartsApart tail) (positive : 0 < length) :
    Stable hexadecimal text tail kind length := by
  by_cases begins : ['0', 'x'] <+: text.take length ++ tail
  · obtain ⟨rest, rfl⟩ := begins_of_begins_take (by decide) apart begins
    obtain ⟨taken, rfl⟩ : ∃ taken, length = taken + 2 := by
      match length with
      | 1 =>
          have beginsTail : ['x'] <+: [] ++ tail := by
            simpa [List.cons_prefix_cons] using begins
          exact absurd (begins_of_begins_append (by decide) apart beginsTail) (by simp)
      | taken + 2 => exact ⟨taken, rfl⟩
    have digits := takeWhile_take_append isHexDigit (by decide) apart rest taken
    constructor
    · intro absent
      simp only [List.cons_append, List.nil_append, hexadecimal] at absent
      split at absent
      · rename_i empty
        simp [hexadecimal, digits, empty]
      · split at absent <;> contradiction
    · intro present
      simp only [List.cons_append, List.nil_append, List.take_succ_cons, hexadecimal, digits]
        at present ⊢
      split at present
      · contradiction
      · rename_i nonempty
        split at present
        · cases present
        · rename_i within
          obtain ⟨-, sameLength⟩ := Reading.token.inj (Option.some.inj present)
          obtain rfl : (rest.takeWhile isHexDigit).length = taken := by omega
          rw [List.take_length, if_neg nonempty, if_neg within]
          exact present
  · constructor
    · intro _
      exact hexadecimal_eq_none begins
    · intro present
      obtain ⟨rest, taken, rfl, rfl⟩ := hexadecimal_begins present
      exact absurd (List.prefix_append ['0', 'x'] _) begins

theorem comment_stable (positive : 0 < length) (nonempty : text ≠ [])
    (commentEnds : (∃ words, kind = .comment words) → tail = []) :
    Stable comment text tail kind length := by
  constructor
  · intro absent
    apply comment_opens
    rw [head?_take_append tail positive nonempty]
    unfold comment at absent
    split at absent
    · contradiction
    · contradiction
    · rename_i notNumberSign notColon
      intro first begins
      obtain ⟨rest, rfl⟩ := List.head?_eq_some_iff.mp begins
      simp only [Bool.or_eq_false_iff, beq_eq_false_iff_ne]
      constructor
      · rintro rfl
        exact notNumberSign rest rfl
      · rintro rfl
        exact notColon rest rfl
  · intro present
    rw [commentEnds (comment_kind present), (comment_length present).2, List.take_length,
      List.append_nil, ← (comment_length present).2]
    exact present

/-! ### Numbers -/


theorem splitSign_take_append {sign unsigned : List Char}
    (signed : splitSign text = (sign, unsigned)) (positive : 0 < length) (nonempty : text ≠ [])
    (tail : List Char) :
    splitSign (text.take length ++ tail) =
      (sign, unsigned.take (length - sign.length) ++ tail) := by
  obtain ⟨taken, rfl⟩ : ∃ taken, length = taken + 1 := ⟨length - 1, by omega⟩
  have resplit := (splitSign_split signed).2
  unfold splitSign at signed
  split at signed
  · obtain ⟨rfl, rfl⟩ := Prod.mk.inj signed
    rfl
  · obtain ⟨rfl, rfl⟩ := Prod.mk.inj signed
    rfl
  · obtain ⟨rfl, rfl⟩ := Prod.mk.inj signed
    exact resplit _ (head?_take_append tail positive nonempty)

theorem integer_stable (apart : StartsApart tail) (positive : 0 < length) (nonempty : text ≠ []) :
    Stable integer text tail kind length := by
  obtain ⟨sign, unsigned, signed⟩ : ∃ sign unsigned, splitSign text = (sign, unsigned) :=
    ⟨_, _, rfl⟩
  have signedAgain := splitSign_take_append signed positive nonempty tail
  have digits := takeWhile_take_append Char.isDigit (by decide) apart unsigned
    (length - sign.length)
  constructor
  · intro absent
    simp only [integer, signed, signedAgain, digits] at absent ⊢
    split at absent
    · rename_i empty
      simp [empty]
    · split at absent <;> contradiction
  · intro present
    simp only [integer, signed, signedAgain, digits] at present ⊢
    split at present
    · contradiction
    · rename_i someDigits
      split at present
      · cases present
      · rename_i value within
        obtain ⟨-, sameLength⟩ := Reading.token.inj (Option.some.inj present)
        have takenDigits : length - sign.length = (unsigned.takeWhile Char.isDigit).length := by
          omega
        rw [takenDigits, List.take_length, if_neg someDigits, within]
        exact present

theorem decimal_stable (apart : StartsApart tail) (positive : 0 < length) (nonempty : text ≠ []) :
    Stable decimal text tail kind length := by
  obtain ⟨sign, unsigned, signed⟩ : ∃ sign unsigned, splitSign text = (sign, unsigned) :=
    ⟨_, _, rfl⟩
  have signedAgain := splitSign_take_append signed positive nonempty tail
  have whole := takeWhile_take_append Char.isDigit (by decide) apart unsigned
    (length - sign.length)
  have behind := dropWhile_take_append Char.isDigit (by decide) apart unsigned
    (length - sign.length)
  constructor
  · intro absent
    simp only [decimal, signed, signedAgain, drop_length_takeWhile] at absent ⊢
    simp only [whole, behind]
    split at absent
    · split at absent
      · rename_i rest point empty
        rw [Bool.and_eq_true, decide_eq_true_eq, decide_eq_true_eq] at empty
        rw [point]
        cases length - sign.length - (unsigned.takeWhile Char.isDigit).length with
        | zero =>
            rcases apart.cases with rfl | ⟨gap, more, isGap, rfl⟩
            · rfl
            · simp only [gaps, List.mem_cons, List.not_mem_nil, or_false] at isGap
              rcases isGap with rfl | rfl <;> rfl
        | succ taken =>
            have fraction := takeWhile_take_append Char.isDigit (by decide) apart rest taken
            simp [fraction, empty]
      · contradiction
    · rename_i noPoint
      split
      · rename_i rest point
        have begins : ['.'] <+: unsigned.dropWhile Char.isDigit :=
          begins_of_begins_take (by decide) apart ⟨rest, point.symm⟩
        obtain ⟨more, split⟩ := begins
        exact absurd split.symm (noPoint more)
      · rfl
  · intro present
    simp only [decimal, signed, signedAgain, drop_length_takeWhile] at present ⊢
    simp only [whole, behind]
    split at present
    · rename_i rest point
      split at present
      · contradiction
      · rename_i nonempty
        obtain ⟨-, sameLength⟩ := Reading.token.inj (Option.some.inj present)
        have takenBehind : length - sign.length - (unsigned.takeWhile Char.isDigit).length =
            (rest.takeWhile Char.isDigit).length + 1 := by omega
        have wholeTaken : (unsigned.takeWhile Char.isDigit).take (length - sign.length) =
            unsigned.takeWhile Char.isDigit := List.take_of_length_le (by omega)
        have fraction := takeWhile_take_append Char.isDigit (by decide) apart rest
          (rest.takeWhile Char.isDigit).length
        rw [List.take_length] at fraction
        rw [point, takenBehind, wholeTaken]
        simp only [List.take_succ_cons, List.cons_append, fraction, nonempty]
        exact present
    · contradiction

/-! ### Paths -/

theorem pathCharacters_head {text more : List Char} {first : Char}
    (begins : pathCharacters text = first :: more) : isBlank first = false := by
  induction text using pathCharacters.induct with
  | case1 =>
      rw [pathCharacters_nil] at begins
      contradiction
  | case2 rest inductionHypothesis =>
      obtain rfl : '\\' = first := (List.cons.inj begins).1
      decide
  | case3 character rest notEscape ends =>
      rw [pathCharacters_cons notEscape, if_pos ends] at begins
      contradiction
  | case4 character rest notEscape continues inductionHypothesis =>
      rw [pathCharacters_cons notEscape, if_neg continues] at begins
      obtain rfl : character = first := (List.cons.inj begins).1
      simp_all

theorem pathCharacters_of_apart {tail : List Char} (apart : StartsApart tail) :
    pathCharacters tail = [] := by
  rcases apart.cases with rfl | ⟨gap, more, isGap, rfl⟩
  · rfl
  · have gapEnds : ∀ gap ∈ gaps, gap ≠ '\\' ∧ isBlank gap = true :=
      forall_mem_gaps (by decide) (by decide)
    obtain ⟨noEscape, blank⟩ := gapEnds gap isGap
    rw [pathCharacters_cons fun _ escape => absurd escape noEscape, blank]
    rfl

/-- A space is not part of the path in front of it unless a backslash stands between them. -/
theorem pathCharacters_append {tail : List Char} (apart : StartsApart tail) (text : List Char)
    (ends : (pathCharacters text).getLast? = some '\\' → tail = []) :
    pathCharacters (pathCharacters text ++ tail) = pathCharacters text := by
  induction text using pathCharacters.induct with
  | case1 => exact pathCharacters_of_apart apart
  | case2 rest inductionHypothesis =>
      rw [pathCharacters_escape] at ends ⊢
      rw [List.cons_append, List.cons_append, pathCharacters_escape, inductionHypothesis]
      intro last
      exact ends (by simp [List.getLast?_cons, last])
  | case3 character rest notEscape stops =>
      rw [pathCharacters_cons notEscape, if_pos stops]
      exact pathCharacters_of_apart apart
  | case4 character rest notEscape continues inductionHypothesis =>
      rw [pathCharacters_cons notEscape, if_neg continues] at ends ⊢
      have stillNotEscape : ∀ more, character = '\\' →
          pathCharacters rest ++ tail = ' ' :: more → False := by
        intro more backslash space
        cases written : pathCharacters rest with
        | nil =>
            have noTail := ends (by simp [written, backslash])
            simp [written, noTail] at space
        | cons head behind =>
            have notBlank := pathCharacters_head written
            rw [written] at space
            obtain rfl : head = ' ' := (List.cons.inj space).1
            contradiction
      rw [List.cons_append, pathCharacters_cons stillNotEscape, if_neg continues,
        inductionHypothesis]
      intro last
      exact ends (by simp [List.getLast?_cons, last])

/-- Behind a backslash, a space and what follows it belong to the path. -/
theorem pathCharacters_append_space (more text : List Char)
    (last : (pathCharacters text).getLast? = some '\\') :
    pathCharacters (pathCharacters text ++ ' ' :: more) =
      pathCharacters text ++ ' ' :: pathCharacters more := by
  induction text using pathCharacters.induct with
  | case1 =>
      rw [pathCharacters_nil] at last
      contradiction
  | case2 rest inductionHypothesis =>
      have notEmpty : pathCharacters rest ≠ [] := by
        intro empty
        simp [empty] at last
      rw [pathCharacters_escape] at last ⊢
      rw [List.getLast?_cons_cons, List.getLast?_cons_of_ne_nil notEmpty] at last
      rw [List.cons_append, List.cons_append, pathCharacters_escape, inductionHypothesis last]
      rfl
  | case3 character rest notEscape stops =>
      rw [pathCharacters_cons notEscape, if_pos stops] at last
      contradiction
  | case4 character rest notEscape continues inductionHypothesis =>
      rw [pathCharacters_cons notEscape, if_neg continues] at last ⊢
      cases written : pathCharacters rest with
      | nil =>
          obtain rfl : character = '\\' := by simpa [written] using last
          rfl
      | cons head behind =>
          have stillNotEscape : ∀ more', character = '\\' →
              pathCharacters rest ++ ' ' :: more = ' ' :: more' → False := by
            intro more' _ space
            have notBlank := pathCharacters_head written
            rw [written] at space
            obtain rfl : head = ' ' := (List.cons.inj space).1
            contradiction
          rw [List.getLast?_cons_of_ne_nil (by simp [written])] at last
          rw [← written, List.cons_append, pathCharacters_cons stillNotEscape, if_neg continues,
            inductionHypothesis last]
          rfl

/-! ### Rules that search for their end -/

/-- Three quotation marks can always be read as an empty text, so the rule for quoted texts is not
passed over behind them. -/
theorem quoted_of_terminator {text : List Char}
    (begins : ['\x22', '\x22', '\x22'] <+: text) : quoted text ≠ none := by
  obtain ⟨rest, rfl⟩ := begins
  simp [quoted, untilMark?_cons]

variable (found : first? text = some (.token kind length)) (positive : 0 < length)
  (nonempty : text ≠ [])
include found positive nonempty

theorem substitution_stable : Stable substitution text tail kind length := by
  obtain ⟨first, rest, rfl⟩ := List.exists_cons_of_ne_nil nonempty
  by_cases backtick : first = '\x60'
  · subst backtick
    rw [first?_backtick] at found
    constructor
    · intro absent
      rw [absent] at found
      contradiction
    · intro present
      obtain ⟨command, after, split, plain, same⟩ := substitution_eq_some_iff.mp present
      rw [split] at found ⊢
      obtain ⟨rfl, rfl⟩ := Reading.token.inj same
      apply substitution_eq_some_iff.mpr
      refine ⟨command, tail, ?_, plain, rfl⟩
      rw [List.cons_append, take_enclosed]
      simp
  · exact substitution_opens.stable positive nonempty (by simpa using backtick)

theorem range_stable : Stable range text tail kind length := by
  obtain ⟨first, rest, rfl⟩ := List.exists_cons_of_ne_nil nonempty
  by_cases angle : first = '<'
  · subst angle
    rw [first?_angle] at found
    constructor
    · intro absent
      rw [absent] at found
      contradiction
    · intro present
      obtain ⟨body, after, split, extent, resplit⟩ := range_split present
      rw [split, extent kind length rfl, take_enclosed, List.cons_append, List.append_assoc]
      rw [← extent kind length rfl]
      exact resplit tail
  · exact range_opens.stable positive nonempty (by simpa using angle)

theorem quoted_stable : Stable quoted text tail kind length := by
  obtain ⟨first, rest, rfl⟩ := List.exists_cons_of_ne_nil nonempty
  obtain ⟨taken, rfl⟩ : ∃ taken, length = taken + 1 := ⟨length - 1, by omega⟩
  constructor
  · intro absent
    by_cases apostrophe : first = '\x27'
    · subst apostrophe
      rw [first?_apostrophe, absent] at found
      contradiction
    · by_cases quotationMark : first = '\x22'
      · subst quotationMark
        rw [first?_quotationMark] at found
        obtain ⟨rule, member, applies⟩ := List.exists_of_findSome?_eq_some found
        simp only [List.mem_cons, List.not_mem_nil, or_false] at member
        rcases member with rfl | rfl | rfl
        · obtain ⟨behind, body, opened, -⟩ := block_eq_some_iff.mp applies
          exact absurd absent (quoted_of_terminator ⟨behind, opened.symm⟩)
        · exact absurd absent (quoted_of_terminator (mark_eq_some_iff.mp applies).1)
        · rw [absent] at applies
          contradiction
      · apply quoted_opens
        simp [apostrophe, quotationMark]
  · intro present
    simp only [quoted, List.take_succ_cons, List.cons_append] at present ⊢
    split at present
    · rename_i opens
      obtain ⟨body, closed, same⟩ := Option.map_eq_some_iff.mp present
      obtain ⟨-, sameLength⟩ := Reading.token.inj same
      obtain rfl : body.2 = taken := by omega
      obtain ⟨-, -, resplit⟩ := untilMark?_split closed
      rw [if_pos opens, resplit, Option.map_some, same]
    · contradiction

theorem path_stable (apart : StartsApart tail)
    (pathEnds : (∃ written, kind = .path written) → (text.take length).getLast? = some '\\' →
      tail = []) : Stable path text tail kind length := by
  obtain ⟨first, rest, rfl⟩ := List.exists_cons_of_ne_nil nonempty
  by_cases atSign : first = '@'
  · subst atSign
    rw [first?_at] at found
    constructor
    · intro absent
      rw [absent] at found
      contradiction
    · intro present
      simp only [path] at present
      split at present
      · contradiction
      · rename_i someCharacters
        obtain ⟨isPath, rfl⟩ := Reading.token.inj (Option.some.inj present)
        have taken : rest.take (pathCharacters rest).length = pathCharacters rest :=
          (List.prefix_iff_eq_take.mp (pathCharacters_begins rest)).symm
        rw [List.take_succ_cons, taken] at pathEnds ⊢
        have again := pathCharacters_append apart rest fun last =>
          pathEnds ⟨_, isPath.symm⟩ (by simp [List.getLast?_cons, last])
        simp only [List.cons_append, path, again, if_neg someCharacters]
        exact present
  · exact path_opens.stable positive nonempty (by simpa using atSign)

theorem block_stable (apart : StartsApart tail)
    (terminatorEnds : kind = .terminator → untilTerminator? tail = none) :
    Stable block text tail kind length := by
  constructor
  · intro absent
    refine Option.eq_none_iff_forall_ne_some.mpr ?_
    intro reading present
    obtain ⟨behind, body, opened, closed, -⟩ := block_eq_some_iff.mp present
    -- Three marks that no block follows are a terminator, and nothing behind it closes a block.
    have begins : ['\x22', '\x22', '\x22'] <+: text :=
      begins_of_begins_take (by decide) apart ⟨behind, opened.symm⟩
    obtain ⟨rest, rfl⟩ := begins
    have isTerminator :
        first? (['\x22', '\x22', '\x22'] ++ rest) = some (.token .terminator 3) := by
      simp only [List.cons_append, List.nil_append] at absent ⊢
      rw [first?_quotationMark, List.findSome?_cons, absent]
      rfl
    rw [isTerminator] at found
    obtain ⟨rfl, rfl⟩ := Reading.token.inj (Option.some.inj found)
    obtain rfl : tail = behind := by simpa using opened
    rw [terminatorEnds rfl] at closed
    contradiction
  · intro present
    obtain ⟨rest, body, rfl, closed, same⟩ := block_eq_some_iff.mp present
    obtain ⟨⟨after, rfl⟩, resplit⟩ := untilTerminator?_split closed
    obtain ⟨rfl, rfl⟩ := Reading.token.inj same
    apply block_eq_some_iff.mpr
    refine ⟨body ++ '\x22' :: '\x22' :: '\x22' :: tail, body, ?_, resplit tail, rfl⟩
    simp [List.take_append, List.take_of_length_le]

/-! ### Reading a token again -/

/-- What may stand behind the text of a token so that it is read as this token again. -/
structure Admits (kind : TokenKind) (written tail : List Char) : Prop where
  apart : StartsApart tail
  /-- A comment takes everything behind it. -/
  comment : (∃ words, kind = .comment words) → tail = []
  /-- A backslash at the end of a path makes a space part of it. -/
  path : (∃ text, kind = .path text) → written.getLast? = some '\\' → tail = []
  /-- Three quotation marks behind a terminator make a block of it. -/
  terminator : kind = .terminator → untilTerminator? tail = none

omit positive nonempty in
/-- The text of a token, with an admitted tail in place of what followed, begins with that token. -/
theorem first?_take_append (admits : Admits kind (text.take length) tail) :
    first? (text.take length ++ tail) = some (.token kind length) := by
  obtain ⟨positive, bounded⟩ := first?_bounded text kind length found
  have nonempty : text ≠ [] := List.length_pos_iff.mp (by omega)
  have apart := admits.apart
  have stable : ∀ rule ∈ all, Stable rule text tail kind length := by
    simp only [all, List.forall_mem_cons, List.not_mem_nil, false_implies, implies_true, and_true]
    exact ⟨mark_stable (by decide) apart,
      comment_stable positive nonempty admits.comment,
      substitution_stable found positive nonempty,
      variableName_stable apart positive nonempty,
      bracket_stable apart,
      block_stable found positive nonempty apart admits.terminator,
      mark_stable (by decide) apart,
      quoted_stable found positive nonempty,
      range_stable found positive nonempty,
      path_stable found positive nonempty apart admits.path,
      hexadecimal_stable apart positive,
      decimal_stable apart positive nonempty,
      integer_stable apart positive nonempty,
      boolean_stable apart,
      mark_stable (by decide) apart,
      mark_stable (by decide) apart,
      mark_stable (by decide) apart,
      literal_stable apart⟩
  exact findSome?_stable stable found

end MachineConsole.LexicalRule
