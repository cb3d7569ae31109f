import MachineConsole.Proofs.Lexing.Opening
import MachineConsole.Proofs.Lexing.Separation

/-!
Contract: a token is read the same when the text ends somewhere behind it.

Owns:
- `Ended`: a rule that marks the end of its own token, so that nothing behind it counts;
- `WithstandsCut`: what a rule makes of a text is what it makes of a beginning of the text in which
  its token lies, and where it fails it fails on every beginning;
- `first?_take`: the first rule that applies stays the first one.

Rules that take as many characters as they can are not ended: they take fewer where the text ends
within what they would take, but then the token does not lie in front of that end.
-/

namespace MachineConsole.LexicalRule

open Number (isHexDigit)

/-! ### Rules that mark the end of their token -/

/-- What the rule makes of a text it makes of the characters it takes, whatever follows them. -/
def Ended (rule : LexicalRule) : Prop :=
  ∀ text reading, rule text = some reading →
    ∃ taken rest, text = taken ++ rest ∧
      (∀ kind length, reading = .token kind length → length = taken.length) ∧
      ∀ other, rule (taken ++ other) = some reading

theorem mark_ended (written : List Char) (kind : TokenKind) : Ended (mark written kind) := by
  intro text reading applies
  obtain ⟨⟨rest, rfl⟩, rfl⟩ := mark_eq_some_iff.mp applies
  refine ⟨written, rest, rfl, ?_, ?_⟩
  · rintro _ _ ⟨⟩
    rfl
  · exact fun other => mark_eq_some_iff.mpr ⟨List.prefix_append _ _, rfl⟩

theorem substitution_ended : Ended substitution := by
  intro text reading applies
  obtain ⟨command, after, rfl, plain, rfl⟩ := substitution_eq_some_iff.mp applies
  refine ⟨'\x60' :: command ++ ['\x60'], after, by simp, ?_, ?_⟩
  · rintro _ _ ⟨⟩
    simp
  · intro other
    exact substitution_eq_some_iff.mpr ⟨command, other, by simp, plain, rfl⟩

theorem block_ended : Ended block := by
  intro text reading applies
  obtain ⟨rest, body, rfl, closed, rfl⟩ := block_eq_some_iff.mp applies
  obtain ⟨⟨after, rfl⟩, resplit⟩ := untilTerminator?_split closed
  refine ⟨'\x22' :: '\x22' :: '\x22' :: (body ++ ['\x22', '\x22', '\x22']), after, by simp, ?_, ?_⟩
  · rintro _ _ ⟨⟩
    simp
  · intro other
    exact block_eq_some_iff.mpr ⟨body ++ '\x22' :: '\x22' :: '\x22' :: other, body, by simp,
      resplit other, rfl⟩

theorem quoted_ended : Ended quoted := by
  intro text reading applies
  unfold quoted at applies
  split at applies
  · next mark rest =>
      split at applies
      · next opens =>
          obtain ⟨body, closed, rfl⟩ := Option.map_eq_some_iff.mp applies
          obtain ⟨-, bounded, resplit⟩ := untilMark?_split closed
          refine ⟨mark :: rest.take body.2, rest.drop body.2, by simp, ?_, ?_⟩
          · rintro _ _ ⟨⟩
            rw [List.length_cons, List.length_take_of_le bounded]
          · intro other
            simp only [List.cons_append, quoted, if_pos opens, resplit, Option.map_some]
      · contradiction
  · contradiction

theorem range_ended : Ended range := by
  intro text reading applies
  obtain ⟨body, after, rfl, extent, resplit⟩ := range_split applies
  refine ⟨'<' :: (body ++ ['>']), after, by simp, ?_, ?_⟩
  · intro kind length isToken
    rw [extent kind length isToken]
    simp
  · intro other
    simpa using resplit other

/-! ### Texts that end earlier -/

/-- A rule that fails on the beginnings of a text on which it fails, and that makes a token again
of a beginning in which the token lies. -/
structure WithstandsCut (rule : LexicalRule) : Prop where
  absent : ∀ text cut, rule text = none → rule (text.take cut) = none
  present : ∀ text cut kind length, rule text = some (.token kind length) → length ≤ cut →
    rule (text.take cut) = some (.token kind length)

theorem Ended.withstandsCut {rule : LexicalRule} (ended : Ended rule) : WithstandsCut rule where
  absent text cut absent := by
    refine Option.eq_none_iff_forall_ne_some.mpr ?_
    intro reading applies
    obtain ⟨taken, behind, split, -, again⟩ := ended _ reading applies
    rw [← List.take_append_drop cut text, split, List.append_assoc, again] at absent
    contradiction
  present text cut kind length applies within := by
    obtain ⟨taken, behind, rfl, extent, again⟩ := ended _ _ applies
    obtain rfl := extent kind length rfl
    rw [List.take_append, List.take_of_length_le within]
    exact again _

theorem WithstandsCut.orElse {first second : LexicalRule}
    (firstWithstands : WithstandsCut first) (secondWithstands : WithstandsCut second) :
    WithstandsCut fun text => first text <|> second text where
  absent text cut absent := by
    cases reading : first text with
    | none =>
        rw [reading] at absent
        simp only [firstWithstands.absent text cut reading]
        exact secondWithstands.absent text cut absent
    | some made =>
        rw [reading] at absent
        contradiction
  present text cut kind length applies within := by
    cases reading : first text with
    | none =>
        rw [reading] at applies
        simp only [firstWithstands.absent text cut reading]
        exact secondWithstands.present text cut kind length applies within
    | some made =>
        rw [reading] at applies
        obtain rfl : made = .token kind length := Option.some.inj applies
        simp only [firstWithstands.present text cut kind length reading within]
        rfl

theorem mark_withstandsCut (written : List Char) (kind : TokenKind) :
    WithstandsCut (mark written kind) :=
  (mark_ended written kind).withstandsCut

theorem bracket_withstandsCut : WithstandsCut bracket :=
  (mark_withstandsCut _ _).orElse (mark_withstandsCut _ _)

theorem boolean_withstandsCut : WithstandsCut boolean := by
  have lowered := (mark_withstandsCut ['t', 'r', 'u', 'e'] (.boolean true)).orElse
    (mark_withstandsCut ['f', 'a', 'l', 's', 'e'] (.boolean false))
  constructor
  · intro text cut absent
    have stillAbsent := lowered.absent (text.map Char.toLower) cut absent
    rwa [← List.map_take] at stillAbsent
  · intro text cut kind length applies within
    have appliesAgain := lowered.present (text.map Char.toLower) cut kind length applies within
    rwa [← List.map_take] at appliesAgain

/-- A comment takes everything, so a text that ends behind it is the same text. -/
theorem comment_withstandsCut : WithstandsCut comment where
  absent text cut absent := by
    cases text with
    | nil => rwa [List.take_nil]
    | cons first rest =>
        cases cut with
        | zero => rfl
        | succ cut =>
            rw [List.take_succ_cons]
            unfold comment at absent ⊢
            split at absent <;> simp_all
  present text cut kind length applies within := by
    rw [(comment_length applies).2] at within
    rwa [List.take_of_length_le within]

/-! ### Runs of characters -/

theorem takeWhile_take (accepts : Char → Bool) (text : List Char) (cut : Nat) :
    (text.take cut).takeWhile accepts = (text.takeWhile accepts).take cut := by
  induction text generalizing cut with
  | nil => simp
  | cons first rest inductionHypothesis =>
      cases cut with
      | zero => simp
      | succ cut =>
          cases accepted : accepts first with
          | false => simp [accepted]
          | true => simp [accepted, inductionHypothesis]

theorem dropWhile_take (accepts : Char → Bool) (text : List Char) (cut : Nat) :
    (text.take cut).dropWhile accepts =
      (text.dropWhile accepts).take (cut - (text.takeWhile accepts).length) := by
  induction text generalizing cut with
  | nil => simp
  | cons first rest inductionHypothesis =>
      cases cut with
      | zero => simp
      | succ cut =>
          cases accepted : accepts first with
          | false => simp [accepted]
          | true => simp [accepted, inductionHypothesis]

theorem literal_withstandsCut : WithstandsCut literal where
  absent text cut absent := by
    have empty : text.takeWhile isWordCharacter = [] := by simpa [literal] using absent
    simp [literal, takeWhile_take, empty]
  present text cut kind length applies within := by
    simp only [literal, takeWhile_take] at applies ⊢
    split at applies
    · contradiction
    · next someWord =>
        obtain ⟨-, rfl⟩ := Reading.token.inj (Option.some.inj applies)
        rw [List.take_of_length_le within, if_neg someWord]
        exact applies

/-- A rule that is passed over without its first character withstands a cut if it does behind that
character. -/
theorem OpensWith.withstandsCut {rule : LexicalRule} {opening : Char}
    (opens : OpensWith (· == opening) rule)
    (absent : ∀ rest cut, rule (opening :: rest) = none → rule (opening :: rest.take cut) = none)
    (present : ∀ rest cut kind length, rule (opening :: rest) = some (.token kind length) →
      length ≤ cut + 1 → rule (opening :: rest.take cut) = some (.token kind length))
    (bounded : Bounded rule) : WithstandsCut rule where
  absent text cut isAbsent := by
    match text, cut with
    | [], cut => rwa [List.take_nil]
    | first :: rest, 0 => exact opens _ (by simp)
    | first :: rest, cut + 1 =>
        by_cases same : first = opening
        · rw [same] at isAbsent ⊢
          exact absent rest cut isAbsent
        · exact opens _ (by simpa using same)
  present text cut kind length isPresent within := by
    obtain ⟨positive, -⟩ := bounded text kind length isPresent
    obtain ⟨less, rfl⟩ : ∃ less, cut = less + 1 := ⟨cut - 1, by omega⟩
    cases text with
    | nil =>
        rw [opens _ (by simp)] at isPresent
        contradiction
    | cons first rest =>
        by_cases same : first = opening
        · rw [same] at isPresent ⊢
          exact present rest less kind length isPresent within
        · rw [opens _ (by simpa using same)] at isPresent
          contradiction

theorem variableName_withstandsCut : WithstandsCut variableName := by
  apply variableName_opens.withstandsCut _ _ variableName_bounded
  · intro rest cut absent
    have empty : rest.takeWhile isNameCharacter = [] := by simpa [variableName] using absent
    simp [variableName, takeWhile_take, empty]
  · intro rest cut kind length present within
    simp only [variableName, takeWhile_take] at present ⊢
    split at present
    · contradiction
    · next someName =>
        obtain ⟨-, rfl⟩ := Reading.token.inj (Option.some.inj present)
        rw [List.take_of_length_le (Nat.le_of_succ_le_succ within), if_neg someName]
        exact present

theorem not_begins_take {character : Char} {rest : List Char}
    (differs : ∀ more, rest = character :: more → False) (cut : Nat) (more : List Char) :
    rest.take cut = character :: more → False := by
  intro begins
  have split := List.take_append_drop cut rest
  rw [begins] at split
  exact differs _ split.symm

theorem pathCharacters_take (text : List Char) (cut : Nat) :
    pathCharacters (text.take cut) = (pathCharacters text).take cut := by
  induction text using pathCharacters.induct generalizing cut with
  | case1 => simp
  | case2 rest inductionHypothesis =>
      cases cut with
      | zero => rfl
      | succ cut =>
          cases cut with
          | zero => rfl
          | succ cut => simp [inductionHypothesis]
  | case3 character rest notEscape ends =>
      cases cut with
      | zero => rfl
      | succ cut =>
          have stillNotEscape : ∀ more, character = '\\' → rest.take cut = ' ' :: more → False :=
            fun more backslash => not_begins_take (fun behind => notEscape behind backslash) cut more
          rw [List.take_succ_cons, pathCharacters_cons stillNotEscape, pathCharacters_cons notEscape,
            if_pos ends, if_pos ends, List.take_nil]
  | case4 character rest notEscape continues inductionHypothesis =>
      cases cut with
      | zero => rfl
      | succ cut =>
          have stillNotEscape : ∀ more, character = '\\' → rest.take cut = ' ' :: more → False :=
            fun more backslash => not_begins_take (fun behind => notEscape behind backslash) cut more
          rw [List.take_succ_cons, pathCharacters_cons stillNotEscape, pathCharacters_cons notEscape,
            if_neg continues, if_neg continues, List.take_succ_cons, inductionHypothesis]

theorem path_withstandsCut : WithstandsCut path := by
  apply path_opens.withstandsCut _ _ path_bounded
  · intro rest cut absent
    have empty : pathCharacters rest = [] := by simpa [path] using absent
    simp [path, pathCharacters_take, empty]
  · intro rest cut kind length present within
    simp only [path, pathCharacters_take] at present ⊢
    split at present
    · contradiction
    · next someCharacters =>
        obtain ⟨-, rfl⟩ := Reading.token.inj (Option.some.inj present)
        rw [List.take_of_length_le (Nat.le_of_succ_le_succ within), if_neg someCharacters]
        exact present

/-! ### Numbers -/

theorem hexadecimal_withstandsCut : WithstandsCut hexadecimal where
  absent text cut absent := by
    by_cases begins : ['0', 'x'] <+: text.take cut
    · obtain ⟨digits, rfl⟩ := begins.trans (List.take_prefix cut text)
      simp only [List.cons_append, List.nil_append] at absent ⊢
      have empty : digits.takeWhile isHexDigit = [] := by
        simp only [hexadecimal] at absent
        split at absent
        · assumption
        · split at absent <;> contradiction
      cases cut with
      | zero => rfl
      | succ cut =>
          cases cut with
          | zero => rfl
          | succ cut => simp [hexadecimal, takeWhile_take, empty]
    · exact hexadecimal_eq_none begins
  present text cut kind length applies within := by
    obtain ⟨digits, taken, rfl, rfl⟩ := hexadecimal_begins applies
    obtain ⟨less, rfl⟩ : ∃ less, cut = less + 2 := ⟨cut - 2, by omega⟩
    simp only [List.take_succ_cons, hexadecimal, takeWhile_take] at applies ⊢
    split at applies
    · contradiction
    · next someDigits =>
        split at applies
        · cases applies
        · next bounded =>
            obtain ⟨-, sameLength⟩ := Reading.token.inj (Option.some.inj applies)
            rw [List.take_of_length_le (by omega), if_neg someDigits, if_neg bounded]
            exact applies

/-- A text that ends earlier has the same sign, if the end is not in front of it. -/
theorem splitSign_take {text sign unsigned : List Char} {cut : Nat} (positive : 0 < cut)
    (signed : splitSign text = (sign, unsigned)) :
    splitSign (text.take cut) = (sign, unsigned.take (cut - sign.length)) := by
  by_cases empty : text = []
  · subst empty
    obtain ⟨rfl, rfl⟩ := Prod.mk.inj signed
    simp [splitSign]
  · have again := splitSign_take_append signed positive empty []
    rwa [List.append_nil, List.append_nil] at again

theorem integer_withstandsCut : WithstandsCut integer where
  absent text cut absent := by
    obtain ⟨sign, unsigned, signed⟩ : ∃ sign unsigned, splitSign text = (sign, unsigned) :=
      ⟨_, _, rfl⟩
    cases cut with
    | zero => rfl
    | succ cut =>
        simp only [integer, splitSign_take (Nat.succ_pos cut) signed, signed, takeWhile_take]
          at absent ⊢
        split at absent
        · next noDigits => rw [noDigits, List.take_nil, if_pos rfl]
        · split at absent <;> contradiction
  present text cut kind length applies within := by
    obtain ⟨sign, unsigned, signed⟩ : ∃ sign unsigned, splitSign text = (sign, unsigned) :=
      ⟨_, _, rfl⟩
    obtain ⟨positive, -⟩ := integer_bounded text kind length applies
    simp only [integer, splitSign_take (Nat.lt_of_lt_of_le positive within) signed, signed,
      takeWhile_take] at applies ⊢
    split at applies
    · contradiction
    · next someDigits =>
        split at applies
        · cases applies
        · next value isWithin =>
            obtain ⟨-, sameLength⟩ := Reading.token.inj (Option.some.inj applies)
            rw [List.take_of_length_le (by omega), if_neg someDigits, isWithin]
            exact applies

theorem decimal_withstandsCut : WithstandsCut decimal where
  absent text cut absent := by
    obtain ⟨sign, unsigned, signed⟩ : ∃ sign unsigned, splitSign text = (sign, unsigned) :=
      ⟨_, _, rfl⟩
    cases cut with
    | zero => rfl
    | succ cut =>
        simp only [decimal, splitSign_take (Nat.succ_pos cut) signed, signed,
          drop_length_takeWhile] at absent ⊢
        simp only [takeWhile_take, dropWhile_take]
        split at absent
        · next rest point =>
            split at absent
            · next noDigits =>
                rw [Bool.and_eq_true, decide_eq_true_eq, decide_eq_true_eq] at noDigits
                rw [point, noDigits.1]
                cases cut + 1 - sign.length with
                | zero => rfl
                | succ less => simp [takeWhile_take, noDigits.2]
            · contradiction
        · next noPoint =>
            split
            · next rest point => exact absurd point (not_begins_take noPoint _ _)
            · rfl
  present text cut kind length applies within := by
    obtain ⟨sign, unsigned, signed⟩ : ∃ sign unsigned, splitSign text = (sign, unsigned) :=
      ⟨_, _, rfl⟩
    obtain ⟨positive, -⟩ := decimal_bounded text kind length applies
    simp only [decimal, splitSign_take (Nat.lt_of_lt_of_le positive within) signed, signed,
      drop_length_takeWhile] at applies ⊢
    simp only [takeWhile_take, dropWhile_take]
    split at applies
    · next rest point =>
        split at applies
        · contradiction
        · next someDigits =>
            obtain ⟨-, sameLength⟩ := Reading.token.inj (Option.some.inj applies)
            have whole : (unsigned.takeWhile Char.isDigit).take (cut - sign.length) =
                unsigned.takeWhile Char.isDigit := List.take_of_length_le (by omega)
            obtain ⟨less, behind⟩ : ∃ less,
                cut - sign.length - (unsigned.takeWhile Char.isDigit).length = less + 1 :=
              ⟨cut - sign.length - (unsigned.takeWhile Char.isDigit).length - 1, by omega⟩
            have fraction : (rest.take less).takeWhile Char.isDigit =
                rest.takeWhile Char.isDigit := by
              rw [takeWhile_take, List.take_of_length_le (by omega)]
            rw [whole, point, behind]
            simp only [List.take_succ_cons, fraction, if_neg someDigits]
            exact applies
    · contradiction

/-! ### The first rule that applies -/

theorem all_withstandsCut : ∀ rule ∈ all, WithstandsCut rule := by
  simp only [all, List.forall_mem_cons, List.not_mem_nil, false_implies, implies_true, and_true]
  exact ⟨mark_withstandsCut _ _, comment_withstandsCut, substitution_ended.withstandsCut,
    variableName_withstandsCut, bracket_withstandsCut, block_ended.withstandsCut,
    mark_withstandsCut _ _, quoted_ended.withstandsCut, range_ended.withstandsCut,
    path_withstandsCut, hexadecimal_withstandsCut, decimal_withstandsCut, integer_withstandsCut,
    boolean_withstandsCut, mark_withstandsCut _ _, mark_withstandsCut _ _,
    mark_withstandsCut _ _, literal_withstandsCut⟩

theorem findSome?_take {rules : List LexicalRule}
    (withstand : ∀ rule ∈ rules, WithstandsCut rule) {text : List Char} {kind : TokenKind}
    {length cut : Nat}
    (found : rules.findSome? (fun rule => rule text) = some (.token kind length))
    (within : length ≤ cut) :
    rules.findSome? (fun rule => rule (text.take cut)) = some (.token kind length) := by
  induction rules with
  | nil => contradiction
  | cons rule rules inductionHypothesis =>
      have ruleWithstands := withstand rule List.mem_cons_self
      cases reading : rule text with
      | none =>
          rw [List.findSome?_cons, reading] at found
          rw [List.findSome?_cons, ruleWithstands.absent text cut reading]
          exact inductionHypothesis
            (fun other member => withstand other (List.mem_cons_of_mem _ member)) found
      | some first =>
          rw [List.findSome?_cons, reading] at found
          rw [List.findSome?_cons,
            ruleWithstands.present text cut kind length (reading.trans found) within]

/-- A text that ends behind its first token begins with that token. -/
theorem first?_take {text : List Char} {kind : TokenKind} {length cut : Nat}
    (found : first? text = some (.token kind length)) (within : length ≤ cut) :
    first? (text.take cut) = some (.token kind length) :=
  findSome?_take all_withstandsCut found within

end MachineConsole.LexicalRule
