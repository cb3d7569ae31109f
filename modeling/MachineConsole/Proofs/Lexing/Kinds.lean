import MachineConsole.Proofs.Lexing.Extent
import MachineConsole.Proofs.Lexing.Opening

/-!
Contract: the kinds of token that the rules make.

Owns:
- `Makes`, the kinds of token that a rule makes, for every rule;
- `isSelfContained`, which leaves out comments, paths and terminators;
- the proof that each of these three kinds is made by one rule only;
- what a text looks like that begins with one of them;
- `IsOrdered`: a range has its addresses in order, whatever it was made from.
-/

namespace MachineConsole.LexicalRule

/-! ### The kinds that a rule makes -/

/-- A rule whose tokens are all of allowed kinds. -/
def Makes (allowed : TokenKind → Prop) (rule : LexicalRule) : Prop :=
  ∀ text kind length, rule text = some (.token kind length) → allowed kind

section

variable {allowed : TokenKind → Prop}

theorem mark_makes {written : List Char} {marked : TokenKind} (makes : allowed marked) :
    Makes allowed (mark written marked) := by
  intro text kind length present
  obtain ⟨-, same⟩ := mark_eq_some_iff.mp present
  obtain ⟨rfl, -⟩ := Reading.token.inj same
  exact makes

theorem Makes.orElse {first second : LexicalRule} (firstMakes : Makes allowed first)
    (secondMakes : Makes allowed second) :
    Makes allowed fun text => first text <|> second text := by
  intro text kind length present
  cases reading : first text with
  | none => exact secondMakes text kind length (by simpa [reading] using present)
  | some made =>
      have same : made = .token kind length := by simpa [reading] using present
      exact firstMakes text kind length (by rw [reading, same])

theorem bracket_makes (left : allowed .leftBracket) (right : allowed .rightBracket) :
    Makes allowed bracket :=
  (mark_makes left).orElse (mark_makes right)

theorem boolean_makes (makes : ∀ value, allowed (.boolean value)) : Makes allowed boolean := by
  intro text kind length present
  exact ((mark_makes (makes true)).orElse (mark_makes (makes false)))
    (text.map Char.toLower) kind length present

theorem comment_makes (makes : ∀ words, allowed (.comment words)) : Makes allowed comment := by
  intro text kind length present
  unfold comment at present
  split at present
  · obtain ⟨rfl, -⟩ := Reading.token.inj (Option.some.inj present)
    exact makes _
  · obtain ⟨rfl, -⟩ := Reading.token.inj (Option.some.inj present)
    exact makes _
  · contradiction

theorem substitution_makes (makes : ∀ command, allowed (.substitution command)) :
    Makes allowed substitution := by
  intro text kind length present
  obtain ⟨command, _, _, _, same⟩ := substitution_eq_some_iff.mp present
  obtain ⟨rfl, -⟩ := Reading.token.inj same
  exact makes _

theorem variableName_makes (makes : ∀ name, allowed (.variable name)) :
    Makes allowed variableName := by
  intro text kind length present
  unfold variableName at present
  split at present
  · dsimp only at present
    split at present
    · contradiction
    · obtain ⟨rfl, -⟩ := Reading.token.inj (Option.some.inj present)
      exact makes _
  · contradiction

theorem block_makes (makes : ∀ words, allowed (.string words)) : Makes allowed block := by
  intro text kind length present
  obtain ⟨_, _, _, _, same⟩ := block_eq_some_iff.mp present
  obtain ⟨rfl, -⟩ := Reading.token.inj same
  exact makes _

theorem quoted_makes (makes : ∀ words, allowed (.string words)) : Makes allowed quoted := by
  intro text kind length present
  unfold quoted at present
  split at present
  · split at present
    · obtain ⟨body, -, same⟩ := Option.map_eq_some_iff.mp present
      obtain ⟨rfl, -⟩ := Reading.token.inj same
      exact makes _
    · contradiction
  · contradiction

/-- Ranges have their addresses in order. -/
theorem range_makes (makes : ∀ first last, first ≤ last → allowed (.range first last)) :
    Makes allowed range := by
  intro text kind length present
  unfold range at present
  split at present
  · simp only [Option.bind_eq_bind, Option.bind_eq_some_iff] at present
    obtain ⟨_, _, _, _, _, _, closes⟩ := present
    split at closes
    · obtain ⟨start, stop, between⟩ := rangeOf_eq_token (Option.some.inj closes)
      obtain ⟨⟨lower, ordered, upper⟩, rfl, -⟩ := rangeBetween_eq_token_iff.mp between
      apply makes
      rw [UInt64.le_iff_toNat_le, UInt64.toNat_ofNat_of_lt' (by simp only [UInt64.size]; omega),
        UInt64.toNat_ofNat_of_lt' (by simp only [UInt64.size]; omega)]
      exact Int.toNat_le_toNat ordered
    · contradiction
  · contradiction

theorem path_makes (makes : ∀ written, allowed (.path written)) : Makes allowed path := by
  intro text kind length present
  unfold path at present
  split at present
  · dsimp only at present
    split at present
    · contradiction
    · obtain ⟨rfl, -⟩ := Reading.token.inj (Option.some.inj present)
      exact makes _
  · contradiction

theorem hexadecimal_makes (makes : ∀ value, allowed (.integer value)) :
    Makes allowed hexadecimal := by
  intro text kind length present
  unfold hexadecimal at present
  split at present
  · dsimp only at present
    split at present
    · contradiction
    · split at present
      · cases present
      · obtain ⟨rfl, -⟩ := Reading.token.inj (Option.some.inj present)
        exact makes _
  · contradiction

theorem decimal_makes (makes : ∀ value, allowed (.float value)) : Makes allowed decimal := by
  intro text kind length present
  simp only [decimal] at present
  split at present
  · split at present
    · contradiction
    · obtain ⟨rfl, -⟩ := Reading.token.inj (Option.some.inj present)
      exact makes _
  · contradiction

theorem integer_makes (makes : ∀ value, allowed (.integer value)) : Makes allowed integer := by
  intro text kind length present
  simp only [integer] at present
  split at present
  · contradiction
  · split at present
    · cases present
    · obtain ⟨rfl, -⟩ := Reading.token.inj (Option.some.inj present)
      exact makes _

theorem literal_makes (makes : ∀ word, allowed (.literal word)) : Makes allowed literal := by
  intro text kind length present
  simp only [literal] at present
  split at present
  · contradiction
  · obtain ⟨rfl, -⟩ := Reading.token.inj (Option.some.inj present)
    exact makes _

end

/-! ### Kinds that end by themselves -/

/-- Whether a token of this kind ends by itself, whatever follows it. -/
def isSelfContained : TokenKind → Bool
  | .comment _ | .path _ | .terminator => false
  | _ => true

/-- A rule that makes only tokens that end by themselves. -/
abbrev MakesSelfContained : LexicalRule → Prop :=
  Makes fun kind => isSelfContained kind = true

/-- Comments, terminators and paths have one rule each. -/
theorem all_makesSelfContained : ∀ rule ∈ all,
    MakesSelfContained rule ∨ rule = comment ∨ rule = terminator ∨ rule = path := by
  simp only [all, List.forall_mem_cons, List.not_mem_nil, false_implies, implies_true, and_true,
    true_or, or_true, true_and]
  exact ⟨.inl (mark_makes rfl), .inl (substitution_makes fun _ => rfl),
    .inl (variableName_makes fun _ => rfl), .inl (bracket_makes rfl rfl),
    .inl (block_makes fun _ => rfl), .inl (quoted_makes fun _ => rfl),
    .inl (range_makes fun _ _ _ => rfl), .inl (hexadecimal_makes fun _ => rfl),
    .inl (decimal_makes fun _ => rfl), .inl (integer_makes fun _ => rfl),
    .inl (boolean_makes fun _ => rfl), .inl (mark_makes rfl), .inl (mark_makes rfl),
    .inl (mark_makes rfl), .inl (literal_makes fun _ => rfl)⟩

/-! ### Ranges in order -/

/-- A range has its addresses in order. -/
def IsOrdered : TokenKind → Prop
  | .range first last => first ≤ last
  | _ => True

theorem all_makesOrdered : ∀ rule ∈ all, Makes IsOrdered rule := by
  simp only [all, List.forall_mem_cons, List.not_mem_nil, false_implies, implies_true, and_true]
  exact ⟨mark_makes trivial, comment_makes fun _ => trivial, substitution_makes fun _ => trivial,
    variableName_makes fun _ => trivial, bracket_makes trivial trivial,
    block_makes fun _ => trivial, mark_makes trivial, quoted_makes fun _ => trivial,
    range_makes fun _ _ ordered => ordered, path_makes fun _ => trivial,
    hexadecimal_makes fun _ => trivial, decimal_makes fun _ => trivial,
    integer_makes fun _ => trivial, boolean_makes fun _ => trivial, mark_makes trivial,
    mark_makes trivial, mark_makes trivial, literal_makes fun _ => trivial⟩

/-- Whatever a text is, the token at its beginning is no range that runs backwards. -/
theorem first?_makesOrdered : Makes IsOrdered first? := by
  intro text kind length found
  obtain ⟨rule, member, applies⟩ := List.exists_of_findSome?_eq_some found
  exact all_makesOrdered rule member text kind length applies

/-! ### Texts that begin with a kind -/

variable {text : List Char} {kind : TokenKind} {length : Nat}

theorem comment_kind (present : comment text = some (.token kind length)) :
    ∃ words, kind = .comment words := by
  have makes : Makes (fun kind => ∃ words, kind = .comment words) comment :=
    comment_makes fun words => ⟨words, rfl⟩
  exact makes text kind length present

theorem path_kind (present : path text = some (.token kind length)) :
    ∃ rest, text = '@' :: rest ∧ length = (pathCharacters rest).length + 1 ∧
      ∃ written, kind = .path written := by
  unfold path at present
  split at present
  · rename_i rest
    dsimp only at present
    split at present
    · contradiction
    · obtain ⟨rfl, rfl⟩ := Reading.token.inj (Option.some.inj present)
      exact ⟨rest, rfl, rfl, _, rfl⟩
  · contradiction

variable (found : first? text = some (.token kind length))
include found

/-- A token that does not end by itself is made by the rule for its kind. -/
theorem first?_dependent (dependent : isSelfContained kind = false) :
    comment text = some (.token kind length) ∨ terminator text = some (.token kind length) ∨
      path text = some (.token kind length) := by
  obtain ⟨rule, member, applies⟩ := List.exists_of_findSome?_eq_some found
  rcases all_makesSelfContained rule member with makes | rfl | rfl | rfl
  · rw [makes text kind length applies] at dependent
    contradiction
  · exact .inl applies
  · exact .inr (.inl applies)
  · exact .inr (.inr applies)

theorem first?_comment (isComment : ∃ words, kind = .comment words) : length = text.length := by
  obtain ⟨words, rfl⟩ := isComment
  rcases first?_dependent found rfl with applies | applies | applies
  · exact (comment_length applies).2
  · cases (mark_eq_some_iff.mp applies).2
  · obtain ⟨_, _, _, _, other⟩ := path_kind applies
    contradiction

theorem first?_path (isPath : ∃ written, kind = .path written) :
    ∃ rest, text = '@' :: rest ∧ length = (pathCharacters rest).length + 1 := by
  obtain ⟨written, rfl⟩ := isPath
  rcases first?_dependent found rfl with applies | applies | applies
  · obtain ⟨_, other⟩ := comment_kind applies
    contradiction
  · cases (mark_eq_some_iff.mp applies).2
  · obtain ⟨rest, begins, extent, -⟩ := path_kind applies
    exact ⟨rest, begins, extent⟩

/-- Behind a terminator, nothing closes a block. -/
theorem first?_terminator (isTerminator : kind = .terminator) :
    length = 3 ∧ untilTerminator? (text.drop 3) = none := by
  subst isTerminator
  rcases first?_dependent found rfl with applies | applies | applies
  · obtain ⟨_, other⟩ := comment_kind applies
    contradiction
  · obtain ⟨⟨rest, rfl⟩, same⟩ := mark_eq_some_iff.mp applies
    obtain ⟨-, rfl⟩ := Reading.token.inj same
    refine ⟨rfl, Option.eq_none_iff_forall_ne_some.mpr ?_⟩
    intro body closed
    have opensBlock := block_eq_some_iff.mpr ⟨rest, body, rfl, closed, rfl⟩
    rw [List.cons_append, first?_quotationMark, List.findSome?_cons] at found
    simp only [List.cons_append, List.nil_append, opensBlock] at found
    cases Option.some.inj found
  · obtain ⟨_, _, _, _, other⟩ := path_kind applies
    contradiction

end MachineConsole.LexicalRule
