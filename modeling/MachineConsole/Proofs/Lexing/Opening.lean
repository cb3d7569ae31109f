import MachineConsole.Token.Lexer

/-!
Contract: the first character of a text decides which rules can apply to it.

Owns:
- `OpensWith`, the characters that a rule can begin with, for every rule;
- `candidates`, the rules that remain behind a first character, in their order;
- `first?_cons`: reading tries nothing else.

The characters that begin a quoted text, a substitution, a range or a path leave only the rules that
look for the end of that form, so none of those falls back to a shorter word.
-/

namespace MachineConsole.LexicalRule

/-- A rule that applies only to texts that begin with one of some characters. -/
def OpensWith (opens : Char → Bool) (rule : LexicalRule) : Prop :=
  ∀ text, (∀ first ∈ text.head?, opens first = false) → rule text = none

theorem mark_opens (first : Char) (more : List Char) (kind : TokenKind) :
    OpensWith (· == first) (mark (first :: more) kind) := by
  intro text other
  cases text with
  | nil => rfl
  | cons head rest =>
      have differs : head ≠ first := by simpa using other head rfl
      simp [mark, List.isPrefixOf, Ne.symm differs]

theorem OpensWith.orElse {opensFirst opensSecond : Char → Bool} {first second : LexicalRule}
    (firstOpens : OpensWith opensFirst first) (secondOpens : OpensWith opensSecond second) :
    OpensWith (fun character => opensFirst character || opensSecond character)
      (fun text => first text <|> second text) := by
  intro text other
  have otherFirst : ∀ head ∈ text.head?, opensFirst head = false := fun head member =>
    (Bool.or_eq_false_iff.mp (other head member)).1
  have otherSecond : ∀ head ∈ text.head?, opensSecond head = false := fun head member =>
    (Bool.or_eq_false_iff.mp (other head member)).2
  simp only [firstOpens text otherFirst, secondOpens text otherSecond]
  rfl

theorem bracket_opens : OpensWith (fun character => character == '[' || character == ']') bracket :=
  (mark_opens _ _ _).orElse (mark_opens _ _ _)

theorem comment_opens : OpensWith (fun character => character == '#' || character == ':') comment := by
  intro text other
  unfold comment
  split <;> simp_all

theorem substitution_opens : OpensWith (· == '\x60') substitution := by
  intro text other
  unfold substitution
  split <;> simp_all

theorem variableName_opens : OpensWith (· == '$') variableName := by
  intro text other
  unfold variableName
  split <;> simp_all

theorem block_opens : OpensWith (· == '\x22') block := by
  intro text other
  unfold block
  split <;> simp_all

theorem quoted_opens :
    OpensWith (fun character => character == '\x22' || character == '\x27') quoted := by
  intro text other
  unfold quoted
  split <;> simp_all

theorem range_opens : OpensWith (· == '<') range := by
  intro text other
  unfold range
  split <;> simp_all

theorem path_opens : OpensWith (· == '@') path := by
  intro text other
  unfold path
  split <;> simp_all

theorem hexadecimal_opens : OpensWith (· == '0') hexadecimal := by
  intro text other
  unfold hexadecimal
  split <;> simp_all

/-- The characters that a number in decimal digits can begin with. -/
def isNumberStart (character : Char) : Bool :=
  character == '+' || character == '-' || character.isDigit

theorem splitSign_of_other {text : List Char}
    (other : ∀ first ∈ text.head?, isNumberStart first = false) :
    splitSign text = ([], text) ∧ text.takeWhile Char.isDigit = [] := by
  cases text with
  | nil => exact ⟨rfl, rfl⟩
  | cons first rest =>
      have differs := other first rfl
      simp only [isNumberStart, Bool.or_eq_false_iff, beq_eq_false_iff_ne] at differs
      obtain ⟨⟨notPlus, notMinus⟩, notDigit⟩ := differs
      refine ⟨?_, by simp [notDigit]⟩
      unfold splitSign
      split <;> simp_all

theorem integer_opens : OpensWith isNumberStart integer := by
  intro text other
  obtain ⟨unsigned, noDigits⟩ := splitSign_of_other other
  simp [integer, unsigned, noDigits]

theorem decimal_opens :
    OpensWith (fun character => isNumberStart character || character == '.') decimal := by
  intro text other
  obtain ⟨unsigned, noDigits⟩ := splitSign_of_other fun first member =>
    (Bool.or_eq_false_iff.mp (other first member)).1
  simp only [decimal, unsigned, noDigits, List.length_nil, List.drop_zero]
  split <;> simp_all

theorem boolean_opens :
    OpensWith (fun character => character.toLower == 't' || character.toLower == 'f') boolean := by
  intro text other
  have lowered := (mark_opens 't' ['r', 'u', 'e'] (.boolean true)).orElse
    (mark_opens 'f' ['a', 'l', 's', 'e'] (.boolean false))
  apply lowered
  cases text with
  | nil => simp
  | cons first rest => simpa using other first rfl

theorem literal_opens : OpensWith isWordCharacter literal := by
  intro text other
  cases text with
  | nil => rfl
  | cons first rest => simp [literal, other first rfl]

/-- Every rule with the characters it can begin with, in the order of the rules. -/
def openings : List (LexicalRule × (Char → Bool)) :=
  [(conditionalColon, (· == ':')),
    (comment, fun character => character == '#' || character == ':'),
    (substitution, (· == '\x60')),
    (variableName, (· == '$')),
    (bracket, fun character => character == '[' || character == ']'),
    (block, (· == '\x22')),
    (terminator, (· == '\x22')),
    (quoted, fun character => character == '\x22' || character == '\x27'),
    (range, (· == '<')),
    (path, (· == '@')),
    (hexadecimal, (· == '0')),
    (decimal, fun character => isNumberStart character || character == '.'),
    (integer, isNumberStart),
    (boolean, fun character => character.toLower == 't' || character.toLower == 'f'),
    (equality, (· == '=')),
    (conditionalQuestion, (· == '?')),
    (separator, (· == ';')),
    (literal, isWordCharacter)]

theorem openings_opens : ∀ entry ∈ openings, OpensWith entry.2 entry.1 := by
  simp only [openings, List.forall_mem_cons, List.not_mem_nil, false_implies, implies_true,
    and_true]
  exact ⟨mark_opens _ _ _, comment_opens, substitution_opens, variableName_opens, bracket_opens,
    block_opens, mark_opens _ _ _, quoted_opens, range_opens, path_opens, hexadecimal_opens,
    decimal_opens, integer_opens, boolean_opens, mark_opens _ _ _, mark_opens _ _ _,
    mark_opens _ _ _, literal_opens⟩

/-- The rules that can apply behind a first character. -/
def candidates (first : Char) : List LexicalRule :=
  (openings.filter fun entry => entry.2 first).map Prod.fst

theorem findSome?_filter_opens {entries : List (LexicalRule × (Char → Bool))}
    (opens : ∀ entry ∈ entries, OpensWith entry.2 entry.1) (first : Char) (rest : List Char) :
    (entries.map Prod.fst).findSome? (fun rule => rule (first :: rest)) =
      ((entries.filter fun entry => entry.2 first).map Prod.fst).findSome?
        fun rule => rule (first :: rest) := by
  induction entries with
  | nil => rfl
  | cons entry entries inductionHypothesis =>
      have entryOpens := opens entry List.mem_cons_self
      have entriesOpen := inductionHypothesis fun other member =>
        opens other (List.mem_cons_of_mem _ member)
      cases begins : entry.2 first with
      | false =>
          have absent : entry.1 (first :: rest) = none :=
            entryOpens _ (by simpa using begins)
          rw [List.filter_cons_of_neg (by simp [begins]), List.map_cons, List.findSome?_cons, absent]
          exact entriesOpen
      | true =>
          simp only [List.filter_cons, begins, if_true, List.map_cons, List.findSome?_cons,
            entriesOpen]

/-- Reading tries the rules that can begin with the first character and no others. -/
theorem first?_cons (first : Char) (rest : List Char) :
    first? (first :: rest) = (candidates first).findSome? fun rule => rule (first :: rest) :=
  findSome?_filter_opens openings_opens first rest

theorem first?_backtick (rest : List Char) :
    first? ('\x60' :: rest) = substitution ('\x60' :: rest) := by
  rw [first?_cons, show candidates '\x60' = [substitution] from rfl]
  exact List.findSome?_singleton

theorem first?_apostrophe (rest : List Char) :
    first? ('\x27' :: rest) = quoted ('\x27' :: rest) := by
  rw [first?_cons, show candidates '\x27' = [quoted] from rfl]
  exact List.findSome?_singleton

theorem first?_quotationMark (rest : List Char) :
    first? ('\x22' :: rest) =
      [block, terminator, quoted].findSome? fun rule => rule ('\x22' :: rest) :=
  first?_cons '\x22' rest

theorem first?_angle (rest : List Char) : first? ('<' :: rest) = range ('<' :: rest) := by
  rw [first?_cons, show candidates '<' = [range] from rfl]
  exact List.findSome?_singleton

theorem first?_at (rest : List Char) : first? ('@' :: rest) = path ('@' :: rest) := by
  rw [first?_cons, show candidates '@' = [path] from rfl]
  exact List.findSome?_singleton

end MachineConsole.LexicalRule
