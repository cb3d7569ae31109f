import MachineConsole.Token.Invocation

/-!
Contract: the invocations that tokens make up.

Owns:
- `Token.isGathered`, which leaves out comments and separators, and `Token.isOrdinary`, which leaves
  out substitutions as well;
- every invocation is a list of gathered tokens that is not empty;
- gathered tokens alone make up one invocation.
-/

namespace MachineConsole.Token

/-- Whether a token belongs to an invocation. -/
def isGathered (token : Token) : Bool :=
  match token.kind with
  | .comment _ | .separator => false
  | _ => true

/-- Whether a token may be part of an invocation that is dispatched. -/
def isOrdinary (token : Token) : Bool :=
  match token.kind with
  | .comment _ | .separator | .substitution _ => false
  | _ => true

/-- Tokens that may be dispatched together: none is a comment, a separator or a substitution. -/
def AreDispatchable (tokens : List Token) : Prop :=
  ∀ token ∈ tokens, token.isOrdinary = true

theorem isOrdinary_of_isGathered {token : Token} (gathered : token.isGathered = true)
    (unsubstituted : ∀ command, token.kind ≠ .substitution command) : token.isOrdinary = true := by
  unfold isGathered at gathered
  unfold isOrdinary
  cases isKind : token.kind with
  | comment text =>
      rw [isKind] at gathered
      cases gathered
  | separator =>
      rw [isKind] at gathered
      cases gathered
  | substitution command => exact absurd isKind (unsubstituted command)
  | _ => rfl

/-- A list of tokens that is one invocation. -/
def IsInvocation (tokens : List Token) : Prop :=
  tokens ≠ [] ∧ ∀ token ∈ tokens, token.isGathered = true

theorem invocationsFrom_cons_of_gathered {token : Token} (gathers : token.isGathered = true)
    (gathered rest : List Token) :
    invocationsFrom gathered (token :: rest) = invocationsFrom (gathered ++ [token]) rest := by
  unfold isGathered at gathers
  rw [invocationsFrom]
  split <;> simp_all

theorem mem_nonEmpty_iff {invocation tokens : List Token} :
    invocation ∈ nonEmpty tokens ↔ invocation = tokens ∧ tokens ≠ [] := by
  unfold nonEmpty
  split <;> simp_all

theorem isInvocation_of_mem_invocationsFrom {gathered tokens invocation : List Token}
    (allGathered : ∀ token ∈ gathered, token.isGathered = true)
    (member : invocation ∈ invocationsFrom gathered tokens) : IsInvocation invocation := by
  induction tokens generalizing gathered with
  | nil =>
      obtain ⟨rfl, nonempty⟩ := mem_nonEmpty_iff.mp member
      exact ⟨nonempty, allGathered⟩
  | cons token rest inductionHypothesis =>
      cases gathers : token.isGathered with
      | true =>
          rw [invocationsFrom_cons_of_gathered gathers] at member
          refine inductionHypothesis ?_ member
          intro other isOther
          rcases List.mem_append.mp isOther with before | last
          · exact allGathered other before
          · rw [List.mem_singleton.mp last]
            exact gathers
      | false =>
          unfold isGathered at gathers
          rw [invocationsFrom] at member
          split at gathers
          · rename_i isComment
            simp only [isComment] at member
            exact inductionHypothesis allGathered member
          · rename_i isSeparator
            simp only [isSeparator, List.mem_append] at member
            rcases member with here | later
            · obtain ⟨rfl, nonempty⟩ := mem_nonEmpty_iff.mp here
              exact ⟨nonempty, allGathered⟩
            · exact inductionHypothesis (by simp) later
          · contradiction

theorem isInvocation_of_mem_invocations {tokens invocation : List Token}
    (member : invocation ∈ invocations tokens) : IsInvocation invocation :=
  isInvocation_of_mem_invocationsFrom (by simp) member

theorem invocationsFrom_of_gathered {gathered tokens : List Token}
    (allGathered : ∀ token ∈ tokens, token.isGathered = true) :
    invocationsFrom gathered tokens = nonEmpty (gathered ++ tokens) := by
  induction tokens generalizing gathered with
  | nil => rw [invocationsFrom, List.append_nil]
  | cons token rest inductionHypothesis =>
      rw [invocationsFrom_cons_of_gathered (allGathered token List.mem_cons_self),
        inductionHypothesis fun other member => allGathered other (List.mem_cons_of_mem _ member)]
      simp

/-- An invocation alone is read as itself. -/
theorem IsInvocation.invocations_eq {tokens : List Token} (isInvocation : IsInvocation tokens) :
    invocations tokens = [tokens] := by
  unfold invocations
  rw [invocationsFrom_of_gathered isInvocation.2, List.nil_append, nonEmpty,
    if_neg isInvocation.1]

end MachineConsole.Token
