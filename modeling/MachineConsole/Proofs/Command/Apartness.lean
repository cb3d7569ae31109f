import MachineConsole.Proofs.Command.Forms

/-!
Contract: forms that no arguments are given in at the same time.

Owns:
- `Signature.apart`, a check of two forms by their parameters alone, and `not_accepts_of_apart`: no
  arguments are accepted by both;
- `choose?_ne_error`: among forms that are apart wherever they are equally accurate there is always
  a choice, and the forms of the commands that every console has are such forms;
- `BuiltinForm.positions`, the arguments that a form takes for granted, and that they are there when
  the form is chosen.

Does not own: that a form reads these arguments and no others, which is
`MachineConsole.Proofs.Evaluation.Arguments`.
-/

namespace MachineConsole

/-! ### Patterns and parameters -/

namespace TokenPattern

/-- Whether no token is of both patterns. -/
def apart (left right : TokenPattern) : Bool :=
  match left, right with
  | .any, _ | _, .any => false
  | .name, .literal | .name, .variable | .literal, .name | .variable, .name => false
  | _, _ => left != right

theorem not_accepts_of_apart {left right : TokenPattern} (isApart : left.apart right = true)
    {token : Token} (accepted : left.accepts token = true) : right.accepts token = false := by
  obtain ⟨kind, raw⟩ := token
  cases left <;> cases right <;> cases isApart <;> cases kind <;> first | rfl | cases accepted

end TokenPattern

namespace FormParameter

variable {left right : FormParameter} {token : Token}

/-- Whether each parameter allows some words only, and none of these is allowed by both. -/
def wordsApart (left right : FormParameter) : Bool :=
  !left.allowed.isEmpty && !right.allowed.isEmpty &&
    left.allowed.all fun word => right.allowed.all fun other => !Text.sameIgnoringCase word other

/-- Whether no token is accepted by both parameters, on account of patterns or of words. -/
def apart (left right : FormParameter) : Bool :=
  left.pattern.apart right.pattern || left.wordsApart right

/-- What a parameter that allows some words only accepts is one of them. -/
theorem allowed_of_accepts (some : left.allowed.isEmpty = false)
    (accepted : left.accepts token = true) :
    ∃ text ∈ token.text?, ∃ word ∈ left.allowed, Text.sameIgnoringCase word text = true := by
  unfold accepts at accepted
  rw [some, Bool.false_or, Bool.and_eq_true] at accepted
  obtain ⟨text, isText, isAllowed⟩ := (Option.any_eq_true _ _).mp accepted.2
  obtain ⟨word, member, same⟩ := List.any_eq_true.mp isAllowed
  exact ⟨text, isText, word, member, same⟩

theorem not_accepts_of_apart (isApart : left.apart right = true)
    (accepted : left.accepts token = true) : right.accepts token = false := by
  refine Bool.eq_false_iff.mpr fun alsoAccepted => ?_
  unfold apart at isApart
  rcases Bool.or_eq_true_iff.mp isApart with patterns | words
  · have byPattern := (Bool.and_eq_true_iff.mp accepted).1
    have alsoByPattern := (Bool.and_eq_true_iff.mp alsoAccepted).1
    rw [TokenPattern.not_accepts_of_apart patterns byPattern] at alsoByPattern
    cases alsoByPattern
  · unfold wordsApart at words
    simp only [Bool.and_eq_true, Bool.not_eq_true', List.all_eq_true] at words
    obtain ⟨⟨someLeft, someRight⟩, differ⟩ := words
    obtain ⟨text, isText, word, allowed, same⟩ := allowed_of_accepts someLeft accepted
    obtain ⟨_, isSameText, other, alsoAllowed, alsoSame⟩ :=
      allowed_of_accepts someRight alsoAccepted
    obtain rfl := Option.mem_unique isText isSameText
    have equal : Text.sameIgnoringCase word other = true := by
      unfold Text.sameIgnoringCase at same alsoSame ⊢
      rw [beq_iff_eq] at same alsoSame ⊢
      exact same.trans alsoSame.symm
    rw [differ word allowed other alsoAllowed] at equal
    cases equal

end FormParameter

/-! ### Forms -/

namespace Signature

variable {Form : Type} {left right : Signature Form} {arguments : List Token}

/-- Whether no arguments are accepted by both lists of parameters, where one of them must not end
while the other goes on unless further arguments are accepted. -/
def apartFrom (leftRest? rightRest? : Option TokenPattern) :
    List FormParameter → List FormParameter → Bool
  | [], [] => false
  | [], _ :: _ => leftRest?.isNone
  | _ :: _, [] => rightRest?.isNone
  | left :: lefts, right :: rights =>
    left.apart right || apartFrom leftRest? rightRest? lefts rights

/-- Whether two forms are kept apart by some argument or by their number. -/
def apart (left right : Signature Form) : Bool :=
  apartFrom left.rest? right.rest? left.parameters right.parameters

theorem not_acceptsFrom_of_apartFrom {leftRest? rightRest? : Option TokenPattern}
    {lefts rights : List FormParameter}
    (isApart : apartFrom leftRest? rightRest? lefts rights = true)
    (accepted : acceptsFrom leftRest? lefts arguments = true) :
    acceptsFrom rightRest? rights arguments = false := by
  induction lefts generalizing rights arguments with
  | nil =>
      cases rights with
      | nil => cases isApart
      | cons right rights =>
          cases leftRest? with
          | some pattern => cases isApart
          | none =>
              obtain rfl := List.isEmpty_iff.mp accepted
              rfl
  | cons left lefts inductionHypothesis =>
      cases arguments with
      | nil => cases accepted
      | cons argument arguments =>
          cases rights with
          | nil =>
              cases rightRest? with
              | some pattern => cases isApart
              | none => rfl
          | cons right rights =>
              obtain ⟨first, others⟩ := Bool.and_eq_true_iff.mp accepted
              unfold acceptsFrom
              rcases Bool.or_eq_true_iff.mp isApart with here | later
              · rw [FormParameter.not_accepts_of_apart here first, Bool.false_and]
              · rw [inductionHypothesis later others, Bool.and_false]

theorem not_accepts_of_apart (isApart : left.apart right = true)
    (accepted : left.accepts arguments = true) : right.accepts arguments = false :=
  not_acceptsFrom_of_apartFrom isApart accepted

/-- Two forms are apart unless one is accurate and the other is not, which decides between them. -/
def ApartIfAlike (left right : Signature Form) : Prop :=
  left.isAccurate = right.isAccurate → left.apart right = true

instance : DecidableRel (@ApartIfAlike Form) := fun left right =>
  inferInstanceAs (Decidable (left.isAccurate = right.isAccurate → left.apart right = true))

theorem length_le_one_of_alike {signatures : List (Signature Form)} (accurate : Bool)
    (differ : signatures.Pairwise fun left right => left.isAccurate ≠ right.isAccurate)
    (alike : ∀ signature ∈ signatures, signature.isAccurate = accurate) :
    signatures.length ≤ 1 := by
  match signatures with
  | [] => exact Nat.zero_le _
  | [_] => exact Nat.le_refl _
  | first :: second :: _ =>
      have firstTwo := List.rel_of_pairwise_cons differ List.mem_cons_self
      rw [alike first (by simp), alike second (by simp)] at firstTwo
      exact absurd rfl firstTwo

/-- At most one of the forms that are preferred accepts the arguments. -/
theorem length_mostAccurate_le_one {signatures : List (Signature Form)}
    (apart : signatures.Pairwise ApartIfAlike) (arguments : List Token) :
    (mostAccurate (signatures.filter fun signature => signature.accepts arguments)).length ≤ 1 := by
  have differ : (signatures.filter fun signature => signature.accepts arguments).Pairwise
      fun left right => left.isAccurate ≠ right.isAccurate := by
    refine (apart.filter _).imp_of_mem fun leftMember rightMember isApart alike => ?_
    have leftAccepts := (List.mem_filter.mp leftMember).2
    have rightAccepts := (List.mem_filter.mp rightMember).2
    rw [not_accepts_of_apart (isApart alike) leftAccepts] at rightAccepts
    cases rightAccepts
  unfold mostAccurate
  split
  · next none =>
      refine length_le_one_of_alike false differ fun signature member => ?_
      exact Bool.eq_false_iff.mpr (List.filter_eq_nil_iff.mp none signature member)
  · exact length_le_one_of_alike true (differ.filter _) fun signature member =>
      (List.mem_filter.mp member).2

theorem choose?_ne_error {signatures : List (Signature Form)}
    (apart : signatures.Pairwise ApartIfAlike) (command : String) (arguments : List Token)
    (fault : Fault) : choose? command signatures arguments ≠ .error fault := by
  have atMostOne := length_mostAccurate_le_one apart arguments
  unfold choose?
  split
  · exact nofun
  · exact nofun
  · next both =>
      rw [both] at atMostOne
      exact absurd atMostOne (by simp)

end Signature

namespace BuiltinCommand

theorem signatures_apart (command : BuiltinCommand) :
    command.signatures.Pairwise Signature.ApartIfAlike := by
  cases command with
  | store kind => cases kind <;> decide +kernel
  | _ => decide +kernel

end BuiltinCommand

/-! ### Arguments that are taken for granted -/

/-- The positions of the arguments that a form takes for granted. -/
def BuiltinForm.positions : BuiltinForm → List Nat
  | .helpTopic | .includeFile | .storeAwait _ | .storeOpen _ | .executeVariable | .playMacro
  | .useAdd | .verboseSet | .numbersSet | .startScript | .hostSource => [0]
  | .storeValue _ => [0, 1]
  | .machineSelect | .machineSelectAt | .machineAdd | .machineRemove | .pathSet | .pathAdd => [1]
  | .helpList | .executeTokens | .machineList | .machineCreate | .machineClear | .useList
  | .pathShow | .pathReset | .verboseShow | .numbersShow | .peripheralTree | .startAll
  | .pauseAll | .quit => []

theorem Signature.length_le_of_acceptsFrom {rest? : Option TokenPattern}
    {parameters : List FormParameter} {arguments : List Token}
    (accepted : acceptsFrom rest? parameters arguments = true) :
    parameters.length ≤ arguments.length := by
  induction parameters generalizing arguments with
  | nil => exact Nat.zero_le _
  | cons parameter parameters inductionHypothesis =>
      cases arguments with
      | nil => cases accepted
      | cons argument arguments =>
          exact Nat.succ_le_succ (inductionHypothesis (Bool.and_eq_true_iff.mp accepted).2)

namespace BuiltinCommand

/-- A form asks for all arguments that it takes for granted. -/
theorem positions_lt_parameters (command : BuiltinCommand) :
    ∀ signature ∈ command.signatures, ∀ position ∈ signature.form.positions,
      position < signature.parameters.length := by
  cases command with
  | store kind => cases kind <;> decide
  | _ => decide

theorem positions_lt_of_choose? {command : BuiltinCommand} {arguments : List Token}
    {form : BuiltinForm}
    (chosen : Signature.choose? command.name command.signatures arguments = .ok (some form)) :
    ∀ position ∈ form.positions, position < arguments.length := by
  obtain ⟨signature, member, rfl, accepts⟩ := Signature.accepts_of_choose? chosen
  intro position granted
  exact Nat.lt_of_lt_of_le (command.positions_lt_parameters signature member position granted)
    (Signature.length_le_of_acceptsFrom accepts)

end BuiltinCommand

end MachineConsole
