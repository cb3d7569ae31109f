import MachineConsole.Command.Builtin

/-!
Contract: the forms that arguments of commands are given in.

Owns:
- a form that was chosen accepts the arguments;
- a value is stored only where no mark stands behind the name, since a mark opens a block.
-/

namespace MachineConsole

namespace Signature

variable {Form : Type} {command : String} {signatures : List (Signature Form)}
  {arguments : List Token} {form : Form}

theorem mem_of_mem_mostAccurate {signature : Signature Form}
    (member : signature ∈ mostAccurate signatures) : signature ∈ signatures := by
  unfold mostAccurate at member
  split at member
  · exact member
  · exact (List.mem_filter.mp member).1

/-- A form that was chosen is one of the command's and accepts the arguments. -/
theorem accepts_of_choose? (chosen : choose? command signatures arguments = .ok (some form)) :
    ∃ signature ∈ signatures, signature.form = form ∧ signature.accepts arguments = true := by
  unfold choose? at chosen
  split at chosen
  · cases chosen
  · next only isOnly =>
      cases chosen
      have member : only ∈ mostAccurate
          (signatures.filter fun signature => signature.accepts arguments) := by
        rw [isOnly]
        exact List.mem_singleton_self only
      obtain ⟨listed, accepts⟩ := List.mem_filter.mp (mem_of_mem_mostAccurate member)
      exact ⟨only, listed, rfl, accepts⟩
  · cases chosen

/-- What accepts exactly two arguments accepts nothing but a list of two. -/
theorem eq_pair_of_acceptsFrom {first second : FormParameter}
    (accepted : acceptsFrom none [first, second] arguments = true) :
    ∃ name value, arguments = [name, value] ∧ first.accepts name = true := by
  match arguments with
  | [] => cases accepted
  | [name] =>
      unfold acceptsFrom acceptsFrom at accepted
      rw [Bool.and_false] at accepted
      cases accepted
  | [name, value] =>
      unfold acceptsFrom at accepted
      exact ⟨name, value, rfl, (Bool.and_eq_true_iff.mp accepted).1⟩
  | name :: value :: other :: rest =>
      unfold acceptsFrom acceptsFrom acceptsFrom at accepted
      rw [show (other :: rest).isEmpty = false from rfl, Bool.and_false, Bool.and_false] at accepted
      cases accepted

end Signature

namespace BuiltinCommand

theorem form_ne_storeValue {builtin : BuiltinCommand} {signature : Signature BuiltinForm}
    (member : signature ∈ builtin.signatures) (isOther : ∀ kind, builtin ≠ .store kind)
    (kind : StoreKind) : signature.form ≠ .storeValue kind := by
  revert signature
  cases builtin with
  | store stored => exact absurd rfl (isOther stored)
  | _ => cases kind <;> decide

/-- Only the command for a store has the form that stores a value. -/
theorem eq_store_of_storeValue {builtin : BuiltinCommand} {kind : StoreKind}
    {signature : Signature BuiltinForm} (member : signature ∈ builtin.signatures)
    (isForm : signature.form = .storeValue kind) :
    builtin = .store kind ∧
      signature.parameters = [⟨"name", .name, []⟩, ⟨"value", .any, []⟩] ∧
      signature.rest? = none := by
  cases builtin with
  | store other =>
      unfold signatures at member
      rcases List.mem_cons.mp member with rfl | member
      · cases isForm
      rcases List.mem_cons.mp member with rfl | member
      · cases isForm
      cases List.mem_singleton.mp member
      cases isForm
      exact ⟨rfl, rfl, rfl⟩
  | _ => exact absurd isForm (form_ne_storeValue member nofun kind)

/-- With a mark behind a name, a block is opened and nothing is stored. -/
theorem choose?_of_terminator {kind : StoreKind} {name value : Token}
    (isName : TokenPattern.name.accepts name = true) (isMark : value.kind = .terminator) :
    Signature.choose? kind.commandName (store kind).signatures [name, value] =
      .ok (some (.storeOpen kind)) := by
  obtain ⟨nameKind, nameRaw⟩ := name
  obtain ⟨valueKind, valueRaw⟩ := value
  cases isMark
  cases nameKind with
  | literal text => rfl
  | «variable» word => rfl
  | _ => cases isName

/-- What is stored as it was given is no mark. -/
theorem not_terminator_of_storeValue {builtin : BuiltinCommand} {kind : StoreKind}
    {arguments : List Token} {value : Token}
    (chosen : Signature.choose? builtin.name builtin.signatures arguments =
      .ok (some (.storeValue kind)))
    (isValue : arguments[1]? = some value) : value.kind ≠ .terminator := by
  obtain ⟨signature, member, isForm, accepts⟩ := Signature.accepts_of_choose? chosen
  obtain ⟨rfl, parameters, rest⟩ := eq_store_of_storeValue member isForm
  unfold Signature.accepts at accepts
  rw [parameters, rest] at accepts
  obtain ⟨name, second, rfl, acceptsName⟩ := Signature.eq_pair_of_acceptsFrom accepts
  cases isValue
  intro isMark
  have isName : TokenPattern.name.accepts name = true :=
    (Bool.and_eq_true_iff.mp acceptsName).1
  have opens : Signature.choose? (store kind).name (store kind).signatures [name, value] =
      .ok (some (.storeOpen kind)) := choose?_of_terminator isName isMark
  rw [opens] at chosen
  cases chosen

end BuiltinCommand

end MachineConsole
