import MachineConsole.Member.Coercion
import MachineConsole.Proofs.Sequencing
import MachineConsole.Proofs.Value.Words

/-!
Contract: conversion of values to a type.

Owns:
- `Registry.inhabits`, the values that a type has;
- `Value.item?` and `ValueType.enumAt?`, what stands at a place in nested lists and what the type
  declares there;
- `coerce_retracts`: conversion yields values of the type and leaves these as they are.

A value of an enumeration that is converted from a name or a number is a member that its enumeration
declares; one that was of an enumeration already only has to have the name of it.
-/

namespace MachineConsole

/-! ### Values of a type -/

/-- Whether a value is one of a type. Values of 64 bits without a sign are given by their bits, so
every integer is one. -/
def Registry.inhabits (registry : Registry) : ValueType → Value → Bool
  | .any, _ => true
  | .bool, .bool _ => true
  | .int kind, .int value => kind == .u64 || kind.admits value.toInt
  | .float, .float _ => true
  | .string, .string _ => true
  | .range, .range _ _ => true
  | .enum spec, .enum other _ => other.name == spec.name
  | .nullable inner, value => value.isNull || registry.inhabits inner value
  | .object _, .null => true
  | .object required?, .object object => required?.all (registry.isInstance object)
  | .array element, .list items => items.all (registry.inhabits element)
  | _, _ => false

/-- The item at a place in nested lists, given by the positions that lead to it. -/
def Value.item? : List Nat → Value → Option Value
  | [], value => some value
  | position :: path, .list items => items[position]? >>= item? path
  | _ :: _, _ => none

/-- The enumeration that a type declares for the items at a depth of nested lists. -/
def ValueType.enumAt? : Nat → ValueType → Option EnumSpec
  | depth, .nullable inner => inner.enumAt? depth
  | 0, .enum spec => some spec
  | depth + 1, .array element => element.enumAt? depth
  | _, _ => none

/-- Whether a value is a text or an integer, which enumerations are written as. -/
def Value.isTextOrInt : Value → Bool
  | .string _ | .int _ => true
  | _ => false

theorem EnumSpec.isDeclared_of_valueOf? {spec : EnumSpec} {name : String} {value : Int64}
    (found : spec.valueOf? name = some value) : spec.isDeclared value = true := by
  unfold valueOf? at found
  obtain ⟨member, isFirst, rfl⟩ := Option.map_eq_some_iff.mp found
  unfold isDeclared nameOf?
  rw [Option.isSome_map, List.find?_isSome]
  exact ⟨member, List.mem_of_find?_eq_some isFirst, beq_self_eq_true member.2⟩

namespace ConversionContext

variable {context : ConversionContext} {value result : Value}

/-! ### Conversion yields values of the type -/

theorem inhabits_of_boundedInt {integer : Int} {kind : IntKind}
    (converted : boundedInt integer kind = .ok result) :
    context.registry.inhabits (.int kind) result = true := by
  unfold boundedInt at converted
  split at converted
  · next admitted =>
      cases converted
      unfold Registry.inhabits
      by_cases isWide : kind = .u64
      · rw [isWide]
        rfl
      · rw [IntKind.toInt_ofInt (IntKind.fits_of_admits isWide admitted), admitted, Bool.or_true]
  · cases converted

theorem inhabits_of_toInt {kind : IntKind} (converted : context.toInt kind value = .ok result) :
    context.registry.inhabits (.int kind) result = true := by
  unfold toInt at converted
  split at converted
  · split at converted
    · next isWide =>
        cases converted
        rw [isWide]
        rfl
    · exact inhabits_of_boundedInt converted
  · exact inhabits_of_boundedInt converted
  · unfold intOfFloat at converted
    split at converted
    · cases converted
    · split at converted
      · cases converted
      · exact inhabits_of_boundedInt converted
  · cases converted

theorem inhabits_of_toEnum {spec : EnumSpec} (converted : context.toEnum spec value = .ok result) :
    context.registry.inhabits (.enum spec) result = true := by
  unfold toEnum at converted
  split at converted
  · split at converted
    · cases converted
      exact beq_self_eq_true spec.name
    · cases converted
  · split at converted
    · cases converted
      exact beq_self_eq_true spec.name
    · cases converted
  · split at converted
    · next sameName =>
        cases converted
        exact beq_iff_eq.mpr sameName
    · cases converted
  · cases converted

theorem inhabits_of_checkObject {required? : Option String} {object : ObjectRef}
    (converted : context.checkObject required? object = .ok result) :
    context.registry.inhabits (.object required?) result = true := by
  unfold checkObject at converted
  split at converted
  · cases converted
    rfl
  · split at converted
    · next satisfies =>
        cases converted
        exact satisfies
    · cases converted

theorem inhabits_of_toObject {required? : Option String}
    (converted : context.toObject required? value = .ok result) :
    context.registry.inhabits (.object required?) result = true := by
  unfold toObject at converted
  split at converted
  · cases converted
    rfl
  · exact inhabits_of_checkObject converted
  · split at converted
    · exact inhabits_of_checkObject converted
    · cases converted
  · cases converted

/-- A list is converted item by item. -/
theorem coerce_list_iff {element : ValueType} {items : List Value} :
    context.coerce (.array element) (.list items) = .ok result ↔
      ∃ results, items.map (context.coerce element) = results.map .ok ∧ result = .list results := by
  unfold coerce
  simp only [← mapM_eq_ok_iff]
  cases items.mapM (context.coerce element) with
  | error cause => exact ⟨nofun, fun ⟨_, absent, _⟩ => nomatch absent⟩
  | ok results =>
      constructor
      · intro converted
        cases converted
        exact ⟨results, rfl, rfl⟩
      · rintro ⟨_, same, rfl⟩
        cases same
        rfl

theorem inhabits_of_coerce {type : ValueType} (converted : context.coerce type value = .ok result) :
    context.registry.inhabits type result = true := by
  induction type generalizing value result with
  | any => rfl
  | nullable inner inductionHypothesis =>
      unfold coerce at converted
      unfold Registry.inhabits
      split at converted
      · cases converted
        rfl
      · rw [inductionHypothesis converted, Bool.or_true]
  | array element inductionHypothesis =>
      cases value with
      | list items =>
          obtain ⟨results, each, rfl⟩ := coerce_list_iff.mp converted
          refine List.all_eq_true.mpr fun item member => ?_
          obtain ⟨original, _, isItem⟩ := List.mem_map.mp (each ▸ List.mem_map_of_mem member)
          exact inductionHypothesis isItem
      | _ => cases converted
  | int kind => exact inhabits_of_toInt converted
  | enum spec => exact inhabits_of_toEnum converted
  | object required? => exact inhabits_of_toObject converted
  | _ => cases value <;> cases converted <;> rfl

/-! ### Conversion leaves values of the type as they are -/

theorem toInt_of_inhabits {kind : IntKind}
    (isOne : context.registry.inhabits (.int kind) value = true) :
    context.toInt kind value = .ok value := by
  cases value with
  | int integer =>
      change (if kind = .u64 then Except.ok (Value.int integer) else boundedInt integer.toInt kind) =
        .ok (.int integer)
      split
      · rfl
      · next isNarrow =>
          have admitted : kind.admits integer.toInt = true :=
            (Bool.or_eq_true_iff.mp isOne).resolve_left fun isWide => isNarrow (eq_of_beq isWide)
          unfold boundedInt
          rw [if_pos admitted, Int64.ofInt_toInt]
  | _ => cases isOne

theorem toEnum_of_inhabits {spec : EnumSpec}
    (isOne : context.registry.inhabits (.enum spec) value = true) :
    context.toEnum spec value = .ok value := by
  cases value with
  | enum other number => exact if_pos (eq_of_beq isOne)
  | _ => cases isOne

theorem toObject_of_inhabits {required? : Option String}
    (isOne : context.registry.inhabits (.object required?) value = true) :
    context.toObject required? value = .ok value := by
  cases value with
  | null => rfl
  | object object =>
      cases required? with
      | none => rfl
      | some required => exact if_pos isOne
  | _ => cases isOne

theorem coerce_of_inhabits {type : ValueType}
    (isOne : context.registry.inhabits type value = true) :
    context.coerce type value = .ok value := by
  induction type generalizing value with
  | any => rfl
  | nullable inner inductionHypothesis =>
      unfold coerce
      cases isNull : value.isNull with
      | true => cases value <;> cases isNull; rfl
      | false =>
          unfold Registry.inhabits at isOne
          rw [isNull, Bool.false_or] at isOne
          exact inductionHypothesis isOne
  | array element inductionHypothesis =>
      cases value with
      | list items =>
          have kept : items.map (context.coerce element) = items.map .ok :=
            List.map_congr_left fun item member =>
              inductionHypothesis (List.all_eq_true.mp isOne item member)
          exact coerce_list_iff.mpr ⟨items, kept, rfl⟩
      | _ => cases isOne
  | int kind => exact toInt_of_inhabits isOne
  | enum spec => exact toEnum_of_inhabits isOne
  | object required? => exact toObject_of_inhabits isOne
  | _ => cases value <;> cases isOne <;> rfl

/-! ### Values of enumerations -/

/-- Only a list has items, and an enumeration value is the only item of itself. -/
theorem list_or_eq_of_item? {path : List Nat} {spec : EnumSpec} {number : Int64}
    (found : value.item? path = some (.enum spec number)) :
    (∃ items, value = .list items) ∨ path = [] ∧ value = .enum spec number := by
  cases path with
  | nil => exact .inr ⟨rfl, Option.some.inj found⟩
  | cons position path =>
      cases value with
      | list items => exact .inl ⟨items, rfl⟩
      | _ => cases found

theorem item?_list_cons {items : List Value} {position : Nat} {path : List Nat} {found : Value} :
    (Value.list items).item? (position :: path) = some found ↔
      ∃ item, items[position]? = some item ∧ item.item? path = some found :=
  Option.bind_eq_some_iff

/-- What a text or an integer was converted to is declared, if it is of an enumeration. -/
theorem declared_of_toEnum {spec target : EnumSpec} {number : Int64}
    (converted : context.toEnum target value = .ok (.enum spec number))
    (isWritten : value.isTextOrInt = true) :
    spec = target ∧ (spec.flags = false → spec.isDeclared number = true) := by
  cases value with
  | string name =>
      unfold toEnum at converted
      dsimp only at converted
      split at converted
      · next found =>
          cases converted
          exact ⟨rfl, fun _ => EnumSpec.isDeclared_of_valueOf? found⟩
      · cases converted
  | int integer =>
      unfold toEnum at converted
      dsimp only at converted
      split at converted
      · next permitted =>
          cases converted
          refine ⟨rfl, fun noFlags => ?_⟩
          rw [noFlags, Bool.false_or] at permitted
          exact permitted
      · cases converted
  | _ => cases isWritten

theorem declared_of_coerce {type : ValueType} {path : List Nat} {original : Value}
    {spec : EnumSpec} {number : Int64} (converted : context.coerce type value = .ok result)
    (isOriginal : value.item? path = some original) (isWritten : original.isTextOrInt = true)
    (isEnum : result.item? path = some (.enum spec number)) :
    type.enumAt? path.length = some spec ∧
      (spec.flags = false → spec.isDeclared number = true) := by
  have isOne := inhabits_of_coerce converted
  induction type generalizing value result path with
  | any =>
      cases converted
      cases isOriginal.symm.trans isEnum
      cases isWritten
  | nullable inner inductionHypothesis =>
      unfold coerce at converted
      split at converted
      · cases converted
        obtain ⟨items, isList⟩ | ⟨_, isNull⟩ := list_or_eq_of_item? isEnum
        · cases isList
        · cases isNull
      · exact inductionHypothesis converted isOriginal isEnum (inhabits_of_coerce converted)
  | array element inductionHypothesis =>
      cases value with
      | list items =>
          obtain ⟨results, each, rfl⟩ := coerce_list_iff.mp converted
          cases path with
          | nil => cases isEnum
          | cons position path =>
              obtain ⟨item, isItem, isOriginal⟩ := item?_list_cons.mp isOriginal
              obtain ⟨itemResult, isItemResult, isEnum⟩ := item?_list_cons.mp isEnum
              have converted : context.coerce element item = .ok itemResult := by
                have same := congrArg (·[position]?) each
                simpa [isItem, isItemResult] using same
              exact inductionHypothesis converted isOriginal isEnum (inhabits_of_coerce converted)
      | _ => cases converted
  | enum target =>
      obtain ⟨items, rfl⟩ | ⟨rfl, rfl⟩ := list_or_eq_of_item? isEnum
      · cases isOne
      · cases isOriginal
        obtain ⟨rfl, declared⟩ := declared_of_toEnum converted isWritten
        exact ⟨rfl, declared⟩
  | _ =>
      obtain ⟨items, rfl⟩ | ⟨rfl, rfl⟩ := list_or_eq_of_item? isEnum <;> cases isOne

/-! ### Conversion as a retraction -/

/-- Conversion is a retraction onto the values of a type: what it yields is one of them and stays as
it is when it is converted again, and so does every value that is one of them to begin with. Where a
text or an integer became a value of an enumeration, this enumeration is the one that the type
declares there, and the value is one of its members unless its bits may be combined freely. -/
theorem coerce_retracts (context : ConversionContext) (type : ValueType) (value : Value) :
    (∀ result, context.coerce type value = .ok result →
      context.registry.inhabits type result = true ∧
        context.coerce type result = .ok result ∧
          ∀ path original spec number, value.item? path = some original →
            original.isTextOrInt = true → result.item? path = some (.enum spec number) →
              type.enumAt? path.length = some spec ∧
                (spec.flags = false → spec.isDeclared number = true)) ∧
      (context.registry.inhabits type value = true → context.coerce type value = .ok value) := by
  refine ⟨fun result converted => ?_, coerce_of_inhabits⟩
  have isOne := inhabits_of_coerce converted
  refine ⟨isOne, coerce_of_inhabits isOne, ?_⟩
  intro path original spec number isOriginal isWritten isEnum
  exact declared_of_coerce converted isOriginal isWritten isEnum

end ConversionContext

end MachineConsole
