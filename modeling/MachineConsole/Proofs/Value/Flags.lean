import Mathlib.Data.Fintype.Basic
import MachineConsole.Value.EnumSpec

/-!
Contract: values of a flags enumeration, by their bits.

Owns:
- `EnumSpec.HasBit`, `EnumSpec.BitsWithin`: a word as the set of its bits;
- `EnumSpec.IsUnion`, `EnumSpec.IsCombination`: which values some members make together;
- `EnumSpec.describe_flags`: a value that is not declared is shown by names exactly when members make
  it, and then by all members within it.

Does not own: the text of a declared value, which is the name of its first member.
-/

namespace MachineConsole

namespace EnumSpec

variable {spec : EnumSpec} {members : List (String × Int64)} {value inner outer left right : Int64}

/-! ### Bits of a word -/

/-- The bit of a word at a place is set. -/
def HasBit (word : Int64) (place : Fin 64) : Prop :=
  word.toBitVec.getLsbD place = true

instance (word : Int64) (place : Fin 64) : Decidable (HasBit word place) :=
  inferInstanceAs (Decidable (_ = true))

/-- Every bit of one word is a bit of another. -/
def BitsWithin (inner outer : Int64) : Prop :=
  ∀ place, HasBit inner place → HasBit outer place

instance (inner outer : Int64) : Decidable (BitsWithin inner outer) :=
  inferInstanceAs (Decidable (∀ place, HasBit inner place → HasBit outer place))

@[simp] theorem not_hasBit_zero (place : Fin 64) : ¬HasBit 0 place := by
  simp [HasBit]

@[simp] theorem hasBit_or (place : Fin 64) :
    HasBit (left ||| right) place ↔ HasBit left place ∨ HasBit right place := by
  simp [HasBit]

@[simp] theorem hasBit_and (place : Fin 64) :
    HasBit (left &&& right) place ↔ HasBit left place ∧ HasBit right place := by
  simp [HasBit]

/-- A word is the set of its bits. -/
theorem eq_iff_hasBit : left = right ↔ ∀ place, HasBit left place ↔ HasBit right place := by
  constructor
  · rintro rfl place
    exact Iff.rfl
  · intro same
    apply Int64.toBitVec_inj.mp
    apply BitVec.eq_of_getLsbD_eq
    intro place isPlace
    exact Bool.eq_iff_iff.mpr (same ⟨place, isPlace⟩)

/-- What is kept of a word within a mask is the word itself when the mask has all its bits. -/
theorem and_eq_iff_bitsWithin : outer &&& inner = inner ↔ BitsWithin inner outer := by
  rw [eq_iff_hasBit]
  refine forall_congr' fun place => ?_
  rw [hasBit_and, and_iff_right_iff_imp]

/-! ### Members taken together -/

/-- A value has exactly the bits that some members have. -/
def IsUnion (members : List (String × Int64)) (value : Int64) : Prop :=
  ∀ place, HasBit value place ↔ ∃ member ∈ members, HasBit member.2 place

instance (members : List (String × Int64)) (value : Int64) : Decidable (IsUnion members value) :=
  inferInstanceAs (Decidable (∀ _, _ ↔ _))

/-- Some of the members that are not zero make a value. -/
def IsCombination (members : List (String × Int64)) (value : Int64) : Prop :=
  ∃ chosen, (∀ member ∈ chosen, member ∈ members ∧ member.2 ≠ 0) ∧ IsUnion chosen value

/-- The fold that takes members together, from any bits on. -/
theorem hasBit_foldl_or (bits : Int64) (place : Fin 64) :
    HasBit (members.foldl (fun bits member => bits ||| member.2) bits) place ↔
      HasBit bits place ∨ ∃ member ∈ members, HasBit member.2 place := by
  induction members generalizing bits with
  | nil => simp
  | cons member rest ih => simp [ih, or_assoc]

theorem hasBit_union (place : Fin 64) :
    HasBit (union members) place ↔ ∃ member ∈ members, HasBit member.2 place := by
  rw [union, hasBit_foldl_or]
  simp

theorem union_eq_iff : union members = value ↔ IsUnion members value := by
  rw [eq_comm, eq_iff_hasBit]
  exact forall_congr' fun place => iff_congr Iff.rfl (hasBit_union place)

/-- A value other than zero has a bit, so some member makes it. -/
theorem IsUnion.ne_nil (made : IsUnion members value) (nonZero : value ≠ 0) : members ≠ [] := by
  rintro rfl
  refine nonZero (eq_iff_hasBit.mpr fun place => ?_)
  simpa using made place

/-! ### Members within a value -/

theorem contained_eq :
    spec.contained value =
      spec.members.filter fun member => member.2 ≠ 0 ∧ BitsWithin member.2 value := by
  refine List.filter_congr fun member _ => ?_
  rw [Bool.eq_iff_iff]
  simp [and_eq_iff_bitsWithin]

theorem mem_contained {member : String × Int64} :
    member ∈ spec.contained value ↔
      member ∈ spec.members ∧ member.2 ≠ 0 ∧ BitsWithin member.2 value := by
  simp [contained_eq]

/-- Members that make a value are all within it, and what is within a value adds no bit. So whenever
some members make the value, all members within it do. -/
theorem isUnion_contained_iff :
    IsUnion (spec.contained value) value ↔ IsCombination spec.members value := by
  constructor
  · intro made
    exact ⟨spec.contained value, fun member isMember =>
      ⟨(mem_contained.mp isMember).1, (mem_contained.mp isMember).2.1⟩, made⟩
  · rintro ⟨chosen, areMembers, made⟩ place
    constructor
    · intro isBit
      obtain ⟨member, isChosen, memberBit⟩ := (made place).mp isBit
      obtain ⟨isMember, nonZero⟩ := areMembers member isChosen
      have within : BitsWithin member.2 value := fun other otherBit =>
        (made other).mpr ⟨member, isChosen, otherBit⟩
      exact ⟨member, mem_contained.mpr ⟨isMember, nonZero, within⟩, memberBit⟩
    · rintro ⟨member, isContained, memberBit⟩
      exact (mem_contained.mp isContained).2.2 place memberBit

/-! ### The text of a combination -/

theorem nameOf?_eq_none_iff :
    spec.nameOf? value = none ↔ ∀ member ∈ spec.members, member.2 ≠ value := by
  simp [nameOf?]

/-- The text of a value that is not declared depends on whether its members make it. -/
theorem describe_of_undeclared (isFlags : spec.flags = true) (nonZero : value ≠ 0)
    (undeclared : ∀ member ∈ spec.members, member.2 ≠ value) :
    spec.describe value =
      if IsUnion (spec.contained value) value then
        Text.join " | " ((spec.contained value).map Prod.fst)
      else toString value.toInt := by
  rw [describe, nameOf?_eq_none_iff.mpr undeclared]
  refine ite_congr (propext ?_) (fun _ => rfl) (fun _ => rfl)
  rw [← union_eq_iff]
  simp only [isFlags, Bool.true_and, Bool.and_eq_true, bne_iff_ne, beq_iff_eq,
    Bool.not_eq_true', List.isEmpty_eq_false_iff]
  constructor
  · exact And.right
  · intro made
    exact ⟨⟨nonZero, (union_eq_iff.mp made).ne_nil nonZero⟩, made⟩

/-- A value of a flags enumeration that is neither zero nor declared is shown by names exactly when
some of the declared members other than zero make it. The names are then those of all such members
within the value, in the order they are declared, and these make the value. Any other value is shown
as its number. -/
theorem describe_flags (spec : EnumSpec) (value : Int64) (isFlags : spec.flags = true)
    (nonZero : value ≠ 0) (undeclared : ∀ member ∈ spec.members, member.2 ≠ value) :
    let shown := spec.members.filter fun member => member.2 ≠ 0 ∧ BitsWithin member.2 value
    (IsCombination spec.members value →
        spec.describe value = Text.join " | " (shown.map Prod.fst) ∧ IsUnion shown value) ∧
      (¬IsCombination spec.members value → spec.describe value = toString value.toInt) := by
  rw [describe_of_undeclared isFlags nonZero undeclared, ← contained_eq]
  constructor
  · intro combined
    have made := isUnion_contained_iff.mpr combined
    exact ⟨if_pos made, made⟩
  · intro uncombined
    exact if_neg (mt isUnion_contained_iff.mp uncombined)

/-- Members that overlap, and one that adds no bit to those of the negative one, are all named. -/
theorem describe_flags_overlapping :
    let spec : EnumSpec :=
      ⟨"Lines", [("None", 0), ("Low", 3), ("Middle", 6), ("Upper", -8), ("Far", 256)], true⟩
    spec.flags = true ∧ (-1 : Int64) ≠ 0 ∧ (∀ member ∈ spec.members, member.2 ≠ -1) ∧
      IsCombination spec.members (-1) ∧
      spec.describe (-1) = "Low | Middle | Upper | Far" := by
  intro spec
  have undeclared : ∀ member ∈ spec.members, member.2 ≠ -1 := by decide
  have combined : IsCombination spec.members (-1) :=
    ⟨[("Low", 3), ("Middle", 6), ("Upper", -8)], by decide, by decide⟩
  have named := (describe_flags spec (-1) rfl (by decide) undeclared).1 combined
  have within : spec.members.filter (fun member => member.2 ≠ 0 ∧ BitsWithin member.2 (-1)) =
      [("Low", 3), ("Middle", 6), ("Upper", -8), ("Far", 256)] := by decide
  rw [within] at named
  exact ⟨rfl, by decide, undeclared, combined, named.1⟩

end EnumSpec

end MachineConsole
