import Mathlib.Logic.Basic
import MachineConsole.Member.Table

/-!
Contract: which shared members a finished table keeps behind those that the type declares itself.

Owns:
- that comparing values, parameters and indexers does not depend on which one comes first;
- `Merges` and `UniqueBehind`: what is kept of a list of shared items, and that no kept one repeats
  the key of another item;
- `Declaration`, with the member that each adds, and `BuilderCall`, the calls by which a type is
  described: declarations, and calls by which members are shared with other calls inside them;
- the declarations that are made outside and inside of these;
- `TableBuilder.build_unique_iff`: repeated shared members are dropped, except that a shared method
  is only compared with the methods that the type declares itself.
-/

namespace MachineConsole

/-! ### Comparison -/

theorem Number.Binary64.equals_comm (left right : Binary64) :
    left.equals right = right.equals left := by
  unfold equals
  rw [Bool.and_comm (!left.isNaN), Bool.and_comm (left.magnitude == 0), BEq.comm (a := left.bits)]

namespace Value

mutual

theorem same_comm (value other : Value) : value.same other = other.same value := by
  cases value with
  | float number =>
      cases other with
      | float other => exact number.equals_comm other
      | _ => rfl
  | range first last =>
      cases other with
      | range otherFirst otherLast => exact congrArg₂ Bool.and BEq.comm BEq.comm
      | _ => rfl
  | enum spec number =>
      cases other with
      | enum otherSpec other => exact congrArg₂ Bool.and BEq.comm BEq.comm
      | _ => rfl
  | list items =>
      cases other with
      | list others => exact sameItems_comm items others
      | _ => rfl
  | map rows =>
      cases other with
      | map others => exact sameRows_comm rows others
      | _ => rfl
  | _ => cases other <;> first | rfl | exact BEq.comm

theorem sameItems_comm (items others : List Value) :
    sameItems items others = sameItems others items := by
  cases items with
  | nil => cases others <;> rfl
  | cons item items =>
      cases others with
      | nil => rfl
      | cons other others =>
          exact congrArg₂ Bool.and (same_comm item other) (sameItems_comm items others)

theorem sameRows_comm (rows others : List (String × Value)) :
    sameRows rows others = sameRows others rows := by
  cases rows with
  | nil => cases others <;> rfl
  | cons row rows =>
      cases others with
      | nil => rfl
      | cons other others =>
          obtain ⟨key, value⟩ := row
          obtain ⟨otherKey, other⟩ := other
          exact congrArg₂ Bool.and (congrArg₂ Bool.and BEq.comm (same_comm value other))
            (sameRows_comm rows others)

end

end Value

namespace Parameter

theorem sameDefault_comm (value? other? : Option Value) :
    sameDefault value? other? = sameDefault other? value? := by
  cases value? <;> cases other? <;> first | rfl | exact Value.same_comm _ _

theorem sameAllowed_comm (values? others? : Option (List Value)) :
    sameAllowed values? others? = sameAllowed others? values? := by
  cases values? <;> cases others? <;> first | rfl | exact Value.sameItems_comm _ _

theorem same_comm (parameter other : Parameter) : parameter.same other = other.same parameter := by
  unfold same
  rw [sameDefault_comm, sameAllowed_comm, BEq.comm (a := parameter.name),
    BEq.comm (a := parameter.type)]

theorem sameAll_comm (parameters others : List Parameter) :
    sameAll parameters others = sameAll others parameters := by
  induction parameters generalizing others with
  | nil => cases others <;> rfl
  | cons parameter rest inductionHypothesis =>
      cases others with
      | nil => rfl
      | cons other others =>
          exact congrArg₂ Bool.and (parameter.same_comm other) (inductionHypothesis others)

end Parameter

theorem Indexer.sameKey_comm (indexer other : Indexer) :
    indexer.sameKey other = other.sameKey indexer :=
  congrArg₂ Bool.and BEq.comm (Parameter.sameAll_comm indexer.parameters other.parameters)

def Method.sameSignature (method other : Method) : Bool :=
  method.signature == other.signature

def Property.sameName (property other : Property) : Bool :=
  property.name == other.name

def Field.sameName (field other : Field) : Bool :=
  field.name == other.name

/-! ### Lists with shared items -/

section Merging

variable {α : Type} (same : α → α → Bool)

/-- Some of the shared items in their order: none that has the key of an own one, and each shared
item is there or one of its key. -/
structure Keeps (own shared kept : List α) : Prop where
  sublist : kept.Sublist shared
  unhidden : ∀ item ∈ kept, ∀ other ∈ own, same other item = false
  present : ∀ item ∈ shared, item ∈ kept ∨ ∃ other ∈ own ++ kept, same other item = true

/-- All own items and behind them what is kept of the shared ones. -/
def Merges (own shared merged : List α) : Prop :=
  ∃ kept, merged = own ++ kept ∧ Keeps same own shared kept

/-- No item from this place on has the key of an item at another place. -/
def UniqueBehind (start : Nat) (items : List α) : Prop :=
  ∀ (i j : Nat) (here : i < items.length) (there : j < items.length),
    start ≤ i → i ≠ j → same items[i] items[j] = false

variable {same}

theorem Keeps.uniqueBehind_iff {own shared kept : List α} (keeps : Keeps same own shared kept)
    (symmetric : ∀ item other, same item other = same other item) :
    UniqueBehind same own.length (own ++ kept) ↔
      kept.Pairwise fun item other => same item other = false := by
  rw [List.pairwise_iff_getElem]
  constructor
  · intro unique i j here there before
    have apart := unique (own.length + i) (own.length + j)
      (by rw [List.length_append]; omega) (by rw [List.length_append]; omega)
      (Nat.le_add_right own.length i) (by omega)
    simpa only [List.getElem_append_right (Nat.le_add_right own.length _),
      Nat.add_sub_cancel_left] using apart
  · intro apart i j here there behind different
    rw [List.length_append] at here there
    rw [List.getElem_append_right behind]
    rcases Nat.lt_or_ge j own.length with declared | behindToo
    · rw [List.getElem_append_left declared, symmetric]
      exact keeps.unhidden _ (List.getElem_mem _) _ (List.getElem_mem _)
    · rw [List.getElem_append_right behindToo]
      rcases Nat.lt_or_gt_of_ne different with before | after
      · exact apart _ _ (by omega) (by omega) (by omega)
      · rw [symmetric]
        exact apart _ _ (by omega) (by omega) (by omega)

/-- Each item is compared with the list as it grows. -/
theorem extendUnless_keeps (same : α → α → Bool) (present items : List α) :
    ∃ kept, MemberTable.extendUnless same present items = present ++ kept ∧
      Keeps same present items kept ∧ kept.Pairwise fun other item => same other item = false := by
  induction items generalizing present with
  | nil => exact ⟨[], (List.append_nil present).symm, ⟨List.Sublist.slnil, nofun, nofun⟩, .nil⟩
  | cons item rest inductionHypothesis =>
      unfold MemberTable.extendUnless
      split
      · next hidden =>
          obtain ⟨other, member, hides⟩ := List.any_eq_true.mp hidden
          obtain ⟨kept, split, keeps, apart⟩ := inductionHypothesis present
          refine ⟨kept, split, ⟨keeps.sublist.cons item, keeps.unhidden, ?_⟩, apart⟩
          refine List.forall_mem_cons.mpr ⟨.inr ⟨other, ?_, hides⟩, keeps.present⟩
          exact List.mem_append_left kept member
      · next unhidden =>
          rw [Bool.not_eq_true, List.any_eq_false] at unhidden
          obtain ⟨kept, split, keeps, apart⟩ := inductionHypothesis (present ++ [item])
          have laterPresent := keeps.present
          rw [List.append_assoc, List.singleton_append] at split laterPresent
          refine ⟨item :: kept, split, ⟨keeps.sublist.cons_cons item, ?_, ?_⟩, ?_⟩
          · refine List.forall_mem_cons.mpr ⟨fun other member => ?_, fun later member => ?_⟩
            · exact Bool.eq_false_iff.mpr (unhidden other member)
            · intro other own
              exact keeps.unhidden later member other (List.mem_append_left [item] own)
          · refine List.forall_mem_cons.mpr ⟨.inl List.mem_cons_self, fun later member => ?_⟩
            exact (laterPresent later member).imp_left (List.mem_cons_of_mem item)
          · refine List.pairwise_cons.mpr ⟨fun later member => ?_, apart⟩
            have added := List.mem_append_right present (List.mem_singleton_self item)
            exact keeps.unhidden later member item added

theorem extendUnless_unique (same : α → α → Bool)
    (symmetric : ∀ item other, same item other = same other item) (own shared : List α) :
    Merges same own shared (MemberTable.extendUnless same own shared) ∧
      UniqueBehind same own.length (MemberTable.extendUnless same own shared) := by
  obtain ⟨kept, split, keeps, apart⟩ := extendUnless_keeps same own shared
  rw [split]
  exact ⟨⟨kept, rfl, keeps⟩, (keeps.uniqueBehind_iff symmetric).mpr apart⟩

end Merging

/-! ### Merged tables -/

namespace MemberTable

/-- All members of one table and behind them what is kept of those of another. -/
structure Extends (own shared table : MemberTable) : Prop where
  methods : Merges Method.sameSignature own.methods shared.methods table.methods
  properties : Merges Property.sameName own.properties shared.properties table.properties
  fields : Merges Field.sameName own.fields shared.fields table.fields
  indexers : Merges Indexer.sameKey own.indexers shared.indexers table.indexers

/-- The table has a method of this signature. -/
def Declares (table : MemberTable) (signature : String) : Prop :=
  ∃ method ∈ table.methods, method.signature = signature

variable (own shared : MemberTable)

theorem declares_iff (signature : String) :
    (own.methods.map Method.signature).contains signature = true ↔ own.Declares signature := by
  rw [List.contains_iff_mem, List.mem_map]
  rfl

/-- A shared method is compared with the own ones alone, so two of one signature are both kept. -/
theorem withShared_methods :
    Merges Method.sameSignature own.methods shared.methods (own.withShared shared).methods ∧
      (UniqueBehind Method.sameSignature own.methods.length (own.withShared shared).methods ↔
        shared.methods.Pairwise fun method other =>
          method.signature = other.signature → own.Declares method.signature) := by
  let kept := shared.methods.filter fun method =>
    !(own.methods.map Method.signature).contains method.signature
  have undeclared (method : Method) :
      (!(own.methods.map Method.signature).contains method.signature) = true ↔
        ¬own.Declares method.signature := by
    rw [Bool.not_eq_true', ← Bool.not_eq_true, declares_iff]
  have keeps : Keeps Method.sameSignature own.methods shared.methods kept := by
    refine ⟨List.filter_sublist, fun method member => ?_, fun method member => ?_⟩
    · intro declared ownMember
      rw [Method.sameSignature, beq_eq_false_iff_ne]
      intro same
      exact (undeclared method).mp (List.mem_filter.mp member).2 ⟨declared, ownMember, same⟩
    · by_cases declares : own.Declares method.signature
      · obtain ⟨declared, ownMember, same⟩ := declares
        exact .inr ⟨declared, List.mem_append_left kept ownMember, beq_iff_eq.mpr same⟩
      · exact .inl (List.mem_filter.mpr ⟨member, (undeclared method).mpr declares⟩)
  refine ⟨⟨kept, rfl, keeps⟩, ?_⟩
  refine (keeps.uniqueBehind_iff fun _ _ => BEq.comm).trans ?_
  rw [List.pairwise_filter]
  refine List.Pairwise.iff fun {method other} => ?_
  rw [undeclared, undeclared, Method.sameSignature, beq_eq_false_iff_ne]
  constructor
  · intro apart same
    refine Classical.byContradiction fun undeclared => ?_
    exact apart undeclared (same ▸ undeclared) same
  · exact fun declares undeclared _ same => undeclared (declares same)

/-- The members of a table without its name and interfaces. -/
def members (table : MemberTable) : List Method × List Property × List Field × List Indexer :=
  (table.methods, table.properties, table.fields, table.indexers)

/-- Merging looks at the members alone. -/
theorem withShared_members_congr {own shared otherOwn otherShared : MemberTable}
    (sameOwn : own.members = otherOwn.members) (sameShared : shared.members = otherShared.members) :
    (own.withShared shared).members = (otherOwn.withShared otherShared).members := by
  simp only [members, Prod.mk.injEq] at sameOwn sameShared
  simp only [members, withShared, sameOwn, sameShared]

end MemberTable

/-! ### Calls on a builder -/

/-- A call that declares one member. -/
inductive Declaration (Target : Type) where
  | method (name : String) (parameters : List Parameter) (result : ValueType)
      (run : Target → List Value → Act Value)
  | variadicMethod (name : String) (parameters : List Parameter) (result : ValueType)
      (run : Target → List Value → Act Value)
  | property (name : String) (type : ValueType) (get : Target → Act Value)
      (set : Target → Value → Act Unit)
  | getter (name : String) (type : ValueType) (get : Target → Act Value)
  | setter (name : String) (type : ValueType) (set : Target → Value → Act Unit)
  | field (name : String) (type : ValueType) (get : Target → Act Value)
      (set? : Option (Target → Value → Act Unit))
  | indexer (name : String) (parameters : List Parameter) (type : ValueType)
      (get : Target → List Value → Act Value)
      (set? : Option (Target → List Value → Value → Act Unit))

namespace Declaration

variable {Target : Type} (owner : String) (target? : ObjectRef → Option Target)

/-- An object as the type of this name sees it. -/
def seen (object : ObjectRef) : Act Target :=
  match target? object with
  | some target => pure target
  | none => throw (.device (.wrongTarget owner))

/-- The method that a declaration adds, unless it is one of another member. -/
def method? : Declaration Target → Option Method
  | .method name parameters result run =>
    some ⟨name, parameters, result, false, owner, fun object arguments => do
      run (← seen owner target? object) arguments⟩
  | .variadicMethod name parameters result run =>
    some ⟨name, parameters, result, true, owner, fun object arguments => do
      run (← seen owner target? object) arguments⟩
  | _ => none

def property? : Declaration Target → Option Property
  | .property name type get set =>
    some ⟨name, type, some fun object => do get (← seen owner target? object),
      some fun object value => do set (← seen owner target? object) value⟩
  | .getter name type get =>
    some ⟨name, type, some fun object => do get (← seen owner target? object), none⟩
  | .setter name type set =>
    some ⟨name, type, none, some fun object value => do set (← seen owner target? object) value⟩
  | _ => none

def field? : Declaration Target → Option Field
  | .field name type get set? =>
    some ⟨name, type, fun object => do get (← seen owner target? object),
      set?.map fun set object value => do set (← seen owner target? object) value⟩
  | _ => none

def indexer? : Declaration Target → Option Indexer
  | .indexer name parameters type get set? =>
    some ⟨name, parameters, type,
      some fun object indices => do get (← seen owner target? object) indices,
      set?.map fun set object indices value => do set (← seen owner target? object) indices value⟩
  | _ => none

/-- The members that are declared, in order. -/
def table (declarations : List (Declaration Target)) : MemberTable where
  name := owner
  interfaces := []
  methods := declarations.filterMap (method? owner target?)
  properties := declarations.filterMap (property? owner target?)
  fields := declarations.filterMap (field? owner target?)
  indexers := declarations.filterMap (indexer? owner target?)

end Declaration

/-- A call on a builder. -/
inductive BuilderCall (Target : Type) where
  | declare (declaration : Declaration Target)
  | implements (interface : String)
  /-- Members are shared by calls that declare them. -/
  | inherit (calls : List (BuilderCall Target))

namespace BuilderCall

variable {Target : Type}

mutual

/-- The declarations of a call, whether their members are shared or not. -/
def declarations : BuilderCall Target → List (Declaration Target)
  | .declare declaration => [declaration]
  | .implements _ => []
  | .inherit calls => allDeclarations calls

def allDeclarations : List (BuilderCall Target) → List (Declaration Target)
  | [] => []
  | call :: rest => call.declarations ++ allDeclarations rest

end

/-- The declarations of members of the type itself. -/
def own (calls : List (BuilderCall Target)) : List (Declaration Target) :=
  calls.flatMap fun
    | .declare declaration => [declaration]
    | _ => []

/-- The declarations of shared members. -/
def shared (calls : List (BuilderCall Target)) : List (Declaration Target) :=
  calls.flatMap fun
    | .inherit calls => allDeclarations calls
    | _ => []

end BuilderCall

namespace TableBuilder

variable {Target : Type}

def declare (builder : TableBuilder Target) : Declaration Target → TableBuilder Target
  | .method name parameters result run => builder.method name parameters result run
  | .variadicMethod name parameters result run => builder.variadicMethod name parameters result run
  | .property name type get set => builder.property name type get set
  | .getter name type get => builder.getter name type get
  | .setter name type set => builder.setter name type set
  | .field name type get set? => builder.field name type get set?
  | .indexer name parameters type get set? => builder.indexer name parameters type get set?

mutual

def apply (builder : TableBuilder Target) : BuilderCall Target → TableBuilder Target
  | .declare declaration => builder.declare declaration
  | .implements interface => builder.implements interface
  | .inherit calls => builder.inherit fun inner => inner.applyAll calls

def applyAll (builder : TableBuilder Target) : List (BuilderCall Target) → TableBuilder Target
  | [] => builder
  | call :: rest => (builder.apply call).applyAll rest

end

end TableBuilder

/-! ### What a builder collects -/

namespace TableBuilder

variable {Target : Type} {builder other : TableBuilder Target}

/-- The table to which members are being added. -/
def current (builder : TableBuilder Target) : MemberTable :=
  if builder.sharing then builder.shared else builder.own

theorem current_of_sharing (sharing : builder.sharing = true) :
    builder.current = builder.shared := by
  unfold current
  rw [sharing]
  rfl

theorem current_of_not_sharing (adding : builder.sharing = false) :
    builder.current = builder.own := by
  unfold current
  rw [adding]
  rfl

theorem change_current (builder : TableBuilder Target) (step : MemberTable → MemberTable) :
    (builder.change step).current = step builder.current := by
  unfold current change
  cases builder.sharing <;> rfl

/-- A declaration adds its member behind those that are there. -/
theorem declare_current (builder : TableBuilder Target) {declarations : List (Declaration Target)}
    (filled : builder.current.members =
      (Declaration.table builder.own.name builder.target? declarations).members)
    (declaration : Declaration Target) :
    (builder.declare declaration).current.members =
      (Declaration.table builder.own.name builder.target?
        (declarations ++ [declaration])).members := by
  simp only [MemberTable.members, Declaration.table, Prod.mk.injEq] at filled ⊢
  simp only [List.filterMap_append, ← filled]
  cases declaration <;>
    simp only [declare, method, variadicMethod, addMethod, property, getter, setter, addProperty,
      field, indexer, addIndexer, change_current, List.filterMap_cons, List.filterMap_nil,
      Declaration.method?, Declaration.property?, Declaration.field?, Declaration.indexer?,
      List.append_nil, and_true, true_and] <;> rfl

/-- Nothing but members of the table to which they are being added differs. -/
structure Preserves (builder other : TableBuilder Target) : Prop where
  target? : other.target? = builder.target?
  name : other.own.name = builder.own.name
  sharing : other.sharing = builder.sharing
  own : builder.sharing = true → other.own = builder.own
  shared : builder.sharing = false → other.shared = builder.shared

theorem declare_preserves (builder : TableBuilder Target) (declaration : Declaration Target) :
    builder.Preserves (builder.declare declaration) := by
  obtain ⟨target?, own, shared, sharing⟩ := builder
  cases sharing with
  | false => cases declaration <;> exact ⟨rfl, rfl, rfl, nofun, fun _ => rfl⟩
  | true => cases declaration <;> exact ⟨rfl, rfl, rfl, fun _ => rfl, nofun⟩

variable {name : String} {target? : ObjectRef → Option Target} {sharing : Bool}
  {own shared : List (Declaration Target)}

/-- A builder for a type has collected these members of the type itself and these shared ones. -/
structure Collected (name : String) (target? : ObjectRef → Option Target) (sharing : Bool)
    (own shared : List (Declaration Target)) (builder : TableBuilder Target) : Prop where
  sees : builder.target? = target?
  named : builder.own.name = name
  adds : builder.sharing = sharing
  ownMembers : builder.own.members = (Declaration.table name target? own).members
  sharedMembers : builder.shared.members = (Declaration.table name target? shared).members

namespace Collected

theorem create : Collected name target? false [] [] (TableBuilder.create name target?) :=
  ⟨rfl, rfl, rfl, rfl, rfl⟩

theorem implements (collected : Collected name target? sharing own shared builder)
    (interface : String) :
    Collected name target? sharing own shared (builder.implements interface) :=
  ⟨collected.sees, collected.named, collected.adds, collected.ownMembers, collected.sharedMembers⟩

theorem switch (collected : Collected name target? sharing own shared builder) (other : Bool) :
    Collected name target? other own shared { builder with sharing := other } :=
  ⟨collected.sees, collected.named, rfl, collected.ownMembers, collected.sharedMembers⟩

theorem of_preserves {ownNow sharedNow : List (Declaration Target)}
    (collected : Collected name target? sharing own shared builder)
    (preserves : builder.Preserves other)
    (ownMembers : other.own.members = (Declaration.table name target? ownNow).members)
    (sharedMembers : other.shared.members = (Declaration.table name target? sharedNow).members) :
    Collected name target? sharing ownNow sharedNow other :=
  ⟨preserves.target?.trans collected.sees, preserves.name.trans collected.named,
    preserves.sharing.trans collected.adds, ownMembers, sharedMembers⟩

/-- Outside of calls that share members, a declaration is one of the type itself. -/
theorem declare (collected : Collected name target? false own shared builder)
    (declaration : Declaration Target) :
    Collected name target? false (own ++ [declaration]) shared (builder.declare declaration) := by
  have preserves := builder.declare_preserves declaration
  have before : builder.current.members =
      (Declaration.table builder.own.name builder.target? own).members := by
    rw [current_of_not_sharing collected.adds, collected.ownMembers, collected.sees, collected.named]
  have filled := builder.declare_current before declaration
  rw [current_of_not_sharing (preserves.sharing.trans collected.adds), collected.sees,
    collected.named] at filled
  exact collected.of_preserves preserves filled
    (preserves.shared collected.adds ▸ collected.sharedMembers)

/-- Inside of them, it is a shared one. -/
theorem declareShared (collected : Collected name target? true own shared builder)
    (declaration : Declaration Target) :
    Collected name target? true own (shared ++ [declaration]) (builder.declare declaration) := by
  have preserves := builder.declare_preserves declaration
  have before : builder.current.members =
      (Declaration.table builder.own.name builder.target? shared).members := by
    rw [current_of_sharing collected.adds, collected.sharedMembers, collected.sees, collected.named]
  have filled := builder.declare_current before declaration
  rw [current_of_sharing (preserves.sharing.trans collected.adds), collected.sees,
    collected.named] at filled
  exact collected.of_preserves preserves
    (preserves.own collected.adds ▸ collected.ownMembers) filled

mutual

theorem applyShared {shared : List (Declaration Target)} {builder : TableBuilder Target}
    (collected : Collected name target? true own shared builder) (call : BuilderCall Target) :
    Collected name target? true own (shared ++ call.declarations) (builder.apply call) := by
  cases call with
  | declare declaration => exact collected.declareShared declaration
  | implements interface =>
      rw [BuilderCall.declarations, List.append_nil]
      exact collected.implements interface
  | inherit calls =>
      have inner := (collected.switch true).applyAllShared calls
      unfold TableBuilder.apply inherit
      rw [collected.adds]
      exact inner.switch true

theorem applyAllShared {shared : List (Declaration Target)} {builder : TableBuilder Target}
    (collected : Collected name target? true own shared builder)
    (calls : List (BuilderCall Target)) :
    Collected name target? true own (shared ++ BuilderCall.allDeclarations calls)
      (builder.applyAll calls) := by
  cases calls with
  | nil =>
      rw [BuilderCall.allDeclarations, List.append_nil]
      exact collected
  | cons call rest =>
      rw [BuilderCall.allDeclarations, ← List.append_assoc]
      exact (collected.applyShared call).applyAllShared rest

end

theorem applyAll (collected : Collected name target? false own shared builder)
    (calls : List (BuilderCall Target)) :
    Collected name target? false (own ++ BuilderCall.own calls)
      (shared ++ BuilderCall.shared calls) (builder.applyAll calls) := by
  induction calls generalizing own shared builder with
  | nil =>
      simpa only [BuilderCall.own, BuilderCall.shared, List.flatMap_nil, List.append_nil,
        TableBuilder.applyAll] using collected
  | cons call rest inductionHypothesis =>
      simp only [BuilderCall.own, BuilderCall.shared, List.flatMap_cons, ← List.append_assoc]
      apply inductionHypothesis
      cases call with
      | declare declaration =>
        rw [List.append_nil]
        exact collected.declare declaration
      | implements interface =>
        rw [List.append_nil, List.append_nil]
        exact collected.implements interface
      | inherit calls =>
        rw [List.append_nil]
        have inner := (collected.switch true).applyAllShared calls
        unfold TableBuilder.apply inherit
        rw [collected.adds]
        exact inner.switch false

end Collected

/-- Whatever calls describe a type, its finished table has all members that the type declares itself
and behind them the shared ones, less those for which a member of the same key is there. None of the
shared properties, fields and indexers that are kept repeats a key. Of the shared methods none does
exactly when two of one signature are only shared by a type that declares that signature itself. -/
theorem build_unique_iff (name : String) (target? : ObjectRef → Option Target)
    (calls : List (BuilderCall Target)) :
    let table := ((create name target?).applyAll calls).build
    let own := Declaration.table name target? (BuilderCall.own calls)
    let shared := Declaration.table name target? (BuilderCall.shared calls)
    own.Extends shared table ∧
      UniqueBehind Property.sameName own.properties.length table.properties ∧
      UniqueBehind Field.sameName own.fields.length table.fields ∧
      UniqueBehind Indexer.sameKey own.indexers.length table.indexers ∧
      (UniqueBehind Method.sameSignature own.methods.length table.methods ↔
        shared.methods.Pairwise fun method other =>
          method.signature = other.signature → own.Declares method.signature) := by
  intro table own shared
  have fresh : Collected name target? false [] [] (create name target?) := .create
  have collected := fresh.applyAll calls
  have same : table.members = (own.withShared shared).members :=
    MemberTable.withShared_members_congr collected.ownMembers collected.sharedMembers
  simp only [MemberTable.members, Prod.mk.injEq] at same
  obtain ⟨sameMethods, sameProperties, sameFields, sameIndexers⟩ := same
  obtain ⟨methods, uniqueMethods⟩ := own.withShared_methods shared
  obtain ⟨properties, uniqueProperties⟩ := extendUnless_unique Property.sameName
    (fun _ _ => BEq.comm) own.properties shared.properties
  obtain ⟨fields, uniqueFields⟩ := extendUnless_unique Field.sameName
    (fun _ _ => BEq.comm) own.fields shared.fields
  obtain ⟨indexers, uniqueIndexers⟩ :=
    extendUnless_unique Indexer.sameKey Indexer.sameKey_comm own.indexers shared.indexers
  rw [sameMethods, sameProperties, sameFields, sameIndexers]
  refine ⟨⟨?_, ?_, ?_, ?_⟩, uniqueProperties, uniqueFields, uniqueIndexers, uniqueMethods⟩
  · exact sameMethods ▸ methods
  · exact sameProperties ▸ properties
  · exact sameFields ▸ fields
  · exact sameIndexers ▸ indexers

/-- A method that is shared twice is in the table twice, if the type has none of its own. -/
theorem build_repeats_shared_method :
    let repeated : BuilderCall ObjectRef :=
      .declare (.method "M" [] .void fun _ _ => pure .null)
    let calls := [BuilderCall.inherit [repeated], .inherit [repeated]]
    let table := ((create "D" some).applyAll calls).build
    let own := Declaration.table "D" some (BuilderCall.own calls)
    ¬UniqueBehind Method.sameSignature own.methods.length table.methods := by
  intro repeated calls table own unique
  have apart := unique 0 1 (by decide) (by decide) (by decide) (by decide)
  exact absurd apart (by decide)

end TableBuilder

end MachineConsole
