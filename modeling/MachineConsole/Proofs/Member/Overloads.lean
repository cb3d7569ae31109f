import Mathlib.Data.List.Forall2
import MachineConsole.Proofs.Member.Access

/-!
Contract: which overload an invocation calls does not depend on the order of registration.

Owns:
- `ConversionContext.Distinguishable`: no two of the methods that accept some tokens have the same
  numbers of parameters and of strings among them;
- the choice among such methods, which is the same for every order in which they are listed;
- `Registry.Rearranged`: the same registrations with methods and extensions in another order;
- `ActionRequest.action?_of_rearranged`.
-/

namespace MachineConsole

/-! ### Choosing -/

/-- The numbers by which overloads are ordered: of parameters, and of strings among them. -/
def Method.rank (method : Method) : Nat × Nat :=
  (method.parameters.length, method.stringParameters)

theorem Method.rank_eq_of_parameterTypes_eq {method other : Method}
    (sameTypes : method.parameterTypes = other.parameterTypes) : method.rank = other.rank := by
  have length (method : Method) : method.parameters.length = method.parameterTypes.length :=
    (List.length_map _).symm
  have strings (method : Method) :
      method.stringParameters = method.parameterTypes.countP fun type => type == .string := by
    unfold parameterTypes
    rw [List.countP_map]
    rfl
  unfold rank
  rw [length, length, strings, strings, sameTypes]

namespace ConversionContext

theorem triedBefore_iff {method other : Method} :
    triedBefore method other = true ↔ method.rank.1 < other.rank.1 ∨
      method.rank.1 = other.rank.1 ∧ method.rank.2 ≤ other.rank.2 := by
  unfold triedBefore
  rw [Bool.or_eq_true, Bool.and_eq_true, decide_eq_true_iff, decide_eq_true_iff, beq_iff_eq]
  rfl

theorem triedBefore_trans (first second third : Method) (before : triedBefore first second = true)
    (after : triedBefore second third = true) : triedBefore first third = true := by
  rw [triedBefore_iff] at before after ⊢
  omega

theorem triedBefore_total (method other : Method) :
    (triedBefore method other || triedBefore other method) = true := by
  rw [Bool.or_eq_true, triedBefore_iff, triedBefore_iff]
  omega

theorem rank_eq_of_triedBefore {method other : Method} (before : triedBefore method other = true)
    (after : triedBefore other method = true) : method.rank = other.rank := by
  rw [triedBefore_iff] at before after
  exact Prod.ext (by omega) (by omega)

/-- Whether a method accepts the tokens. -/
def accepts (context : ConversionContext) (tokens : List Token) (method : Method) : Bool :=
  (context.arguments? method tokens).isSome

/-- The call of a method with the tokens, if it accepts them. -/
def call? (context : ConversionContext) (tokens : List Token) (method : Method) : Option Action :=
  (context.arguments? method tokens).map (.call method)

/-- No two of the methods that accept the tokens have the same rank. -/
def Distinguishable (context : ConversionContext) (tokens : List Token) (methods : List Method) :
    Prop :=
  methods.Pairwise fun method other =>
    context.accepts tokens method = true → context.accepts tokens other = true →
      method.rank ≠ other.rank

instance (context : ConversionContext) (tokens : List Token) (methods : List Method) :
    Decidable (context.Distinguishable tokens methods) :=
  inferInstanceAs (Decidable (List.Pairwise _ methods))

variable {context : ConversionContext} {tokens : List Token} {methods others : List Method}

theorem accepts_iff {method : Method} :
    context.accepts tokens method = true ↔
      ∃ values, context.arguments? method tokens = some values :=
  Option.isSome_iff_exists

theorem Distinguishable.perm (distinguishable : context.Distinguishable tokens methods)
    (permutation : methods.Perm others) : context.Distinguishable tokens others := by
  refine List.Pairwise.perm distinguishable permutation fun apart accepted otherAccepted => ?_
  exact (apart otherAccepted accepted).symm

theorem Distinguishable.eq_of_rank_eq (distinguishable : context.Distinguishable tokens methods)
    {method other : Method} (member : method ∈ methods) (otherMember : other ∈ methods)
    (accepted : context.accepts tokens method = true)
    (otherAccepted : context.accepts tokens other = true)
    (sameRank : method.rank = other.rank) : method = other := by
  let Told (method other : Method) : Prop :=
    context.accepts tokens method = true → context.accepts tokens other = true →
      method.rank = other.rank → method = other
  have forward : methods.Pairwise Told :=
    List.Pairwise.imp (fun apart accepted otherAccepted same =>
      absurd same (apart accepted otherAccepted)) distinguishable
  have backward : methods.Pairwise (flip Told) :=
    List.Pairwise.imp (fun apart accepted otherAccepted same =>
      absurd same.symm (apart otherAccepted accepted)) distinguishable
  have told := List.Pairwise.forall_of_forall_of_flip (fun _ _ _ _ _ => rfl) forward backward
  exact told member otherMember accepted otherAccepted sameRank

/-- Among methods that can be told apart none rivals another, so the first one that accepts the
tokens is called. -/
theorem firstAccepting_eq_ok (distinguishable : context.Distinguishable tokens methods) :
    context.firstAccepting tokens methods =
      .ok (methods.findSome? (context.call? tokens)) := by
  induction methods with
  | nil => rfl
  | cons method rest inductionHypothesis =>
      obtain ⟨apart, restApart⟩ := List.pairwise_cons.mp distinguishable
      unfold firstAccepting
      rw [List.findSome?_cons, call?]
      cases accepted : context.arguments? method tokens with
      | none => exact inductionHypothesis restApart
      | some values =>
          have unrivaled : rest.find? (context.rivals tokens method) = none := by
            refine List.find?_eq_none.mpr fun other member rivaling => ?_
            unfold rivals at rivaling
            rw [Bool.and_eq_true, Bool.and_eq_true, beq_iff_eq, beq_iff_eq] at rivaling
            obtain ⟨⟨_, sameTypes⟩, otherAccepted⟩ := rivaling
            exact apart other member (accepts_iff.mpr ⟨values, accepted⟩) otherAccepted
              (Method.rank_eq_of_parameterTypes_eq sameTypes.symm)
          rw [unrivaled]
          rfl

/-- Methods that do not accept the tokens make no difference. -/
theorem findSome?_filter_accepts (methods : List Method) :
    (methods.filter (context.accepts tokens)).findSome? (context.call? tokens) =
      methods.findSome? (context.call? tokens) := by
  induction methods with
  | nil => rfl
  | cons method rest inductionHypothesis =>
      rw [List.filter_cons, List.findSome?_cons]
      cases accepted : context.arguments? method tokens with
      | none =>
          rw [accepts, call?, accepted]
          exact inductionHypothesis
      | some values =>
          rw [if_pos (accepts_iff.mpr ⟨values, accepted⟩), List.findSome?_cons, call?, accepted]
          rfl

/-- In whatever order methods are listed that can be told apart, those that accept the tokens are
tried in the same one. -/
theorem filter_mergeSort_eq_of_perm (distinguishable : context.Distinguishable tokens methods)
    (permutation : methods.Perm others) :
    (others.mergeSort triedBefore).filter (context.accepts tokens) =
      (methods.mergeSort triedBefore).filter (context.accepts tokens) := by
  have sorted (methods : List Method) :
      ((methods.mergeSort triedBefore).filter (context.accepts tokens)).Pairwise
        fun method other => triedBefore method other = true :=
    (List.pairwise_mergeSort triedBefore_trans triedBefore_total methods).filter _
  refine List.Perm.eq_of_pairwise ?_ (sorted others) (sorted methods) ?_
  · intro method other member otherMember before after
    obtain ⟨listed, accepted⟩ := List.mem_filter.mp member
    obtain ⟨otherListed, otherAccepted⟩ := List.mem_filter.mp otherMember
    rw [List.mem_mergeSort] at listed otherListed
    exact distinguishable.eq_of_rank_eq (permutation.mem_iff.mpr listed) otherListed accepted
      otherAccepted (rank_eq_of_triedBefore before after)
  · exact ((List.mergeSort_perm others _).trans
      (permutation.symm.trans (List.mergeSort_perm methods _).symm)).filter _

theorem chooseOverload_eq_ok (distinguishable : context.Distinguishable tokens methods) :
    context.chooseOverload tokens methods =
      .ok ((methods.mergeSort triedBefore).findSome? (context.call? tokens)) :=
  firstAccepting_eq_ok (distinguishable.perm (List.mergeSort_perm methods _).symm)

/-- The overload to call does not depend on the order in which the methods are listed. -/
theorem chooseOverload_eq_of_perm (distinguishable : context.Distinguishable tokens methods)
    (permutation : methods.Perm others) :
    context.chooseOverload tokens others = context.chooseOverload tokens methods := by
  rw [chooseOverload_eq_ok distinguishable, chooseOverload_eq_ok (distinguishable.perm permutation),
    ← findSome?_filter_accepts, filter_mergeSort_eq_of_perm distinguishable permutation,
    findSome?_filter_accepts]

end ConversionContext

/-! ### Registrations in another order -/

/-- The other table is this one with its methods in some order. -/
def MemberTable.Rearranged (table other : MemberTable) : Prop :=
  ∃ methods, table.methods.Perm methods ∧ other = { table with methods := methods }

namespace Registry

/-- The same types are registered, each with its methods in some order, and the same extensions in
some order. -/
structure Rearranged (registry other : Registry) : Prop where
  tables : List.Forall₂
    (fun entry otherEntry => entry.1 = otherEntry.1 ∧ entry.2.Rearranged otherEntry.2)
    registry.tables other.tables
  extensions : registry.extensions.Perm other.extensions

namespace Rearranged

variable {registry other : Registry} (rearranged : registry.Rearranged other)
include rearranged

theorem table?_cases (object : ObjectRef) :
    (registry.table? object = none ∧ other.table? object = none) ∨
      ∃ table methods, registry.table? object = some table ∧ table.methods.Perm methods ∧
        other.table? object = some { table with methods := methods } := by
  unfold table?
  have entries := rearranged.tables
  generalize registry.tables = tables at entries
  generalize other.tables = otherTables at entries
  induction entries with
  | nil => exact .inl ⟨rfl, rfl⟩
  | @cons entry otherEntry rest otherRest same _ inductionHypothesis =>
      obtain ⟨key, table⟩ := entry
      obtain ⟨otherKey, otherTable⟩ := otherEntry
      obtain ⟨rfl, methods, permutation, rfl⟩ := same
      rw [List.lookup_cons, List.lookup_cons]
      cases object.typeKey == key with
      | true => exact .inr ⟨table, methods, rfl, permutation, rfl⟩
      | false => exact inductionHypothesis

theorem extensionsOf (object : ObjectRef) :
    (registry.extensionsOf object).Perm (other.extensionsOf object) :=
  (rearranged.extensions.filter _).map _

theorem isInstance : other.isInstance = registry.isInstance := by
  funext object name
  unfold Registry.isInstance
  rcases rearranged.table?_cases object with ⟨found, otherFound⟩ | ⟨_, _, found, _, otherFound⟩ <;>
    rw [found, otherFound]
  rfl

theorem typeName : other.typeName = registry.typeName := by
  funext object
  unfold Registry.typeName
  rcases rearranged.table?_cases object with ⟨found, otherFound⟩ | ⟨_, _, found, _, otherFound⟩ <;>
    rw [found, otherFound]
  rfl

end Rearranged

end Registry

/-! ### Decisions -/

namespace ActionRequest

variable {request : ActionRequest} {context : ConversionContext} {name : String}
  {arguments : List Token}

/-- The methods that accept the arguments of the request can be told apart by their ranks, the own
ones of the type from each other and the added ones from each other. -/
structure Unambiguous (request : ActionRequest) (context : ConversionContext) : Prop where
  own : ∀ {name : String} {arguments : List Token}, request.Means context name arguments →
    context.Distinguishable arguments (request.ownMethods context name)
  added : ∀ {name : String} {arguments : List Token}, request.Means context name arguments →
    context.Distinguishable arguments (request.addedMethods context name)

theorem slotAction_agrees {other : ConversionContext} (agrees : context.Agrees other) (slot : Slot)
    (unreadable : Fault) (token? : Option Token) :
    request.slotAction other slot unreadable token? =
      request.slotAction context slot unreadable token? := by
  unfold slotAction
  simp only [agrees.stored]

theorem dataAction_agrees {other : ConversionContext} (agrees : context.Agrees other)
    (table : MemberTable) :
    request.dataAction other table name arguments =
      request.dataAction context table name arguments := by
  unfold dataAction indexerAction
  simp only [fieldAction_eq_slotAction _ (.noSuchMember request.target name),
    propertyAction_eq_slotAction, indexedAction_eq_slotAction, slotAction_agrees agrees,
    agrees.indices?]

theorem member_ne_ambiguous (table? : Option MemberTable) (owner first second : String) :
    request.member table? ≠ .error (.ambiguous owner first second) := by
  unfold member
  split
  · nofun
  · split
    · nofun
    · split <;> nofun
    · nofun

theorem slotAction_ne_ambiguous {slot : Slot} {unreadable : Fault} (token? : Option Token)
    {owner first second : String} (otherwise : unreadable ≠ .ambiguous owner first second) :
    request.slotAction context slot unreadable token? ≠
      .error (.ambiguous owner first second) := by
  unfold slotAction
  split
  · split
    · exact fun same => otherwise (Except.error.inj same)
    · nofun
  · next token =>
      split
      · nofun
      · unfold ConversionContext.stored
        cases context.convert token slot.type with
        | error cause => exact fun same => nomatch Except.error.inj same
        | ok value => exact fun same => nomatch same

theorem indexerAction_ne_ambiguous (indexers : List Indexer) (owner first second : String) :
    request.indexerAction context name indexers arguments ≠
      .error (.ambiguous owner first second) := by
  unfold indexerAction
  simp only [indexedAction_eq_slotAction]
  split
  · split
    · nofun
    · split
      · exact slotAction_ne_ambiguous _ nofun
      · nofun
  · nofun

theorem placeAction_ne_ambiguous (owner first second : String) :
    request.placeAction context name arguments ≠ .error (.ambiguous owner first second) := by
  unfold placeAction dataAction
  split
  · next table _ =>
      split
      · next field _ =>
          rw [fieldAction_eq_slotAction field (.noSuchMember request.target name)]
          exact slotAction_ne_ambiguous _ nofun
      · split
        · rw [propertyAction_eq_slotAction]
          exact slotAction_ne_ambiguous _ nofun
        · split
          · nofun
          · exact indexerAction_ne_ambiguous _ owner first second
  · nofun

/-- Overloads that can be told apart are never ambiguous. -/
theorem methodAction_ne_ambiguous
    (own : context.Distinguishable arguments (request.ownMethods context name))
    (added : context.Distinguishable arguments (request.addedMethods context name))
    (owner first second : String) :
    request.methodAction context name arguments ≠ .error (.ambiguous owner first second) := by
  unfold methodAction
  rw [ConversionContext.chooseOverload_eq_ok own, ConversionContext.chooseOverload_eq_ok added]
  intro same
  generalize List.findSome? _ _ = chosen? at same
  generalize List.findSome? _ _ = addedChosen? at same
  cases chosen? with
  | some action => cases same
  | none => cases addedChosen? <;> cases same

/-! ### Decisions in another order -/

section Rearranging

variable {registry : Registry} (rearranged : context.registry.Rearranged registry)
include rearranged

theorem member_of_rearranged :
    request.member (registry.table? request.object) =
      request.member (context.registry.table? request.object) := by
  rcases rearranged.table?_cases request.object with
    ⟨found, otherFound⟩ | ⟨_, _, found, _, otherFound⟩ <;> rw [found, otherFound]
  rfl

theorem ownMethods_perm (name : String) :
    (request.ownMethods context name).Perm
      (request.ownMethods { context with registry := registry } name) := by
  unfold ownMethods
  dsimp only
  rcases rearranged.table?_cases request.object with
    ⟨found, otherFound⟩ | ⟨_, _, found, permutation, otherFound⟩ <;> rw [found, otherFound]
  exact permutation.filter _

theorem addedMethods_perm (name : String) :
    (request.addedMethods context name).Perm
      (request.addedMethods { context with registry := registry } name) :=
  (rearranged.extensionsOf request.object).filter _

theorem agrees_of_rearranged : context.Agrees { context with registry := registry } :=
  ⟨rfl, rfl, rearranged.isInstance, rearranged.typeName⟩

theorem placeAction_of_rearranged :
    request.placeAction { context with registry := registry } name arguments =
      request.placeAction context name arguments := by
  have agrees := agrees_of_rearranged rearranged
  unfold placeAction
  dsimp only
  rcases rearranged.table?_cases request.object with
    ⟨found, otherFound⟩ | ⟨table, methods, found, _, otherFound⟩ <;> rw [found, otherFound]
  exact dataAction_agrees agrees table

theorem methodAction_of_rearranged
    (own : context.Distinguishable arguments (request.ownMethods context name))
    (added : context.Distinguishable arguments (request.addedMethods context name)) :
    request.methodAction { context with registry := registry } name arguments =
      request.methodAction context name arguments := by
  have agrees := agrees_of_rearranged rearranged
  unfold methodAction
  rw [agrees.chooseOverload, agrees.chooseOverload,
    ConversionContext.chooseOverload_eq_of_perm own (ownMethods_perm rearranged name),
    ConversionContext.chooseOverload_eq_of_perm added (addedMethods_perm rearranged name)]

end Rearranging

/-- If no two of the methods that accept the arguments have the same numbers of parameters and of
strings among them, neither of those that the type has itself nor of those added to it, then the
order in which methods and extensions are registered makes no difference: the invocation selects the
same method with the same arguments or fails by the same fault, and it is never ambiguous. -/
theorem action?_of_rearranged (request : ActionRequest) (context : ConversionContext)
    {registry : Registry} (rearranged : context.registry.Rearranged registry)
    (unambiguous : request.Unambiguous context) :
    request.action? { context with registry := registry } = request.action? context ∧
      request.invoke { context with registry := registry } = request.invoke context ∧
      ∀ owner first second, request.action? context ≠ .error (.ambiguous owner first second) := by
  have sameMember : request.member (registry.table? request.object) =
      request.member (context.registry.table? request.object) := member_of_rearranged rearranged
  have decided : request.action? { context with registry := registry } = request.action? context ∧
      ∀ owner first second, request.action? context ≠ .error (.ambiguous owner first second) := by
    cases meant : request.member (context.registry.table? request.object) with
    | error fault =>
        have namelessToo : request.action? { context with registry := registry } = .error fault :=
          action?_of_nameless (sameMember.trans meant)
        rw [namelessToo, action?_of_nameless meant]
        refine ⟨rfl, fun owner first second same => ?_⟩
        cases same
        exact member_ne_ambiguous _ owner first second meant
    | ok means =>
        obtain ⟨name, arguments⟩ := means
        have own := unambiguous.own meant
        have added := unambiguous.added meant
        have meansToo : request.Means { context with registry := registry } name arguments :=
          sameMember.trans meant
        rw [action?_of_means meansToo, action?_of_means meant, placeAction_of_rearranged rearranged,
          methodAction_of_rearranged rearranged own added,
          (ownMethods_perm rearranged name).isEmpty_eq,
          (addedMethods_perm rearranged name).isEmpty_eq]
        refine ⟨rfl, ?_⟩
        split
        · exact placeAction_ne_ambiguous
        · exact methodAction_ne_ambiguous own added
  refine ⟨decided.1, ?_, decided.2⟩
  unfold invoke
  rw [decided.1]

/-- A Boolean, an integer and two integers of which the second may be left out: of the overloads
with one parameter only one accepts an integer. -/
theorem action?_of_reversed :
    let overload (parameters : List Parameter) : Method :=
      ⟨"f", parameters, .void, false, "T", fun _ _ => pure .null⟩
    let methods := [overload [.required "b" .bool], overload [.required "n" (.int .i32)],
      overload [.required "n" (.int .i32), ⟨"m", .int .i32, some (.int 0), none⟩]]
    let registry (methods : List Method) : Registry :=
      ⟨[(.device "T", ⟨"T", [], methods, [], [], []⟩)], []⟩
    let context (methods : List Method) : ConversionContext :=
      ⟨registry methods, fun _ => "t", fun _ => none⟩
    let request : ActionRequest := ⟨.device "T" 0, "t", [⟨.literal "f", "f"⟩, ⟨.integer 1, "1"⟩]⟩
    (registry methods).Rearranged (registry methods.reverse) ∧
      request.Unambiguous (context methods) ∧
      request.action? (context methods.reverse) = request.action? (context methods) := by
  intro overload methods registry context request
  have rearranged : (registry methods).Rearranged (registry methods.reverse) :=
    ⟨.cons ⟨rfl, methods.reverse, (List.reverse_perm methods).symm, rfl⟩ .nil, .refl _⟩
  have unambiguous : request.Unambiguous (context methods) := by
    constructor
    · rintro name arguments ⟨⟩
      decide
    · rintro name arguments ⟨⟩
      exact .nil
  exact ⟨rearranged, unambiguous, (request.action?_of_rearranged _ rearranged unambiguous).1⟩

end ActionRequest

end MachineConsole
