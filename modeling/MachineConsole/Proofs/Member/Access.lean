import MachineConsole.Proofs.Member.Metering
import MachineConsole.Proofs.Sequencing

/-!
Contract: what an invocation of an object uses, and for what reasons it uses nothing.

Owns:
- `Registry.Offers`: the single uses of accessors that are open to invocations of an object;
- `ActionRequest.Refuses`: the faults by which an invocation is turned down before any use;
- `ActionRequest.Decides`: the two ways a decision can end, followed through every kind of member
  for the members as they are and as metered ones at once;
- `ActionRequest.invoke_uses_at_most_one`.
-/

namespace MachineConsole

/-! ### Accessors -/

namespace Registry

variable (registry : Registry) (object : ObjectRef)

/-- The methods of an object: those of its type and those added from outside. -/
inductive Callable : Method → Prop
  | own {table : MemberTable} {method : Method} (found : registry.table? object = some table)
      (member : method ∈ table.methods) : Callable method
  | extension {method : Method} (member : method ∈ registry.extensionsOf object) : Callable method

/-- The places of an object that its type declares. -/
inductive Provides : Slot → Prop
  | field {table : MemberTable} {field : Field} (found : registry.table? object = some table)
      (member : field ∈ table.fields) : Provides field.slot
  | property {table : MemberTable} {property : Property}
      (found : registry.table? object = some table) (member : property ∈ table.properties) :
      Provides property.slot
  | indexer {table : MemberTable} {indexer : Indexer}
      (found : registry.table? object = some table) (member : indexer ∈ table.indexers)
      (indices : List Value) : Provides (indexer.slot indices)

/-- The single uses of accessors of an object, each with the entry it leaves when metered. -/
inductive Offers : Event → Action → Prop
  | call {method : Method} (callable : registry.Callable object method) (arguments : List Value) :
      Offers (method.use arguments) (.call method arguments)
  | read {slot : Slot} {get : Getter} (provided : registry.Provides object slot)
      (readable : slot.get? = some get) : Offers slot.reading (.read get slot.type)
  | write {slot : Slot} {set : Setter} (provided : registry.Provides object slot)
      (writable : slot.set? = some set) (value : Value) :
      Offers (slot.writing value) (.write set value)

end Registry

namespace MemberTable

variable {table : MemberTable} {name : String}

theorem of_field? {field : Field} (found : table.field? name = some field) :
    field ∈ table.fields ∧ field.name = name := by
  unfold field? at found
  have named := List.find?_some found
  exact ⟨List.mem_of_find?_eq_some found, eq_of_beq named⟩

theorem of_property? {property : Property} (found : table.property? name = some property) :
    property ∈ table.properties ∧ property.name = name := by
  unfold property? at found
  have named := List.find?_some found
  exact ⟨List.mem_of_find?_eq_some found, eq_of_beq named⟩

end MemberTable

/-- Using the second action is the metered use of the first. -/
def Action.MeteredAs (event : Event) (action meteredAction : Action) : Prop :=
  ∀ object, meteredAction.perform object = (action.perform object).metered event

/-- The entry for a part of an action that decides on its result is the entry for the action. -/
theorem Act.metered_bind_pure {α β : Type} (event : Event) (action : Act α) (result : α → β) :
    (action.metered event >>= fun value => pure (result value)) =
      Act.metered event (action >>= fun value => pure (result value)) := by
  funext world
  unfold Act.metered
  simp only [bind_run, ExceptT.mk]
  cases action world with
  | mk outcome after => cases outcome <;> rfl

namespace Action.MeteredAs

theorem call (method : Method) (arguments : List Value) :
    MeteredAs (method.use arguments) (.call method arguments) (.call method.metered arguments) :=
  fun _ => Act.metered_bind_pure _ _ _

theorem read (event : Event) (get : Getter) (type : ValueType) :
    MeteredAs event (.read get type) (.read (fun object => (get object).metered event) type) :=
  fun _ => Act.metered_bind_pure _ _ _

theorem write (event : Value → Event) (set : Setter) (value : Value) :
    MeteredAs (event value) (.write set value)
      (.write (fun object value => (set object value).metered (event value)) value) :=
  fun _ => Act.metered_bind_pure _ _ fun _ => ActionResult.unit

end Action.MeteredAs

/-! ### Overloads -/

namespace ConversionContext

/-- What may come of a choice among methods, and of the same choice among metered ones. -/
inductive Chooses (context : ConversionContext) (tokens : List Token) (methods : List Method) :
    Except Fault (Option Action) → Except Fault (Option Action) → Prop
  | nothing (unaccepted : ∀ method ∈ methods, context.arguments? method tokens = none) :
      Chooses context tokens methods (.ok none) (.ok none)
  | ambiguous {first second : Method} (member : first ∈ methods) (other : second ∈ methods)
      (accepted : (context.arguments? first tokens).isSome = true)
      (rivals : context.rivals tokens first second = true) :
      Chooses context tokens methods
        (.error (.ambiguous first.owner (first.text context.labels) (second.text context.labels)))
        (.error (.ambiguous first.owner (first.text context.labels) (second.text context.labels)))
  | method {method : Method} (member : method ∈ methods) (arguments : List Value) :
      Chooses context tokens methods (.ok (some (.call method arguments)))
        (.ok (some (.call method.metered arguments)))

variable {context : ConversionContext} {tokens : List Token} {methods : List Method}
  {result meteredResult : Except Fault (Option Action)}

namespace Chooses

theorem of_mem_iff {others : List Method} (same : ∀ method, method ∈ methods ↔ method ∈ others)
    (chooses : Chooses context tokens methods result meteredResult) :
    Chooses context tokens others result meteredResult := by
  cases chooses with
  | nothing unaccepted =>
      exact .nothing fun method member => unaccepted method ((same method).mpr member)
  | ambiguous member other accepted rivals =>
      exact .ambiguous ((same _).mp member) ((same _).mp other) accepted rivals
  | method member arguments => exact .method ((same _).mp member) arguments

/-- A method that does not accept the tokens is passed over. -/
theorem cons {method : Method} (unaccepted : context.arguments? method tokens = none)
    (chooses : Chooses context tokens methods result meteredResult) :
    Chooses context tokens (method :: methods) result meteredResult := by
  cases chooses with
  | nothing others => exact .nothing (List.forall_mem_cons.mpr ⟨unaccepted, others⟩)
  | ambiguous member other accepted rivals =>
      exact .ambiguous (List.mem_cons_of_mem _ member) (List.mem_cons_of_mem _ other) accepted rivals
  | method member arguments => exact .method (List.mem_cons_of_mem _ member) arguments

end Chooses

theorem rivals_metered (tokens : List Token) (method other : Method) :
    context.metered.rivals tokens method.metered other.metered =
      context.rivals tokens method other := by
  unfold rivals
  rw [arguments?_metered]
  rfl

theorem firstAccepting_chooses (tokens : List Token) (methods : List Method) :
    Chooses context tokens methods (context.firstAccepting tokens methods)
      (context.metered.firstAccepting tokens (methods.map Method.metered)) := by
  induction methods with
  | nil => exact .nothing nofun
  | cons method rest inductionHypothesis =>
      unfold firstAccepting
      simp only [List.map_cons, arguments?_metered, List.find?_map]
      have sameRivals : context.metered.rivals tokens method.metered ∘ Method.metered =
          context.rivals tokens method :=
        funext fun other => rivals_metered tokens method other
      rw [sameRivals]
      cases accepted : context.arguments? method tokens with
      | none => exact inductionHypothesis.cons accepted
      | some values =>
          cases rivalFound : rest.find? (context.rivals tokens method) with
          | none => exact .method List.mem_cons_self values
          | some rival =>
              have rivalMember := List.mem_of_find?_eq_some rivalFound
              exact .ambiguous List.mem_cons_self (List.mem_cons_of_mem method rivalMember)
                (Option.isSome_iff_exists.mpr ⟨values, accepted⟩)
                (List.find?_some rivalFound)

/-- The order in which overloads are tried does not depend on what they do. -/
theorem chooseOverload_chooses (tokens : List Token) (methods : List Method) :
    Chooses context tokens methods (context.chooseOverload tokens methods)
      (context.metered.chooseOverload tokens (methods.map Method.metered)) := by
  unfold chooseOverload
  have sorted : (methods.map Method.metered).mergeSort triedBefore =
      (methods.mergeSort triedBefore).map Method.metered :=
    Eq.symm (List.map_mergeSort (f := Method.metered) fun _ _ _ _ => rfl)
  rw [sorted]
  exact (firstAccepting_chooses tokens _).of_mem_iff fun _ => List.mem_mergeSort

end ConversionContext

/-! ### Decisions -/

namespace ActionRequest

/-- The request means the member of this name and brings these arguments for it. -/
def Means (request : ActionRequest) (context : ConversionContext) (name : String)
    (arguments : List Token) : Prop :=
  request.member (context.registry.table? request.object) = .ok (name, arguments)

/-- The request means the indexers of this name that the table of its object has. -/
structure MeansIndexer (request : ActionRequest) (context : ConversionContext)
    (table : MemberTable) (name : String) (arguments : List Token) : Prop where
  means : request.Means context name arguments
  found : context.registry.table? request.object = some table
  declared : table.indexersNamed name ≠ []

/-- The faults of an invocation's own making, each with the reason for it. -/
inductive Refuses (request : ActionRequest) (context : ConversionContext) : Fault → Prop
  | memberMissing (bare : request.arguments = []) :
      Refuses request context (.refused (.memberMissing request.target))
  | unnamed {first : Token} {rest : List Token} (begins : request.arguments = first :: rest)
      (wordless : ∀ name, first.kind ≠ .literal name) (unbracketed : first.kind ≠ .leftBracket) :
      Refuses request context (.noSuchMember request.target first.raw)
  | noDefaultIndexer {first : Token} {rest : List Token}
      (begins : request.arguments = first :: rest) (bracketed : first.kind = .leftBracket)
      (unnamed : (context.registry.table? request.object).bind
        MemberTable.defaultIndexerName? = none) :
      Refuses request context (.noSuchMember request.target "default-named indexer")
  | noSuchMember {name : String} {arguments : List Token}
      (means : request.Means context name arguments)
      (uncallable : ∀ method, context.registry.Callable request.object method → method.name ≠ name)
      (absent : ∀ slot, context.registry.Provides request.object slot → slot.name ≠ name) :
      Refuses request context (.noSuchMember request.target name)
  | noOverload {name : String} {arguments : List Token}
      (means : request.Means context name arguments)
      (callable : ∃ method, context.registry.Callable request.object method ∧ method.name = name)
      (unaccepted : ∀ method, context.registry.Callable request.object method →
        method.name = name → context.arguments? method arguments = none) :
      Refuses request context (.parametersMismatch name)
  | noIndexer {table : MemberTable} {name raw : String} {tokens behind : List Token} {close : Token}
      (meant : request.MeansIndexer context table name
        (⟨.leftBracket, raw⟩ :: (tokens ++ close :: behind)))
      (closes : close.kind = .rightBracket)
      (unaccepted : ∀ indexer ∈ table.indexersNamed name, indices? context indexer tokens = none) :
      Refuses request context (.parametersMismatch name)
  | ambiguous {first second : Method} {name : String} {arguments : List Token}
      (means : request.Means context name arguments)
      (callable : context.registry.Callable request.object first)
      (other : context.registry.Callable request.object second)
      (accepted : (context.arguments? first arguments).isSome = true)
      (rivals : context.rivals arguments first second = true) :
      Refuses request context
        (.ambiguous first.owner (first.text context.labels) (second.text context.labels))
  | readOnly {slot : Slot} {arguments : List Token}
      (means : request.Means context slot.name arguments)
      (provided : context.registry.Provides request.object slot)
      (inaccessible : slot.set? = none) :
      Refuses request context (.readOnly (request.target ++ "." ++ slot.name))
  | propertyNotReadable {property : Property} {arguments : List Token}
      (means : request.Means context property.name arguments)
      (provided : context.registry.Provides request.object property.slot)
      (inaccessible : property.get? = none) :
      Refuses request context (.refused (.propertyNotReadable property.name))
  | indexerNotReadable {indexer : Indexer} {indices : List Value} {arguments : List Token}
      (means : request.Means context indexer.name arguments)
      (provided : context.registry.Provides request.object (indexer.slot indices))
      (inaccessible : indexer.get? = none) :
      Refuses request context (.refused (.indexerNotReadable indexer.name))
  | indexerForm {table : MemberTable} {name : String} {arguments : List Token}
      (meant : request.MeansIndexer context table name arguments)
      (unbracketed : ∀ first ∈ arguments.head?, first.kind ≠ .leftBracket) :
      Refuses request context (.refused (.indexerForm name request.target))
  | bracketMissing {table : MemberTable} {name raw : String} {rest : List Token}
      (meant : request.MeansIndexer context table name (⟨.leftBracket, raw⟩ :: rest))
      (unclosed : ∀ token ∈ rest, token.kind ≠ .rightBracket) :
      Refuses request context (.refused (.bracketMissing name))
  | conversion {slot : Slot} {arguments : List Token} {token : Token} {cause : ConversionCause}
      (means : request.Means context slot.name arguments)
      (provided : context.registry.Provides request.object slot)
      (given : token ∈ arguments)
      (unconverted : context.convert token slot.type = .error cause) :
      Refuses request context (.conversion cause)

/-- What may come of a decision, and of the same decision where every accessor is metered. -/
inductive Decides (request : ActionRequest) (context : ConversionContext) :
    Except Fault Action → Except Fault Action → Prop
  | refused {fault : Fault} (reason : request.Refuses context fault) :
      Decides request context (.error fault) (.error fault)
  | granted {event : Event} {action meteredAction : Action}
      (offered : context.registry.Offers request.object event action)
      (metered : action.MeteredAs event meteredAction) :
      Decides request context (.ok action) (.ok meteredAction)

/-- Reading a place, or writing a token to it. -/
def slotAction (request : ActionRequest) (context : ConversionContext) (slot : Slot)
    (unreadable : Fault) : Option Token → Except Fault Action
  | none =>
    match slot.get? with
    | none => .error unreadable
    | some get => .ok (.read get slot.type)
  | some token =>
    match slot.set? with
    | none => .error (.readOnly (request.target ++ "." ++ slot.name))
    | some set => return .write set (← context.stored token slot.type)

variable {request : ActionRequest} {context : ConversionContext} {name : String}
  {arguments : List Token}

/-- A field can always be read, so that it has no fault for this. -/
theorem fieldAction_eq_slotAction (field : Field) (unreadable : Fault) (arguments : List Token) :
    request.fieldAction context field arguments =
      request.slotAction context field.slot unreadable arguments.head? := by
  cases arguments <;> rfl

theorem propertyAction_eq_slotAction (property : Property) (arguments : List Token) :
    request.propertyAction context property arguments =
      request.slotAction context property.slot (.refused (.propertyNotReadable property.name))
        arguments.head? := by
  cases arguments <;> rfl

theorem indexedAction_eq_slotAction (indexer : Indexer) (indices : List Value)
    (token? : Option Token) :
    request.indexedAction context indexer indices token? =
      request.slotAction context (indexer.slot indices)
        (.refused (.indexerNotReadable indexer.name)) token? := by
  unfold indexedAction slotAction Indexer.slot
  cases token? with
  | none => cases indexer.get? <;> rfl
  | some token => cases indexer.set? <;> rfl

/-- A place is read or written only after its accessor was found and the value was converted. -/
theorem slotAction_decides (slot : Slot) {unreadable : Fault} {token? : Option Token}
    (means : request.Means context slot.name arguments)
    (provided : context.registry.Provides request.object slot)
    (reason : slot.get? = none → request.Refuses context unreadable)
    (given : ∀ token ∈ token?, token ∈ arguments) :
    request.Decides context (request.slotAction context slot unreadable token?)
      (request.slotAction context.metered slot.metered unreadable token?) := by
  unfold slotAction Slot.metered
  cases token? with
  | none =>
      cases accessor : slot.get? with
      | none => exact .refused (reason accessor)
      | some get => exact .granted (.read provided accessor) (.read _ get slot.type)
  | some token =>
      cases accessor : slot.set? with
      | none => exact .refused (.readOnly means provided accessor)
      | some set =>
          simp only [Option.map_some, ConversionContext.stored,
            ConversionContext.convert_metered]
          cases converted : context.convert token slot.type with
          | error cause =>
              exact .refused (.conversion means provided (given token rfl) converted)
          | ok value =>
              exact .granted (.write provided accessor value) (.write slot.writing set value)

theorem mem_of_findSome?_indices? {indexers : List Indexer} {tokens : List Token}
    {indexer : Indexer} {indices : List Value}
    (accepting : (indexers.findSome? fun indexer =>
      (indices? context indexer tokens).map fun indices => (indexer, indices)) =
        some (indexer, indices)) : indexer ∈ indexers := by
  obtain ⟨candidate, member, accepted⟩ := List.exists_of_findSome?_eq_some accepting
  obtain ⟨_, _, pair⟩ := Option.map_eq_some_iff.mp accepted
  cases pair
  exact member

theorem indexerAction_decides {table : MemberTable}
    (meant : request.MeansIndexer context table name arguments) :
    request.Decides context
      (request.indexerAction context name (table.indexersNamed name) arguments)
      (request.indexerAction context.metered name
        ((table.indexersNamed name).map Indexer.metered) arguments) := by
  unfold indexerAction
  split
  · next raw rest =>
      have parts := List.takeWhile_append_dropWhile (p := fun token => token.kind != .rightBracket)
        (l := rest)
      cases closing : rest.dropWhile fun token => token.kind != .rightBracket with
      | nil =>
          rw [closing, List.append_nil] at parts
          refine .refused (.bracketMissing meant fun token member => ?_)
          rw [← parts] at member
          exact bne_iff_ne.mp (List.all_eq_true.mp List.all_takeWhile token member)
      | cons close afterBracket =>
          rw [closing] at parts
          dsimp only
          rw [findSome?_indices?_metered]
          split
          · next indexer indices accepting =>
              rw [accepting, Option.map_some]
              dsimp only [Prod.map_apply, id]
              rw [indexedAction_eq_slotAction, indexedAction_eq_slotAction, Indexer.slot_metered]
              obtain ⟨declared, named⟩ :=
                List.mem_filter.mp (mem_of_findSome?_indices? accepting)
              have meansIndexer : request.Means context indexer.name (⟨.leftBracket, raw⟩ :: rest) :=
                eq_of_beq named ▸ meant.means
              have provided := Registry.Provides.indexer meant.found declared indices
              apply slotAction_decides (indexer.slot indices) meansIndexer provided
              · intro unreadable
                exact .indexerNotReadable meansIndexer provided
                  (Option.map_eq_none_iff.mp unreadable)
              · intro token first
                have afterMember := List.mem_of_mem_head? first
                rw [← parts]
                exact List.mem_cons_of_mem _
                  (List.mem_append_right _ (List.mem_cons_of_mem close afterMember))
          · next unaccepted =>
              rw [unaccepted]
              have closes : close.kind = .rightBracket := by
                have stops := List.head?_dropWhile_not (fun token => token.kind != .rightBracket) rest
                rw [closing] at stops
                exact bne_eq_false_iff_eq.mp stops
              refine .refused (.noIndexer (parts.symm ▸ meant) closes fun indexer member => ?_)
              exact Option.map_eq_none_iff.mp
                (List.findSome?_eq_none_iff.mp unaccepted indexer member)
  · next unbracketed =>
      refine .refused (.indexerForm meant fun first begins bracketed => ?_)
      obtain ⟨more, rfl⟩ := List.head?_eq_some_iff.mp begins
      obtain ⟨kind, raw⟩ := first
      cases bracketed
      exact unbracketed raw more rfl

/-- A name that is neither a field nor a property nor an indexer is no place of the object. -/
theorem name_ne_of_not_found {table : MemberTable}
    (found : context.registry.table? request.object = some table)
    (noField : table.field? name = none) (noProperty : table.property? name = none)
    (noIndexer : table.indexersNamed name = []) {slot : Slot}
    (provided : context.registry.Provides request.object slot) : slot.name ≠ name := by
  intro named
  have sameName : (slot.name == name) = true := beq_iff_eq.mpr named
  cases provided with
  | field foundHere member =>
      cases found.symm.trans foundHere
      exact List.find?_eq_none.mp noField _ member sameName
  | property foundHere member =>
      cases found.symm.trans foundHere
      exact List.find?_eq_none.mp noProperty _ member sameName
  | indexer foundHere member indices =>
      cases found.symm.trans foundHere
      exact List.filter_eq_nil_iff.mp noIndexer _ member sameName

theorem dataAction_decides {table : MemberTable}
    (found : context.registry.table? request.object = some table)
    (means : request.Means context name arguments)
    (uncallable : ∀ method, context.registry.Callable request.object method → method.name ≠ name) :
    request.Decides context (request.dataAction context table name arguments)
      (request.dataAction context.metered table.metered name arguments) := by
  have givenFirst : ∀ token ∈ arguments.head?, token ∈ arguments :=
    fun _ first => List.mem_of_mem_head? first
  unfold dataAction
  rw [MemberTable.field?_metered]
  cases fieldFound : table.field? name with
  | some field =>
      let unreadable := Fault.noSuchMember request.target name
      dsimp only [Option.map_some]
      rw [fieldAction_eq_slotAction field unreadable, fieldAction_eq_slotAction _ unreadable,
        Field.slot_metered]
      obtain ⟨declared, rfl⟩ := MemberTable.of_field? fieldFound
      exact slotAction_decides field.slot means (.field found declared) nofun givenFirst
  | none =>
      dsimp only [Option.map_none]
      rw [MemberTable.property?_metered]
      cases propertyFound : table.property? name with
      | some property =>
          dsimp only [Option.map_some]
          rw [propertyAction_eq_slotAction, propertyAction_eq_slotAction, Property.slot_metered]
          obtain ⟨declared, rfl⟩ := MemberTable.of_property? propertyFound
          have provided := Registry.Provides.property found declared
          exact slotAction_decides property.slot means provided
            (.propertyNotReadable means provided) givenFirst
      | none =>
          dsimp only [Option.map_none]
          rw [MemberTable.indexersNamed_metered]
          cases named : table.indexersNamed name with
          | nil =>
              exact .refused (.noSuchMember means uncallable fun _ provided =>
                name_ne_of_not_found found fieldFound propertyFound named provided)
          | cons indexer rest =>
              have declared : table.indexersNamed name ≠ [] := named ▸ List.cons_ne_nil indexer rest
              have indexing := indexerAction_decides ⟨means, found, declared⟩
              rwa [named] at indexing

/-- An invocation means a member, or it is refused for what it begins with. -/
theorem means_cases (request : ActionRequest) (context : ConversionContext) :
    (∃ fault, request.Refuses context fault ∧
      request.member (context.registry.table? request.object) = .error fault) ∨
      ∃ name arguments, request.Means context name arguments := by
  unfold Means
  cases asked : request.arguments with
  | nil =>
      refine .inl ⟨_, .memberMissing asked, ?_⟩
      unfold member
      rw [asked]
  | cons first rest =>
      cases member : request.member (context.registry.table? request.object) with
      | ok meant => exact .inr ⟨meant.1, meant.2, rfl⟩
      | error fault =>
          refine .inl ⟨fault, ?_, rfl⟩
          unfold ActionRequest.member at member
          rw [asked] at member
          dsimp only at member
          split at member
          · cases member
          · next bracketed =>
              split at member
              · cases member
              · next undefaulted =>
                  cases member
                  exact .noDefaultIndexer asked bracketed undefaulted
          · next wordless unbracketed =>
              cases member
              exact .unnamed asked wordless unbracketed

theorem member_metered (request : ActionRequest) (table? : Option MemberTable) :
    request.member (table?.map MemberTable.metered) = request.member table? := by
  unfold member
  cases table? with
  | none => rfl
  | some table => simp only [Option.map_some, Option.bind_some, table.defaultIndexerName?_metered]

/-- A choice among methods of the object, with what is decided when none accepts the arguments. -/
theorem chooses_decides {methods : List Method} {result meteredResult : Except Fault (Option Action)}
    (means : request.Means context name arguments)
    (chooses : ConversionContext.Chooses context arguments methods result meteredResult)
    (callable : ∀ method ∈ methods, context.registry.Callable request.object method)
    {next meteredNext : Option Action → Except Fault Action}
    (chosen : ∀ action, next (some action) = .ok action ∧ meteredNext (some action) = .ok action)
    (otherwise : (∀ method ∈ methods, context.arguments? method arguments = none) →
      request.Decides context (next none) (meteredNext none)) :
    request.Decides context (result >>= next) (meteredResult >>= meteredNext) := by
  cases chooses with
  | nothing unaccepted => exact otherwise unaccepted
  | ambiguous member other accepted rivals =>
      exact .refused (.ambiguous means (callable _ member) (callable _ other) accepted rivals)
  | method member arguments =>
      show request.Decides context (next (some _)) (meteredNext (some _))
      rw [(chosen _).1, (chosen _).2]
      exact .granted (.call (callable _ member) arguments) (.call _ arguments)

section Parts

variable (request : ActionRequest) (context : ConversionContext) (name : String)
  (arguments : List Token)

/-- The methods of a name that the type of the object has. -/
def ownMethods : List Method :=
  ((context.registry.table? request.object).map fun table => table.methodsNamed name).getD []

/-- The methods of a name that were added to the type of the object from outside. -/
def addedMethods : List Method :=
  (context.registry.extensionsOf request.object).filter fun method => method.name == name

/-- The action of the member meant, when it is no method. -/
def placeAction : Except Fault Action :=
  match context.registry.table? request.object with
  | some table => request.dataAction context table name arguments
  | none => .error (.noSuchMember request.target name)

/-- The call of the method meant. -/
def methodAction : Except Fault Action := do
  match ← context.chooseOverload arguments (request.ownMethods context name) with
  | some action => return action
  | none =>
    match ← context.chooseOverload arguments (request.addedMethods context name) with
    | some action => return action
    | none => throw (.parametersMismatch name)

end Parts

theorem action?_of_means (means : request.Means context name arguments) :
    request.action? context =
      if (request.ownMethods context name).isEmpty &&
          (request.addedMethods context name).isEmpty then
        request.placeAction context name arguments
      else request.methodAction context name arguments := by
  unfold Means at means
  unfold action?
  dsimp only
  rw [means]
  rfl

theorem action?_of_nameless {fault : Fault}
    (nameless : request.member (context.registry.table? request.object) = .error fault) :
    request.action? context = .error fault := by
  unfold action?
  dsimp only
  rw [nameless]
  rfl

theorem ownMethods_metered (request : ActionRequest) (context : ConversionContext) (name : String) :
    request.ownMethods context.metered name =
      (request.ownMethods context name).map Method.metered := by
  unfold ownMethods
  rw [context.table?_metered]
  cases context.registry.table? request.object with
  | none => rfl
  | some table => exact table.methodsNamed_metered name

theorem addedMethods_metered (request : ActionRequest) (context : ConversionContext)
    (name : String) :
    request.addedMethods context.metered name =
      (request.addedMethods context name).map Method.metered := by
  unfold addedMethods ConversionContext.metered
  rw [Registry.extensionsOf_metered, List.filter_map]
  rfl

/-- The methods of a name are those of the type and those added from outside. -/
theorem callable_named_iff {method : Method} :
    context.registry.Callable request.object method ∧ method.name = name ↔
      method ∈ request.ownMethods context name ∨ method ∈ request.addedMethods context name := by
  unfold ownMethods addedMethods
  constructor
  · rintro ⟨callable, named⟩
    have sameName : (method.name == name) = true := beq_iff_eq.mpr named
    cases callable with
    | own found member =>
        rw [found]
        exact .inl (List.mem_filter.mpr ⟨member, sameName⟩)
    | extension member => exact .inr (List.mem_filter.mpr ⟨member, sameName⟩)
  · rintro (member | member)
    · cases found : context.registry.table? request.object with
      | none =>
          rw [found] at member
          cases member
      | some table =>
          rw [found] at member
          obtain ⟨declared, named⟩ := List.mem_filter.mp member
          exact ⟨.own found declared, eq_of_beq named⟩
    · obtain ⟨declared, named⟩ := List.mem_filter.mp member
      exact ⟨.extension declared, eq_of_beq named⟩

theorem placeAction_decides (means : request.Means context name arguments)
    (uncallable : ∀ method, context.registry.Callable request.object method → method.name ≠ name) :
    request.Decides context (request.placeAction context name arguments)
      (request.placeAction context.metered name arguments) := by
  unfold placeAction
  rw [context.table?_metered]
  cases found : context.registry.table? request.object with
  | none =>
      refine .refused (.noSuchMember means uncallable fun slot provided => ?_)
      cases provided <;> cases found.symm.trans ‹_›
  | some table => exact dataAction_decides found means uncallable

theorem methodAction_decides (means : request.Means context name arguments)
    (callable : ∃ method, context.registry.Callable request.object method ∧ method.name = name) :
    request.Decides context (request.methodAction context name arguments)
      (request.methodAction context.metered name arguments) := by
  unfold methodAction
  rw [ownMethods_metered, addedMethods_metered]
  apply chooses_decides means (ConversionContext.chooseOverload_chooses arguments _)
    fun _ member => (callable_named_iff.mpr (.inl member)).1
  · exact fun _ => ⟨rfl, rfl⟩
  · intro ownUnaccepted
    apply chooses_decides means (ConversionContext.chooseOverload_chooses arguments _)
      fun _ member => (callable_named_iff.mpr (.inr member)).1
    · exact fun _ => ⟨rfl, rfl⟩
    · intro addedUnaccepted
      refine .refused (.noOverload means callable fun method callable named => ?_)
      cases callable_named_iff.mp ⟨callable, named⟩ with
      | inl member => exact ownUnaccepted method member
      | inr member => exact addedUnaccepted method member

/-- Metering does not alter a decision, and a decision uses no accessor. -/
theorem action?_decides (request : ActionRequest) (context : ConversionContext) :
    request.Decides context (request.action? context) (request.action? context.metered) := by
  have sameMember : request.member (context.metered.registry.table? request.object) =
      request.member (context.registry.table? request.object) := by
    rw [context.table?_metered, member_metered]
  rcases request.means_cases context with ⟨fault, reason, nameless⟩ | ⟨name, arguments, means⟩
  · rw [action?_of_nameless nameless, action?_of_nameless (sameMember.trans nameless)]
    exact .refused reason
  · have meansMetered : request.Means context.metered name arguments := sameMember.trans means
    rw [action?_of_means means, action?_of_means meansMetered, ownMethods_metered,
      addedMethods_metered, List.isEmpty_map, List.isEmpty_map]
    split
    · next empty =>
        rw [Bool.and_eq_true, List.isEmpty_iff, List.isEmpty_iff] at empty
        refine placeAction_decides means fun method callable named => ?_
        have listed := callable_named_iff.mp ⟨callable, named⟩
        rw [empty.1, empty.2] at listed
        cases listed <;> contradiction
    · next listed =>
        rw [Bool.not_eq_true, Bool.and_eq_false_iff, List.isEmpty_eq_false_iff_exists_mem,
          List.isEmpty_eq_false_iff_exists_mem, ← exists_or] at listed
        exact methodAction_decides means (listed.imp fun _ => callable_named_iff.mpr)

/-! ### Invocations -/

/-- Whatever an invocation asks for, it is one use of an accessor that the object offers. -/
theorem action?_offered {action : Action} (asked : request.action? context = .ok action) :
    ∃ event, context.registry.Offers request.object event action := by
  have decides := request.action?_decides context
  rw [asked] at decides
  generalize request.action? context.metered = meteredDecision at decides
  cases decides with
  | granted offered _ => exact ⟨_, offered⟩

/-- An invocation either fails for a reason of its own, and then it has used no accessor and left
everything as it was, or it comes down to a single use of one accessor of the object, from which its
result, its faults and its effects are. The uses are counted by the journal of the same invocation
with metered accessors. -/
theorem invoke_uses_at_most_one (request : ActionRequest) (context : ConversionContext)
    (world : World) :
    (∃ fault, request.Refuses context fault ∧
      request.invoke context world = (.error fault, world) ∧
      request.invoke context.metered world = (.error fault, world)) ∨
    ∃ event action, context.registry.Offers request.object event action ∧
      request.invoke context world = action.perform request.object world ∧
      request.invoke context.metered world =
        ((request.invoke context world).1,
          { (request.invoke context world).2 with journal := world.journal ++ [event] }) := by
  have decides := request.action?_decides context
  unfold invoke
  generalize request.action? context = decision at decides
  generalize request.action? context.metered = meteredDecision at decides
  cases decides with
  | refused reason => exact .inl ⟨_, reason, rfl, rfl⟩
  | granted offered metered =>
      exact .inr ⟨_, _, offered, rfl, congrFun (metered request.object) world⟩

end ActionRequest

end MachineConsole
