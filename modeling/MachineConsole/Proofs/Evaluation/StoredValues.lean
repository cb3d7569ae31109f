import MachineConsole.Proofs.Evaluation.CurrentMachine
import MachineConsole.Proofs.Session
import MachineConsole.Proofs.Text.Pieces

/-!
Contract: what variables and macros stand for.

Owns:
- `Token.isStorable`: what may be a value, and `IsFullName`;
- `Console.Sound`, the invariant of stores, captures and the history that makes expansion end in one
  pass;
- `stores_sound`: it holds in every session that lines of input lead to from a fresh console.

A value is what was given for it once variables in it were replaced, so every value is one that had
been stored before, or a token of an invocation that is no variable. Invocations that are dispatched
have neither substitutions nor comments or separators in them, and a mark for a block is never stored,
since the command for a store begins a block instead.
-/

namespace MachineConsole

/-! ### Values and names -/

namespace Token

/-- Whether a token may be the value of a variable or of a macro. -/
def isStorable (token : Token) : Bool :=
  match token.kind with
  | .variable _ | .comment _ | .separator | .substitution _ | .terminator => false
  | _ => true

theorem isStorable_iff {token : Token} :
    token.isStorable = true ↔
      token.isOrdinary = true ∧ token.isVariable = false ∧ token.kind ≠ .terminator := by
  unfold isStorable isOrdinary isVariable
  cases token.kind <;> simp

end Token

/-- Whether a name is a scope, a dot and the rest. -/
def IsFullName (name : String) : Prop :=
  '.' ∈ name.toList

theorem Scopes.isFullName_inScope (scope name : String) : IsFullName (inScope scope name) := by
  unfold IsFullName inScope
  simp

theorem Scopes.isFullName_qualify (scopes : Scopes) (name : String) :
    IsFullName (scopes.qualify name) := by
  unfold qualify
  split
  · exact isFullName_inScope _ name
  · next qualified =>
      unfold isBare headAndRest? at qualified
      cases cuts : Text.cut? '.' name.toList with
      | none =>
          rw [cuts] at qualified
          exact absurd rfl qualified
      | some parts => exact Text.mem_of_cut? cuts

/-! ### Stores -/

namespace VariableStore

/-- Every name is a full one and every value may be one. -/
def Sound (store : VariableStore) : Prop :=
  ∀ name value, store.get? name = some value → IsFullName name ∧ value.isStorable = true

variable {store : VariableStore}

theorem empty_sound : empty.Sound := by
  intro name value found
  rw [get?_empty] at found
  cases found

theorem Sound.insert (sound : store.Sound) {inserted : String} {value : Token}
    (isFull : IsFullName inserted) (isStorable : value.isStorable = true) :
    (store.insert inserted value).Sound := by
  intro name found isFound
  rw [get?_insert] at isFound
  split at isFound
  · next same =>
      cases isFound
      exact ⟨same ▸ isFull, isStorable⟩
  · exact sound name found isFound

theorem Sound.erase (sound : store.Sound) (erased : String) : (store.erase erased).Sound := by
  intro name found isFound
  unfold get? VariableStore.erase at isFound
  rw [Std.TreeMap.getElem?_erase] at isFound
  split at isFound
  · cases isFound
  · exact sound name found isFound

theorem Sound.of_lookup? (sound : store.Sound) {scopes : Scopes} {name : String}
    {entry : String × Token} (found : store.lookup? scopes name = some entry) :
    entry.2.isStorable = true := by
  unfold lookup? at found
  obtain ⟨candidate, _, stored⟩ := List.exists_of_findSome?_eq_some found
  obtain ⟨value, isValue, rfl⟩ := Option.map_eq_some_iff.mp stored
  exact (sound candidate value isValue).2

/-- One pass of expansion leaves no variable. What it makes of a token may be stored, unless it is
the token itself. -/
theorem Sound.expand (sound : store.Sound) {scopes : Scopes} {token value : Token}
    (expanded : store.expand scopes token = .ok value) :
    value.isStorable = true ∨ value = token ∧ token.isVariable = false := by
  unfold VariableStore.expand at expanded
  unfold Token.isVariable
  cases isKind : token.kind with
  | «variable» name =>
      rw [isKind] at expanded
      dsimp only at expanded
      cases found : store.lookup? scopes name with
      | none =>
          rw [found] at expanded
          cases expanded
      | some entry =>
          rw [found] at expanded
          cases expanded
          exact Or.inl (sound.of_lookup? found)
  | _ =>
      rw [isKind] at expanded
      cases expanded
      exact Or.inr ⟨rfl, rfl⟩

end VariableStore

/-! ### Sessions -/

namespace Session

/-- Both stores are sound, and the name that a value is being captured for is a full one. -/
structure Sound (session : Session) : Prop where
  values : session.variableStore.Sound
  macros : session.macroStore.Sound
  awaiting : ∀ name kind, session.capture = .awaiting name kind → IsFullName name
  body : ∀ name kind lines, session.capture = .body name kind lines → IsFullName name

variable {session : Session}

theorem Sound.store (sound : session.Sound) (kind : StoreKind) : (session.store kind).Sound :=
  match kind with
  | .variables => sound.values
  | .macros => sound.macros

theorem Sound.updateStore (sound : session.Sound) {kind : StoreKind}
    {change : VariableStore → VariableStore} (changed : (change (session.store kind)).Sound) :
    (session.updateStore kind change).Sound :=
  match kind with
  | .variables => { sound with values := changed }
  | .macros => { sound with macros := changed }

theorem Sound.bindOrigin (sound : session.Sound) {origin? : Option Token}
    (storable : ∀ origin, origin? = some origin → origin.isStorable = true) :
    (session.bindOrigin origin?).Sound := by
  apply sound.updateStore
  cases origin? with
  | some origin =>
      exact sound.values.insert (Scopes.isFullName_inScope _ _) (storable origin rfl)
  | none => exact sound.values.erase originName

theorem Sound.uncapture (sound : session.Sound) : (session.withCapture .off).Sound :=
  ⟨sound.values, sound.macros, nofun, nofun⟩

theorem Sound.feedBlock (sound : session.Sound) {name : String} (isFull : IsFullName name)
    (kind : StoreKind) (lines : List String) (line : String) :
    (session.feedBlock name kind lines line).Sound := by
  unfold Session.feedBlock
  split
  · refine ⟨sound.values, sound.macros, nofun, ?_⟩
    rintro _ _ _ ⟨⟩
    exact isFull
  · apply sound.uncapture.updateStore
    exact (sound.uncapture.store kind).insert isFull rfl

/-- A line that is offered to a capture leaves the session sound, whatever becomes of it. -/
theorem Sound.feed (sound : session.Sound) (line : String) : (session.feed line).2.Sound := by
  unfold Session.feed
  split
  · exact sound
  · next name kind isAwaiting =>
      have isFull := sound.awaiting name kind isAwaiting
      split
      · dsimp only
        apply sound.uncapture.updateStore
        exact (sound.uncapture.store kind).erase name
      · split
        · refine ⟨sound.values, sound.macros, nofun, ?_⟩
          rintro _ _ _ ⟨⟩
          exact isFull
        · exact sound.feedBlock isFull kind [] _
  · next name kind lines isBody =>
      exact sound.feedBlock (sound.body name kind lines isBody) kind lines line

theorem Sound.reset (sound : session.Sound) (workingDirectory : String) :
    (session.reset workingDirectory).Sound := by
  refine ⟨?_, VariableStore.empty_sound, nofun, nofun⟩
  apply VariableStore.Sound.insert _ (Scopes.isFullName_inScope _ _) rfl
  cases isOrigin : session.variableStore.get? originName with
  | none => exact VariableStore.empty_sound
  | some origin =>
      obtain ⟨isFull, isStorable⟩ := sound.values originName origin isOrigin
      exact VariableStore.empty_sound.insert isFull isStorable

theorem create_sound (settings : Settings) (workingDirectory : String) :
    (create settings workingDirectory).Sound where
  values := VariableStore.empty_sound.insert (Scopes.isFullName_inScope _ _) rfl
  macros := VariableStore.empty_sound
  awaiting := nofun
  body := nofun

end Session

/-! ### Consoles -/

/-- What is dispatched can be, and what objects and hosts receive has neither variables nor
substitutions in it. -/
def Event.Sound : Event → Prop
  | .dispatched invocation => Token.AreDispatchable invocation
  | .received _ arguments =>
    ∀ argument ∈ arguments, argument.isVariable = false ∧ argument.isOrdinary = true
  | _ => True

namespace Console

structure Sound (console : Console) : Prop where
  session : console.session.Sound
  history : ∀ event ∈ console.history, event.Sound

variable {console : Console}

theorem Sound.record (sound : console.Sound) {event : Event} (isSound : event.Sound) :
    (console.record event).Sound := by
  refine ⟨sound.session, ?_⟩
  intro other member
  cases List.mem_append.mp member with
  | inl earlier => exact sound.history other earlier
  | inr isEvent => exact List.mem_singleton.mp isEvent ▸ isSound

theorem Sound.updateSession (sound : console.Sound) {change : Session → Session}
    (changed : (change console.session).Sound) : (console.updateSession change).Sound :=
  ⟨changed, sound.history⟩

theorem Sound.descend (sound : console.Sound) : console.descend.Sound := by
  have deepened : ({ console with depth := console.depth + 1 } : Console).Sound :=
    ⟨sound.session, sound.history⟩
  exact deepened.record trivial

theorem Sound.ascend (sound : console.Sound) : console.ascend.Sound :=
  ⟨sound.session, sound.history⟩

theorem Sound.bindOrigin (sound : console.Sound) {origin? : Option Token}
    (storable : ∀ origin, origin? = some origin → origin.isStorable = true) :
    (console.updateSession fun session => session.bindOrigin origin?).Sound :=
  sound.updateSession (sound.session.bindOrigin storable)

theorem Sound.switchMachine (sound : console.Sound) (machine? : Option MachineHandle) :
    (console.switchMachine machine?).Sound := by
  have selected : (console.selectMachine machine?).Sound :=
    ⟨⟨sound.session.values, sound.session.macros, sound.session.awaiting, sound.session.body⟩,
      sound.history⟩
  cases machine? with
  | none => exact selected
  | some machine => exact selected.record trivial

/-- Expansion makes a value of a token that may be dispatched. -/
theorem Sound.expand (sound : console.Sound) {token value : Token}
    (ordinary : token.isOrdinary = true) (expanded : console.expand token = .ok value) :
    value.isVariable = false ∧ value.isOrdinary = true := by
  obtain storable | ⟨rfl, isOther⟩ := sound.session.values.expand expanded
  · obtain ⟨isOrdinary, isOther, _⟩ := Token.isStorable_iff.mp storable
    exact ⟨isOther, isOrdinary⟩
  · exact ⟨isOther, ordinary⟩

/-- What invocations bring with them is no substitution, no comment and no separator. -/
theorem Sound.isOrdinary_of_supplied (sound : console.Sound) {token : Token}
    (supplied : console.Supplied token) : token.isOrdinary = true := by
  induction supplied with
  | own dispatched member => exact sound.history _ dispatched _ member
  | word text => rfl
  | value _ expanded inductionHypothesis => exact (sound.expand inductionHypothesis expanded).2

theorem Sound.received (sound : console.Sound) (receiver : Receiver) {arguments : List Token}
    (supplies : console.SuppliesExpanded arguments) :
    (Event.received receiver arguments).Sound := by
  intro argument member
  obtain ⟨token, supplied, expanded⟩ := supplies argument member
  exact sound.expand (sound.isOrdinary_of_supplied supplied) expanded

/-- What a supplied token stands for may be stored, unless the token is a mark. -/
theorem Sound.isStorable (sound : console.Sound) {token value : Token}
    (supplied : console.Supplied token) (unmarked : token.kind ≠ .terminator)
    (expanded : console.expand token = .ok value) : value.isStorable = true := by
  obtain storable | ⟨rfl, isOther⟩ := sound.session.values.expand expanded
  · exact storable
  · exact Token.isStorable_iff.mpr ⟨sound.isOrdinary_of_supplied supplied, isOther, unmarked⟩

end Console

/-- No change breaks the invariant. -/
theorem Change.sound {before after : Console} (change : Change before after)
    (sound : before.Sound) : after.Sound := by
  obtain ⟨⟨values, macros, awaiting, body⟩, history⟩ := sound
  have sound : before.Sound := ⟨⟨values, macros, awaiting, body⟩, history⟩
  cases change with
  | begun invocations => exact sound.record trivial
  | substituted command => exact sound.record trivial
  | deepened => exact sound.record trivial
  | reentered => exact sound.record trivial
  | reported command handled => exact sound.record trivial
  | received receiver supplies => exact sound.record (sound.received receiver supplies)
  | quit =>
      have asked : before.withQuit.Sound := ⟨⟨values, macros, awaiting, body⟩, history⟩
      exact asked.record trivial
  | fed line => exact sound.updateSession (sound.session.feed line)
  | captured kind name opened =>
      have isFull := before.scopes.isFullName_qualify name
      cases opened with
      | true => exact ⟨⟨values, macros, nofun, by rintro _ _ _ ⟨⟩; exact isFull⟩, history⟩
      | false => exact ⟨⟨values, macros, by rintro _ _ ⟨⟩; exact isFull, nofun⟩, history⟩
  | stored kind name supplied unmarked expanded =>
      apply sound.updateSession
      apply sound.session.updateStore
      exact (sound.session.store kind).insert (before.scopes.isFullName_qualify name)
        (sound.isStorable supplied unmarked expanded)
  | removed removes =>
      unfold Console.withoutMachine
      dsimp only
      split
      · exact ⟨⟨values, macros, awaiting, body⟩, history⟩
      · exact ⟨⟨values, macros, awaiting, body⟩, history⟩
  | noticed =>
      unfold Console.noticeReplacement
      dsimp only
      split
      · exact sound
      · exact ⟨sound.session.reset _, history⟩
  | _ => exact ⟨⟨values, macros, awaiting, body⟩, history⟩

/-! ### Evaluations -/

namespace Eval

/-- The invariant is kept. -/
def KeepsSound (before : Console) (_ : Option Stop) (after : Console) : Prop :=
  before.Sound → after.Sound

theorem KeepsSound.lawful : Lawful KeepsSound KeepsSound where
  refl _ := id
  sequence first second sound := second (first sound)
  deeper inside sound := (inside sound.descend).ascend
  failed _ _ := id
  change changes _ := changes.sound
  reentered inside sound := inside (sound.record trivial)
  script directory inside sound := by
    have isPath : ∀ origin, some (Token.path directory) = some origin →
        origin.isStorable = true := by
      rintro _ ⟨⟩
      rfl
    -- What is bound again afterwards had been stored before the script.
    exact (inside (sound.bindOrigin isPath)).bindOrigin fun origin isOrigin =>
      (sound.session.values _ origin isOrigin).2
  effect changes := changes.sound
  recovered := id

theorem KeepsSound.compositional : Compositional KeepsSound KeepsSound := by
  apply KeepsSound.lawful.compositional
  intro start before after machine stop? earlier _ inside sound
  exact (inside ((earlier sound).switchMachine _)).switchMachine _

theorem run_keepsSound (bound : Nat) (job : Job) (start : Run) :
    EndsBy KeepsSound start (run bound job) := by
  apply run_endsBy KeepsSound.compositional fun _ => id
  intro bound nestedEnds invocation dispatchable
  apply dispatchAndFollow_endsBy KeepsSound.lawful KeepsSound.compositional
    KeepsSound.lawful.toSequential nestedEnds KeepsSound.lawful.following
  exact fun console sound => sound.record dispatchable

theorem Reached.sound {start after : Run} (reached : Reached start after)
    (sound : start.console.Sound) : after.console.Sound := by
  induction reached with
  | start => exact sound
  | line _ sink bound line _ inductionHypothesis =>
      exact run_keepsSound bound (.line line) _ inductionHypothesis

end Eval

/-! ### Sessions that lines of input lead to -/

/-- The session is a new one and nothing was evaluated yet. -/
structure Console.IsFresh (console : Console) : Prop where
  session : ∃ settings workingDirectory, console.session = Session.create settings workingDirectory
  history : console.history = []

theorem Console.IsFresh.sound {console : Console} (fresh : console.IsFresh) : console.Sound := by
  obtain ⟨settings, workingDirectory, isNew⟩ := fresh.session
  refine ⟨isNew ▸ Session.create_sound settings workingDirectory, ?_⟩
  rw [fresh.history]
  exact fun _ member => nomatch member

theorem Shell.freshRun_isFresh (world : World) (settings : Settings) :
    (Shell.freshRun world settings).console.IsFresh :=
  ⟨⟨settings, _, rfl⟩, rfl⟩

namespace Eval

/-- Whatever lines a fresh console was given, every variable and every macro has a full name, and no
value is a variable, a substitution, a mark, a comment or a separator. Hence expansion leaves no
variable behind, and neither variables nor substitutions ever reached an object or the scripting
host. -/
theorem stores_sound {start after : Run} (fresh : start.console.IsFresh)
    (reached : Reached start after) :
    (∀ kind name value, (after.console.session.store kind).get? name = some value →
      IsFullName name ∧ value.isStorable = true) ∧
    (∀ tokens expanded, after.console.expandAll tokens = .ok expanded →
      ∀ value ∈ expanded, value.isVariable = false) ∧
    ∀ receiver arguments, Event.received receiver arguments ∈ after.console.history →
      ∀ argument ∈ arguments, argument.isVariable = false ∧ argument.isOrdinary = true := by
  have sound := reached.sound fresh.sound
  refine ⟨fun kind => sound.session.store kind, ?_, fun _ _ => sound.history _⟩
  intro tokens expanded isExpanded value member
  obtain ⟨token, _, stands⟩ := mem_of_expandAll isExpanded value member
  obtain storable | ⟨rfl, isOther⟩ := sound.session.values.expand stands
  · exact (Token.isStorable_iff.mp storable).2.1
  · exact isOther

/-- A variable with the value of another one, handed to a machine. -/
def copyingLines : List String :=
  ["machine $copy", "mach create \"a\"", "set copy $action", "set action \"Reset\""]

/-- Whether an entry tells that the text that the copied variable stands for was handed over. -/
def isReceipt : Event → Bool
  | .received _ arguments => arguments == [Token.string "Reset"]
  | _ => false

theorem stores_sound_copied :
    (∃ value, ((afterLines copyingLines).console.session.store .variables).get? "global.copy" =
      some value ∧ value.isStorable = true) ∧
    (afterLines copyingLines).console.history.any isReceipt = true ∧
    ∀ receiver arguments,
      Event.received receiver arguments ∈ (afterLines copyingLines).console.history →
        ∀ argument ∈ arguments, argument.isVariable = false ∧ argument.isOrdinary = true := by
  have reached : Reached (afterLines []) (afterLines copyingLines) := by
    apply afterLines_reached
    · apply afterLines_reached
      · apply afterLines_reached
        · exact afterLines_reached Reached.start (by decide +kernel)
        · decide +kernel
      · decide +kernel
    · decide +kernel
  have fresh : (afterLines []).console.IsFresh :=
    Shell.freshRun_isFresh emptyWorld Settings.default
  have copied : ((afterLines copyingLines).console.session.store .variables).get? "global.copy" =
      some (Token.string "Reset") := by
    decide +kernel
  obtain ⟨values, _, received⟩ := stores_sound fresh reached
  exact ⟨⟨_, copied, (values _ _ _ copied).2⟩, by decide +kernel, received⟩

end Eval

end MachineConsole
