import MachineConsole.Console.Evaluation

/-!
Contract: what evaluation can do to a console.

Owns:
- `Console.Supplied`: the tokens that the invocations dispatched so far bring with them;
- `Change`, one case for each thing that a part of the evaluator does to the console, and
  `Change.course`, what each does to the history, the depth and the flags of the session;
- `Trace`, any number of changes and dispatched invocations, with the three places where something
  is undone afterwards.

A property of consoles that every change carries over, and that survives what is undone, holds after
every evaluation that started with it.
-/

namespace MachineConsole

/-! ### What storing and capturing leave alone -/

namespace Session

theorem updateStore_eq (session : Session) (kind : StoreKind)
    (change : VariableStore → VariableStore) :
    ∃ values macros, session.updateStore kind change =
      { session with variableStore := values, macroStore := macros } :=
  match kind with
  | .variables => ⟨change session.variableStore, session.macroStore, rfl⟩
  | .macros => ⟨session.variableStore, change session.macroStore, rfl⟩

theorem feedBlock_eq (session : Session) (name : String) (kind : StoreKind)
    (lines : List String) (line : String) :
    ∃ capture values macros, session.feedBlock name kind lines line =
      { session with capture := capture, variableStore := values, macroStore := macros } := by
  unfold feedBlock
  split
  · exact ⟨_, session.variableStore, session.macroStore, rfl⟩
  · obtain ⟨values, macros, stored⟩ :=
      updateStore_eq { session with capture := .off } kind fun entries =>
        entries.insert name (Token.string (Text.join "\n" _))
    exact ⟨.off, values, macros, stored⟩

theorem feed_eq (session : Session) (line : String) :
    ∃ capture values macros, (session.feed line).2 =
      { session with capture := capture, variableStore := values, macroStore := macros } := by
  unfold feed
  split
  · exact ⟨session.capture, session.variableStore, session.macroStore, rfl⟩
  · next name kind _ =>
      split
      · obtain ⟨values, macros, erased⟩ :=
          updateStore_eq { session with capture := .off } kind fun entries => entries.erase name
        exact ⟨.off, values, macros, erased⟩
      · split
        · exact ⟨_, session.variableStore, session.macroStore, rfl⟩
        · exact feedBlock_eq session name kind [] _
  · next name kind lines _ => exact feedBlock_eq session name kind lines line

end Session

/-! ### Changes -/

namespace Console

/-- The console with another world around it. -/
def withWorld (console : Console) (world : World) : Console :=
  { console with world := world }

/-- The console with another history. -/
def withHistory (console : Console) (history : List Event) : Console :=
  { console with history := history }

/-- What is left of the world by an extension of the console. -/
inductive ExtensionEffect (console : Console) : World → Prop where
  | command {name : String} {added : AddedCommand} (form : String) (arguments : List Token)
      (sink : Sink) (registered : console.commands.get? name = some (.added added)) :
      ExtensionEffect console (added.run form arguments ⟨console.world, sink⟩).2.world
  | file {host : ScriptHost} (path : String) (sink : Sink) (isHost : console.host? = some host) :
      ExtensionEffect console (host.runFile path ⟨console.world, sink⟩).2.world
  | source {host : ScriptHost} (text : String) (sink : Sink)
      (isHost : console.host? = some host) :
      ExtensionEffect console (host.runSource text ⟨console.world, sink⟩).2.world
  | builtin {host : ScriptHost} (name : String) (arguments : List Value) (sink : Sink)
      (isHost : console.host? = some host) :
      ExtensionEffect console (host.runBuiltin name arguments ⟨console.world, sink⟩).2.world

/-- A token that an invocation brings with it: one of its own, a word, or what one of these stands
for. -/
inductive Supplied (console : Console) : Token → Prop where
  | own {invocation : List Token} {token : Token}
      (dispatched : Event.dispatched invocation ∈ console.history)
      (member : token ∈ invocation) : Supplied console token
  | word (text : String) : Supplied console (Token.literal text)
  | value {token value : Token} (supplied : Supplied console token)
      (expanded : console.expand token = .ok value) : Supplied console value

/-- Tokens that stand in the places of supplied ones, once these are expanded. -/
def SuppliesExpanded (console : Console) (arguments : List Token) : Prop :=
  ∀ argument ∈ arguments, ∃ token, console.Supplied token ∧ console.expand token = .ok argument

/-- The console after the removal of a machine, which is not current any more. -/
def withoutMachine (console : Console) (removed : MachineHandle) (emulation : Emulation) :
    Console :=
  let console' := console.withWorld
    (console.world.updateEmulation console.emulationIndex fun _ => emulation)
  if console.session.currentMachine?.any fun machine => machine.name == removed.name then
    console'.selectMachine none
  else console'

end Console

/-- One thing that evaluation does to a console. -/
inductive Change : Console → Console → Prop where
  | begun (console : Console) (invocations : List (List Token)) :
      Change console (console.record (.begun invocations))
  | substituted (console : Console) (command : String) :
      Change console (console.record (.substituted command))
  | deepened (console : Console) : Change console (console.record (.deepened console.depth))
  | reentered (console : Console) : Change console (console.record .reentered)
  | reported {console : Console} {fault : Fault} (command : String)
      (handled : fault.isRecoverable || console.session.consumeExceptions) :
      Change console (console.record (.reported command fault))
  | received {console : Console} {arguments : List Token} (receiver : Receiver)
      (supplies : console.SuppliesExpanded arguments) :
      Change console (console.record (.received receiver arguments))
  /-- An action of an object. -/
  | acted (console : Console) (request : ActionRequest) :
      Change console (console.withWorld (request.invoke console.conversion console.world).2)
  | fetched (console : Console) (uri : String) :
      Change console (console.withWorld (World.fetch uri console.world).2)
  | extended {console : Console} {world : World}
      (effect : console.ExtensionEffect world) : Change console (console.withWorld world)
  /-- A line is offered to the capture. -/
  | fed (console : Console) (line : String) :
      Change console (console.updateSession fun session => (session.feed line).2)
  | captured (console : Console) (kind : StoreKind) (name : String) (opened : Bool) :
      Change console (console.beginCapture kind name opened)
  /-- A mark would have opened a block instead. -/
  | stored {console : Console} {token value : Token} (kind : StoreKind) (name : String)
      (supplied : console.Supplied token) (unmarked : token.kind ≠ .terminator)
      (expanded : console.expand token = .ok value) :
      Change console (console.storeValue kind name value)
  | selected {console : Console} {machine : MachineHandle}
      (present : machine ∈ console.emulation.machines) :
      Change console (console.selectMachine (some machine))
  | deselected (console : Console) : Change console (console.selectMachine none)
  | added {console : Console} {name? : Option String} {machine : MachineHandle} {world : World}
      (creates :
        console.world.addNewMachine console.emulationIndex name? = .ok (machine, world)) :
      Change console (console.withWorld world)
  | created {console : Console} {name? : Option String} {machine : MachineHandle} {world : World}
      (creates :
        console.world.addNewMachine console.emulationIndex name? = .ok (machine, world)) :
      Change console ((console.withWorld world).selectMachine (some machine))
  | removed {console : Console} {name : String} {machine : MachineHandle} {emulation : Emulation}
      (removes : console.emulation.removeMachine name = .ok (machine, emulation)) :
      Change console (console.withoutMachine machine emulation)
  | used (console : Console) (usings : List String) :
      Change console (console.updateSession fun session => { session with usings := usings })
  | setVerbose (console : Console) (verbose : Bool) :
      Change console (console.updateSession fun session => { session with verbose := verbose })
  | setNumberMode (console : Console) (mode : NumberMode) :
      Change console (console.updateSession fun session => { session with numberMode := mode })
  | setPath (console : Console) (path : SearchPath) :
      Change console { console with path := path }
  | paused (console : Console) (paused : Bool) :
      Change console
        (console.withWorld (console.world.setAllPaused console.emulationIndex paused))
  | quit (console : Console) : Change console console.requestQuit
  | noticed (console : Console) : Change console console.noticeReplacement
  | resetTaken (console : Console) (machine : MachineHandle) :
      Change console (console.withWorld (console.world.updateMachine machine fun state =>
        { state with resetRequested := false }))

/-! ### What changes enter into the history -/

/-- Whether an entry tells of an invocation that was dispatched. -/
def Event.isDispatch : Event → Bool
  | .dispatched _ => true
  | _ => false

namespace Console

/-- What is entered into the history by something that changes nothing else. -/
inductive Enters (console : Console) : Event → Prop where
  | begun (invocations : List (List Token)) : console.Enters (.begun invocations)
  | substituted (command : String) : console.Enters (.substituted command)
  | deepened : console.Enters (.deepened console.depth)
  | reentered : console.Enters .reentered
  | reported (command : String) {fault : Fault}
      (handled : fault.isRecoverable || console.session.consumeExceptions) :
      console.Enters (.reported command fault)
  | received (receiver : Receiver) {arguments : List Token}
      (supplies : console.SuppliesExpanded arguments) :
      console.Enters (.received receiver arguments)

/-- What steers an evaluation is the same: the depth, the flags of the session and what was entered
into the history. -/
structure SameCourse (before after : Console) : Prop where
  history : after.history = before.history
  depth : after.depth = before.depth
  consumes : after.session.consumeExceptions = before.session.consumeExceptions
  breaks : after.session.breakOnException = before.session.breakOnException
  quits : after.session.quitRequested = before.session.quitRequested

theorem SameCourse.updateSession {console : Console} {change : Session → Session}
    {capture : Capture} {values macros : VariableStore}
    (changed : change console.session = { console.session with
      capture := capture, variableStore := values, macroStore := macros }) :
    console.SameCourse (console.updateSession change) where
  history := rfl
  depth := rfl
  consumes := (congrArg Session.consumeExceptions changed :)
  breaks := (congrArg Session.breakOnException changed :)
  quits := (congrArg Session.quitRequested changed :)

end Console

namespace Console

/-- What stands for what is the same, and so is the progress of a capture. -/
structure SameStores (before after : Console) : Prop where
  values : after.session.variableStore = before.session.variableStore
  macros : after.session.macroStore = before.session.macroStore
  capture : after.session.capture = before.session.capture

end Console

/-- A change only enters something into the history, or asks the session to end, or leaves alone what
steers an evaluation. -/
theorem Change.course {before after : Console} (change : Change before after) :
    (∃ event, before.Enters event ∧ after = before.record event) ∨
      after = before.requestQuit ∨ before.SameCourse after := by
  cases change with
  | begun invocations => exact Or.inl ⟨_, .begun invocations, rfl⟩
  | substituted command => exact Or.inl ⟨_, .substituted command, rfl⟩
  | deepened => exact Or.inl ⟨_, .deepened, rfl⟩
  | reentered => exact Or.inl ⟨_, .reentered, rfl⟩
  | reported command handled => exact Or.inl ⟨_, .reported command handled, rfl⟩
  | received receiver supplies => exact Or.inl ⟨_, .received receiver supplies, rfl⟩
  | quit => exact Or.inr (Or.inl rfl)
  | fed line =>
      obtain ⟨capture, values, macros, fed⟩ := Session.feed_eq before.session line
      exact Or.inr (Or.inr (Console.SameCourse.updateSession fed))
  | @stored token value kind name supplied unmarked expanded =>
      obtain ⟨values, macros, stored⟩ := Session.updateStore_eq before.session kind
        fun store => store.set before.scopes name value
      exact Or.inr (Or.inr (Console.SameCourse.updateSession stored))
  | removed removes =>
      unfold Console.withoutMachine
      dsimp only
      split
      · exact Or.inr (Or.inr ⟨rfl, rfl, rfl, rfl, rfl⟩)
      · exact Or.inr (Or.inr ⟨rfl, rfl, rfl, rfl, rfl⟩)
  | noticed =>
      unfold Console.noticeReplacement
      dsimp only
      split
      · exact Or.inr (Or.inr ⟨rfl, rfl, rfl, rfl, rfl⟩)
      · exact Or.inr (Or.inr ⟨rfl, rfl, rfl, rfl, rfl⟩)
  | _ => exact Or.inr (Or.inr ⟨rfl, rfl, rfl, rfl, rfl⟩)

/-! ### Traces -/

/-- What a part of an evaluation does to a console. -/
inductive Trace : Console → Console → Prop where
  | refl (console : Console) : Trace console console
  | step {before after : Console} (change : Change before after) : Trace before after
  | trans {before between after : Console} (first : Trace before between)
      (second : Trace between after) : Trace before after
  | dispatched (console : Console) (invocation : List Token) :
      Trace console (console.record (.dispatched invocation))
  /-- Something one level deeper. -/
  | deeper {before after : Console}
      (inside : Trace before.descend after) : Trace before after.ascend
  /-- A script with the variable for its directory bound. -/
  | script {before after : Console} (directory : String)
      (inside : Trace
        (before.updateSession fun session => session.bindOrigin (some (Token.path directory)))
        after) :
      Trace before (after.updateSession fun session =>
        session.bindOrigin (before.session.variableStore.get? Session.originName))
  /-- The reset macro of a machine that was in the emulation when the macros began to be played. -/
  | resetMacro {start before after : Console} {machine : MachineHandle}
      (earlier : Trace start before) (present : machine ∈ start.emulation.machines)
      (inside : Trace (before.switchMachine (some machine)) after) :
      Trace start (after.switchMachine before.session.currentMachine?)

/-- What makes a relation between consoles hold over every trace: no change breaks it, and neither
does anything that is done before or undone after a part of an evaluation. -/
structure Carried (Related : Console → Console → Prop) : Prop where
  refl : ∀ console, Related console console
  trans : ∀ {before between after}, Related before between → Related between after →
    Related before after
  change : ∀ {before after}, Change before after → Related before after
  dispatched : ∀ console invocation, Related console (console.record (.dispatched invocation))
  depth : ∀ console depth, Related console { console with depth := depth }
  origin : ∀ console origin?,
    Related console (console.updateSession fun session => session.bindOrigin origin?)
  switched : ∀ console machine?, Related console (console.switchMachine machine?)

theorem Trace.carried {Related : Console → Console → Prop} (carries : Carried Related)
    {before after : Console} (trace : Trace before after) : Related before after := by
  induction trace with
  | refl console => exact carries.refl console
  | step change => exact carries.change change
  | trans _ _ firstRelated secondRelated => exact carries.trans firstRelated secondRelated
  | dispatched console invocation => exact carries.dispatched console invocation
  | @deeper before after _ insideRelated =>
      have entered : Related before before.descend :=
        carries.trans (carries.depth before (before.depth + 1))
          (carries.change (Change.deepened { before with depth := before.depth + 1 }))
      exact carries.trans entered (carries.trans insideRelated (carries.depth after _))
  | @script before after directory _ insideRelated =>
      exact carries.trans (carries.origin before _)
        (carries.trans insideRelated (carries.origin after _))
  | @resetMacro start before after machine _ _ _ earlierRelated insideRelated =>
      have played := carries.trans (carries.switched before (some machine)) insideRelated
      exact carries.trans (carries.trans earlierRelated played) (carries.switched after _)

end MachineConsole
