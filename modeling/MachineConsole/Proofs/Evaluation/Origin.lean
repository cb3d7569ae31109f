import MachineConsole.Proofs.Evaluation.Replacement

/-!
Contract: the variable for the directory of the running script, in the course of an evaluation.

Owns:
- `Console.origin?`, what the variable stands for, and which name and which capture are for it;
- `OriginCourse`: what evaluation does to a console, with a mark for whether the variable is rebound
  on the way, other than on account of a script;
- `OriginCourse.origin?` and `OriginCourse.named`: a course without the mark leaves the variable
  alone, and one with it begins during a capture for the variable or has an invocation in it that
  names it;
- `Rebound`: there are courses from one console to another, and all of them have the mark;
- `not_rebound_of_dispatched`: the history shows that the variable is not rebound, when no invocation
  in it can be for a variable;
- `run_leavesCourse`: whatever the evaluator does is a course.

That an invocation assigns the variable, or begins a capture for it, is said of what it is handed to:
the command with a form for a store, or an assignment by a sign. It does that over whatever evaluator,
so nothing that is evaluated on account of an invocation counts as what the invocation does.

Does not own: which names of a line stand for the variable, which is `MachineConsole.Session.Scope`,
or the lines of a script, which are `MachineConsole.Proofs.Evaluation.ScriptOrigin`.
-/

namespace MachineConsole

open Eval

/-! ### The variable -/

/-- The store and the full name that a value is being captured for. -/
def Capture.target? : Capture → Option (StoreKind × String)
  | .off => none
  | .awaiting name kind => some (kind, name)
  | .body name kind _ => some (kind, name)

namespace Session

/-- Whether a full name in a store is that of the variable. -/
def isOrigin (kind : StoreKind) (fullName : String) : Bool :=
  decide (kind = .variables ∧ fullName = originName)

/-- Whether a capture is active for the variable. -/
def capturesOrigin (session : Session) : Bool :=
  session.capture.target?.any fun target => isOrigin target.1 target.2

/-- Whether a line ends a capture for the variable: it closes the block, or does not open one. -/
def endsOriginCapture (session : Session) (line : String) : Bool :=
  session.capturesOrigin && !(session.feed line).2.capture.isActive

variable {session fed : Session} {kind : StoreKind} {name line : String}

/-- What a line makes of a session in which a value is being captured for a name. -/
inductive Fed (session : Session) (kind : StoreKind) (name : String) : Session → Prop where
  | goesOn (lines : List String) :
      Fed session kind name (session.withCapture (.body name kind lines))
  | filled (value : Token) :
      Fed session kind name
        ((session.withCapture .off).updateStore kind fun entries => entries.insert name value)
  | abandoned :
      Fed session kind name
        ((session.withCapture .off).updateStore kind fun entries => entries.erase name)

theorem fed_feedBlock (session : Session) (kind : StoreKind) (name : String)
    (lines : List String) (line : String) :
    session.Fed kind name (session.feedBlock name kind lines line) := by
  unfold feedBlock
  split
  · exact .goesOn _
  · exact .filled _

theorem fed_feed (captures : session.capture.target? = some (kind, name)) (line : String) :
    session.Fed kind name (session.feed line).2 := by
  unfold feed
  cases isCapture : session.capture with
  | off =>
      rw [isCapture] at captures
      cases captures
  | awaiting captured store =>
      rw [isCapture] at captures
      cases captures
      dsimp only
      split
      · exact .abandoned
      · split
        · exact .goesOn []
        · exact fed_feedBlock session kind name [] _
  | body captured store lines =>
      rw [isCapture] at captures
      cases captures
      exact fed_feedBlock session kind name lines line

theorem feed_of_target (off : session.capture.target? = none) (line : String) :
    (session.feed line).2 = session := by
  unfold feed
  cases isCapture : session.capture with
  | off => rfl
  | awaiting captured store =>
      rw [isCapture] at off
      cases off
  | body captured store lines =>
      rw [isCapture] at off
      cases off

theorem origin_updateStore {change : VariableStore → VariableStore}
    (other : isOrigin kind name = false)
    (elsewhere : ∀ store : VariableStore, name ≠ originName →
      (change store).get? originName = store.get? originName) :
    (session.updateStore kind change).variableStore.get? originName =
      session.variableStore.get? originName := by
  match kind with
  | .macros => rfl
  | .variables => exact elsewhere _ (by simpa [isOrigin] using other)

theorem origin_insert (other : isOrigin kind name = false) (value : Token) :
    (session.updateStore kind fun entries => entries.insert name value).variableStore.get?
        originName = session.variableStore.get? originName :=
  origin_updateStore other fun store different =>
    (store.get?_insert name originName value).trans (if_neg different)

theorem origin_erase (other : isOrigin kind name = false) :
    (session.updateStore kind fun entries => entries.erase name).variableStore.get? originName =
      session.variableStore.get? originName :=
  origin_updateStore other fun store different =>
    (store.get?_erase name originName).trans (if_neg different)

theorem origin_bindOrigin (session : Session) (origin? : Option Token) :
    (session.bindOrigin origin?).variableStore.get? originName = origin? := by
  cases origin? with
  | none => exact (VariableStore.get?_erase _ _ _).trans (if_pos rfl)
  | some origin => exact (VariableStore.get?_insert _ _ _ _).trans (if_pos rfl)

theorem origin_reset (session : Session) (workingDirectory : String) :
    (session.reset workingDirectory).variableStore.get? originName =
      session.variableStore.get? originName := by
  rw [reset_variables, if_neg (by decide), if_pos rfl]

/-- Only the end of a capture for the variable rebinds it. -/
theorem origin_of_fed (captures : session.capture.target? = some (kind, name))
    (fedFor : session.Fed kind name fed)
    (goesOn : (session.capturesOrigin && !fed.capture.isActive) = false) :
    fed.variableStore.get? originName = session.variableStore.get? originName := by
  have ended (off : fed.capture = .off) : isOrigin kind name = false := by
    simpa [capturesOrigin, captures, off, Capture.isActive] using goesOn
  cases fedFor with
  | goesOn lines => rfl
  | filled value => exact origin_insert (ended (capture_updateStore _ kind _)) value
  | abandoned => exact origin_erase (ended (capture_updateStore _ kind _))

theorem origin_feed (goesOn : session.endsOriginCapture line = false) :
    (session.feed line).2.variableStore.get? originName =
      session.variableStore.get? originName := by
  cases captures : session.capture.target? with
  | none => rw [feed_of_target captures]
  | some target => exact origin_of_fed captures (fed_feed captures line) goesOn

theorem capturesOrigin_congr (same : fed.capture = session.capture) :
    fed.capturesOrigin = session.capturesOrigin := by
  unfold capturesOrigin
  rw [same]

/-- A line begins no capture. -/
theorem capturesOrigin_of_feed (captures : (session.feed line).2.capturesOrigin = true) :
    session.capturesOrigin = true := by
  cases isTarget : session.capture.target? with
  | none => rwa [feed_of_target isTarget] at captures
  | some target =>
      have fedFor := fed_feed isTarget line
      generalize (session.feed line).2 = fed at captures fedFor
      unfold capturesOrigin at captures ⊢
      rw [isTarget]
      cases fedFor with
      | goesOn lines => exact captures
      | filled value =>
          rw [capture_updateStore] at captures
          cases captures
      | abandoned =>
          rw [capture_updateStore] at captures
          cases captures

end Session

namespace Console

/-- What the variable for the directory of the running script stands for. -/
def origin? (console : Console) : Option Token :=
  console.session.variableStore.get? Session.originName

/-- The console with the variable bound, or unbound. -/
def withOrigin (origin? : Option Token) (console : Console) : Console :=
  console.updateSession fun session => session.bindOrigin origin?

theorem origin?_withOrigin (origin? : Option Token) (console : Console) :
    (console.withOrigin origin?).origin? = origin? :=
  console.session.origin_bindOrigin origin?

theorem origin?_noticeReplacement (console : Console) :
    console.noticeReplacement.origin? = console.origin? := by
  unfold noticeReplacement
  dsimp only
  split
  · rfl
  · exact console.session.origin_reset console.workingDirectory

theorem origin?_storeValue {console : Console} {kind : StoreKind} {name : String}
    (other : Session.isOrigin kind (console.scopes.qualify name) = false) (value : Token) :
    (console.storeValue kind name value).origin? = console.origin? :=
  Session.origin_insert other value

theorem origin?_switchMachine (console : Console) (machine? : Option MachineHandle) :
    (console.switchMachine machine?).origin? = console.origin? := by
  cases machine? with
  | none => rfl
  | some machine => rfl

end Console

/-! ### Courses -/

namespace Console

/-- Once it is in the history, an invocation is for a value of this name in this store, and handing it
over has this effect and no other, over whatever evaluator. -/
structure OnlyStores (console : Console) (invocation : List Token) (kind : StoreKind) (name : String)
    (effect : Console → Console) : Prop where
  isFor : (console.record (.dispatched invocation)).StoresFor invocation kind name
  does : OnlyDoes (handOver · invocation) (console.record (.dispatched invocation)) effect

/-- An invocation is for a value of the variable, which it assigns or begins a capture for. -/
def NamesOrigin (console : Console) (invocation : List Token) : Prop :=
  ∃ kind name, Session.isOrigin kind (console.scopes.qualify name) = true ∧
    (console.record (.dispatched invocation)).StoresFor invocation kind name

/-- Nothing was taken out of the history, and the commands are the same. -/
structure Precedes (before after : Console) : Prop where
  history : before.history <+: after.history
  commands : after.commands = before.commands

namespace Precedes

variable {before between after : Console}

theorem refl (console : Console) : console.Precedes console :=
  ⟨List.prefix_rfl, rfl⟩

theorem trans (earlier : before.Precedes between) (later : between.Precedes after) :
    before.Precedes after :=
  ⟨earlier.history.trans later.history, later.commands.trans earlier.commands⟩

theorem record (console : Console) (event : Event) : console.Precedes (console.record event) :=
  ⟨List.prefix_append _ _, rfl⟩

theorem change (change : Change before after) : before.Precedes after := by
  refine ⟨?_, (SameEquipment.change change).commands⟩
  rcases change.course with ⟨event, _, rfl⟩ | rfl | same
  · exact List.prefix_append _ _
  · exact List.prefix_append _ _
  · exact same.history ▸ List.prefix_rfl

theorem switched (console : Console) (machine? : Option MachineHandle) :
    console.Precedes (console.switchMachine machine?) := by
  refine ⟨?_, (SameEquipment.switched console machine?).commands⟩
  cases machine? with
  | none => exact List.prefix_rfl
  | some machine => exact List.prefix_append _ _

end Precedes

end Console

/-- What evaluation does to a console. The mark tells whether the variable for the directory of the
running script is rebound on the way: assigned, or bound or unbound at the end of a capture. What is
done to it within a script does not count, as the script undoes it. -/
inductive OriginCourse : Console → Bool → Console → Prop where
  | refl (console : Console) : OriginCourse console false console
  | unstored {before after : Console} (change : Change before after)
      (stores : before.SameStores after) : OriginCourse before false after
  | noticed (console : Console) : OriginCourse console false console.noticeReplacement
  /-- A line is offered to the capture. -/
  | fed (console : Console) (line : String) :
      OriginCourse console (console.session.endsOriginCapture line)
        (console.updateSession fun session => (session.feed line).2)
  | dispatched (console : Console) (invocation : List Token) :
      OriginCourse console false (console.record (.dispatched invocation))
  /-- An invocation is dispatched that stores a value. -/
  | stored {console : Console} {invocation : List Token} {kind : StoreKind} {name : String}
      {value : Token}
      (stores : console.OnlyStores invocation kind name (·.storeValue kind name value)) :
      OriginCourse console (Session.isOrigin kind (console.scopes.qualify name))
        ((console.record (.dispatched invocation)).storeValue kind name value)
  /-- An invocation is dispatched that begins a capture. -/
  | captured {console : Console} {invocation : List Token} {kind : StoreKind} {name : String}
      {opened : Bool}
      (captures : console.OnlyStores invocation kind name (·.beginCapture kind name opened)) :
      OriginCourse console false
        ((console.record (.dispatched invocation)).beginCapture kind name opened)
  | trans {before between after : Console} {first second : Bool}
      (earlier : OriginCourse before first between) (later : OriginCourse between second after) :
      OriginCourse before (first || second) after
  /-- Something one level deeper. -/
  | deeper {before after : Console} {rebound : Bool}
      (inside : OriginCourse before.descend rebound after) : OriginCourse before rebound after.ascend
  /-- A script with the variable for its directory bound, and bound as before afterwards. -/
  | script {before after : Console} {rebound : Bool} (directory : String)
      (inside : OriginCourse (before.withOrigin (some (Token.path directory))) rebound after) :
      OriginCourse before false (after.withOrigin before.origin?)
  /-- A machine is selected for its reset macro, or again after one. -/
  | switched (console : Console) (machine? : Option MachineHandle) :
      OriginCourse console false (console.switchMachine machine?)

namespace OriginCourse

variable {before after : Console} {rebound : Bool}

/-- Unless it is rebound on the way, the variable stands for what it did. -/
theorem origin? (course : OriginCourse before rebound after) (kept : rebound = false) :
    after.origin? = before.origin? := by
  induction course with
  | refl => rfl
  | unstored _ stores => exact congrArg (·.get? Session.originName) stores.values
  | noticed console => exact console.origin?_noticeReplacement
  | fed console line => exact Session.origin_feed kept
  | dispatched => rfl
  | @stored console invocation kind name value _ =>
      let entered := console.record (.dispatched invocation)
      exact (Console.origin?_storeValue kept value : _ = entered.origin?)
  | captured => rfl
  | trans _ _ earlierKeeps laterKeeps =>
      obtain ⟨first, second⟩ := Bool.or_eq_false_iff.mp kept
      exact (laterKeeps second).trans (earlierKeeps first)
  | deeper _ insideKeeps => exact insideKeeps kept
  | script directory => exact Console.origin?_withOrigin _ _
  | switched console machine? => exact console.origin?_switchMachine machine?

/-- What was entered into the history stays there, and no command is replaced. -/
theorem precedes (course : OriginCourse before rebound after) : before.Precedes after := by
  induction course with
  | refl console => exact .refl console
  | unstored change _ => exact .change change
  | noticed console => exact .change (.noticed console)
  | fed console line => exact .change (.fed console line)
  | dispatched console invocation => exact .record console _
  | stored => exact ⟨List.prefix_append _ _, rfl⟩
  | captured => exact ⟨List.prefix_append _ _, rfl⟩
  | trans _ _ earlier later => exact earlier.trans later
  | deeper _ inside =>
      exact ⟨(List.prefix_append _ _).trans inside.history, inside.commands⟩
  | script _ _ inside => exact ⟨inside.history, inside.commands⟩
  | switched console machine? => exact .switched console machine?

/-- On the way from one console to another, an invocation is dispatched that names the variable. -/
def Named (before after : Console) : Prop :=
  ∃ (console : Console) (invocation : List Token), before.Precedes console ∧
    (console.record (.dispatched invocation)).Precedes after ∧ console.NamesOrigin invocation

theorem Named.mono {start finish : Console} (names : Named before after)
    (earlier : start.Precedes before) (later : after.Precedes finish) : Named start finish := by
  obtain ⟨console, invocation, since, afterwards, naming⟩ := names
  exact ⟨console, invocation, earlier.trans since, afterwards.trans later, naming⟩

/-- The variable is rebound, or a capture is begun for it, only where an invocation names it or such
a capture is active. -/
theorem named (course : OriginCourse before rebound after)
    (concerned : rebound = true ∨ after.session.capturesOrigin = true) :
    before.session.capturesOrigin = true ∨ Named before after := by
  -- A step that neither rebinds the variable nor begins a capture has found the capture active.
  have found {console : Console} (concerned : false = true ∨ console.session.capturesOrigin = true) :
      console.session.capturesOrigin = true :=
    concerned.resolve_left Bool.false_ne_true
  induction course with
  | refl => exact .inl (found concerned)
  | unstored _ stores =>
      exact .inl (Session.capturesOrigin_congr stores.capture ▸ found concerned)
  | noticed console =>
      have captures := found concerned
      unfold Console.noticeReplacement at captures
      dsimp only at captures
      split at captures
      · exact .inl captures
      · cases captures
  | fed console line =>
      cases concerned with
      | inl ends => exact .inl (Bool.and_eq_true_iff.mp ends).1
      | inr captures => exact .inl (Session.capturesOrigin_of_feed captures)
  | dispatched => exact .inl (found concerned)
  | @stored console invocation kind name value stores =>
      cases concerned with
      | inl isOrigin =>
          exact .inr ⟨console, invocation, .refl console, ⟨List.prefix_rfl, rfl⟩, kind, name,
            isOrigin, stores.isFor⟩
      | inr captures =>
          have same : ((console.record (.dispatched invocation)).storeValue kind name
              value).session.capture = console.session.capture :=
            Session.capture_updateStore _ kind _
          exact .inl (Session.capturesOrigin_congr same ▸ captures)
  | @captured console invocation kind name opened captures =>
      have isOrigin : Session.isOrigin kind (console.scopes.qualify name) = true := by
        cases opened with
        | true => exact found concerned
        | false => exact found concerned
      exact .inr ⟨console, invocation, .refl console, ⟨List.prefix_rfl, rfl⟩, kind, name, isOrigin,
        captures.isFor⟩
  | @trans before between after first second earlier later earlierNamed laterNamed =>
      have atBetween (concerned : first = true ∨ between.session.capturesOrigin = true) :
          before.session.capturesOrigin = true ∨ Named before after :=
        (earlierNamed concerned).imp_right fun names =>
          names.mono (.refl before) later.precedes
      rw [Bool.or_eq_true, or_assoc] at concerned
      cases concerned with
      | inl isFirst => exact atBetween (.inl isFirst)
      | inr isLater =>
          cases laterNamed isLater with
          | inl captures => exact atBetween (.inr captures)
          | inr names => exact .inr (names.mono earlier.precedes (.refl after))
  | deeper _ insideNamed =>
      exact (insideNamed concerned).imp_right fun names =>
        names.mono ⟨List.prefix_append _ _, rfl⟩ ⟨List.prefix_rfl, rfl⟩
  | script _ _ insideNamed =>
      exact (insideNamed (.inr (found concerned))).imp_right fun names =>
        names.mono ⟨List.prefix_rfl, rfl⟩ ⟨List.prefix_rfl, rfl⟩
  | switched console machine? =>
      cases machine? with
      | none => exact .inl (found concerned)
      | some machine => exact .inl (found concerned)

end OriginCourse

/-! ### Rebinding -/

/-- Evaluation leads from one console to another by way of rebinding the variable, and in no other
way. -/
structure Rebound (before after : Console) : Prop where
  course : OriginCourse before true after
  always : ¬ OriginCourse before false after

theorem OriginCourse.not_rebound {before after : Console}
    (course : OriginCourse before false after) : ¬ Rebound before after :=
  fun rebound => rebound.always course

theorem Rebound.named {before after : Console} (rebound : Rebound before after) :
    before.session.capturesOrigin = true ∨ OriginCourse.Named before after :=
  rebound.course.named (.inl rfl)

/-- The invocation that an entry of the history tells of. -/
def Event.invocation? : Event → Option (List Token)
  | .dispatched invocation => some invocation
  | _ => none

/-- The invocations that were dispatched on the way from one console to another. -/
def Console.dispatchedUntil (before after : Console) : List (List Token) :=
  (after.history.drop before.history.length).filterMap Event.invocation?

theorem OriginCourse.Named.dispatched {before after : Console} (names : Named before after) :
    ∃ invocation ∈ before.dispatchedUntil after, before.mayStore .variables invocation = true := by
  obtain ⟨console, invocation, since, afterwards, kind, name, isOrigin, isFor⟩ := names
  obtain ⟨rfl, _⟩ := of_decide_eq_true isOrigin
  refine ⟨invocation, List.mem_filterMap.mpr ⟨.dispatched invocation, ?_, rfl⟩, ?_⟩
  · obtain ⟨between, isBetween⟩ := since.history
    obtain ⟨rest, isRest⟩ := afterwards.history
    rw [← isRest, Console.record, ← isBetween, List.append_assoc, List.append_assoc,
      List.drop_left]
    exact List.mem_append_right _ (List.mem_append_left _ (List.mem_singleton_self _))
  · have may := isFor.mayStore
    unfold Console.mayStore at may ⊢
    rw [← since.commands]
    exact may

/-- Where no capture is active for the variable and no invocation can be for a variable, this one is
not rebound. -/
theorem not_rebound_of_dispatched {before after : Console}
    (uncaptured : before.session.capturesOrigin = false)
    (others : (before.dispatchedUntil after).any (before.mayStore .variables) = false) :
    ¬ Rebound before after := by
  intro rebound
  rcases rebound.named with captures | names
  · rw [uncaptured] at captures
    cases captures
  · obtain ⟨invocation, member, may⟩ := names.dispatched
    rw [List.any_eq_false] at others
    exact others invocation member may

namespace Eval

variable {nested : Nested}

/-! ### Courses of evaluations -/

/-- Leaving a course, as a relation between consoles. -/
def LeavesCourse (before : Console) (_ : Option Stop) (after : Console) : Prop :=
  ∃ rebound, OriginCourse before rebound after

namespace LeavesCourse

variable {before between after : Console} {stop? : Option Stop}

/-- Unless it is rebound, the variable stands for what it did. -/
theorem origin?_or_rebound (leaves : LeavesCourse before stop? after) :
    after.origin? = before.origin? ∨ Rebound before after := by
  obtain ⟨rebound, course⟩ := leaves
  by_cases untouched : OriginCourse before false after
  · exact .inl (untouched.origin? rfl)
  · cases rebound with
    | false => exact absurd course untouched
    | true => exact .inr ⟨course, untouched⟩

theorem trans {earlier? : Option Stop} (earlier : LeavesCourse before earlier? between)
    (later : LeavesCourse between stop? after) : LeavesCourse before stop? after := by
  obtain ⟨_, earlier⟩ := earlier
  obtain ⟨_, later⟩ := later
  exact ⟨_, earlier.trans later⟩

theorem unstored (change : Change before after) (stores : before.SameStores after) :
    LeavesCourse before stop? after :=
  ⟨false, .unstored change stores⟩

theorem switched (console : Console) (machine? : Option MachineHandle) :
    LeavesCourse console stop? (console.switchMachine machine?) :=
  ⟨false, .switched console machine?⟩

theorem nesting : Nesting LeavesCourse LeavesCourse where
  refl console := ⟨false, .refl console⟩
  sequence := trans
  deeper inside := by
    obtain ⟨_, course⟩ := inside
    exact ⟨_, course.deeper⟩

theorem reflexive : Reflexive LeavesCourse where
  refl console := ⟨false, .refl console⟩
  failed console _ := ⟨false, .refl console⟩

theorem internal : Internal LeavesCourse LeavesCourse :=
  { nesting, reflexive with
    unstored := fun change _ stores => unstored change stores
    reentered := fun inside =>
      have entered : LeavesCourse _ none _ := unstored (.reentered _) ⟨rfl, rfl, rfl⟩
      entered.trans inside
    script := by
      rintro before after stop? directory ⟨_, course⟩
      exact ⟨false, .script directory course⟩ }

theorem effecting : Effecting LeavesCourse :=
  { nesting.toSequential, reflexive with
    received := fun receiver supplies => unstored (.received receiver supplies) ⟨rfl, rfl, rfl⟩
    acted := fun console request => unstored (.acted console request) ⟨rfl, rfl, rfl⟩
    extended := fun effect => unstored (.extended effect) ⟨rfl, rfl, rfl⟩
    recovered := id }

theorem delivering : Delivering LeavesCourse LeavesCourse LeavesCourse LeavesCourse :=
  { reflexive with
    internal := internal
    effecting := effecting
    ofWithin := id
    ofWithout := id
    started := fun paused ended => ended.trans (unstored (.paused _ paused) ⟨rfl, rfl, rfl⟩) }

theorem compositional : Compositional LeavesCourse LeavesCourse :=
  { nesting with
    begun := fun console invocations => unstored (.begun console invocations) ⟨rfl, rfl, rfl⟩
    substituted := fun console command => unstored (.substituted console command) ⟨rfl, rfl, rfl⟩
    fetched := fun console uri => unstored (.fetched console uri) ⟨rfl, rfl, rfl⟩
    fed := fun console line => ⟨_, .fed console line⟩
    noticed := fun console => ⟨false, .noticed console⟩
    resetTaken := fun console machine => unstored (.resetTaken console machine) ⟨rfl, rfl, rfl⟩
    reported := fun _ command _ handled => unstored (.reported command handled) ⟨rfl, rfl, rfl⟩
    handedBack := fun console _ _ => ⟨false, .refl console⟩
    resetMacro := fun earlier _ inside =>
      have switchedTo : LeavesCourse _ none _ := switched _ _
      (earlier.trans switchedTo).trans (inside.trans (switched _ _)) }

theorem following : Following LeavesCourse LeavesCourse :=
  ⟨trans, id⟩

end LeavesCourse

/-- What an invocation stores is pinned to its being handed over; anything else it does stores
nothing by itself. -/
theorem dispatch_leavesCourse (nestedEnds : ∀ job run, EndsBy LeavesCourse run (nested job))
    (invocation : List Token) (run : Run) : EndsBy LeavesCourse run (dispatch nested invocation) := by
  obtain ⟨sink, handed⟩ := dispatch_run nested invocation run
  have entered : LeavesCourse run.console none (run.console.record (.dispatched invocation)) :=
    ⟨false, .dispatched run.console invocation⟩
  have handedOver : EndsOrStores LeavesCourse
      ((run.console.record (.dispatched invocation)).StoresFor invocation) nested
      ⟨run.console.record (.dispatched invocation), sink⟩ (handOver · invocation) :=
    handOver_cases LeavesCourse.delivering LeavesCourse.nesting.toSequential nestedEnds
      (dispatched_mem_record run.console invocation)
  unfold EndsBy
  rw [handed]
  cases handedOver with
  | inl ends => exact entered.trans ends
  | inr stores =>
      cases stores with
      | captured opened isFor does =>
          rw [does nested sink]
          exact ⟨_, .captured ⟨isFor, does⟩⟩
      | stored isFor _ _ _ does =>
          rw [does nested sink]
          exact ⟨_, .stored ⟨isFor, does⟩⟩

theorem dispatchAndFollow_leavesCourse
    (nestedEnds : ∀ job run, EndsBy LeavesCourse run (nested job)) (invocation : List Token)
    (run : Run) : EndsBy LeavesCourse run (dispatchAndFollow nested invocation) :=
  dispatchAndFollow_endsBy_of_dispatch LeavesCourse.compositional LeavesCourse.following
    LeavesCourse.reflexive nestedEnds (dispatch_leavesCourse nestedEnds invocation run)

theorem evaluateInvocation_leavesCourse
    (nestedEnds : ∀ job run, EndsBy LeavesCourse run (nested job)) {invocation : List Token}
    (isInvocation : Token.IsInvocation invocation) (run : Run) :
    EndsBy LeavesCourse run (evaluateInvocation nested invocation) :=
  evaluateInvocation_endsBy LeavesCourse.compositional LeavesCourse.nesting.toSequential nestedEnds
    (fun invocation _ => dispatchAndFollow_leavesCourse nestedEnds invocation) isInvocation run

/-- Whatever the evaluator does to a console, and however it ends, is a course. -/
theorem run_leavesCourse (bound : Nat) (job : Job) (start : Run) :
    EndsBy LeavesCourse start (run bound job) :=
  run_endsBy LeavesCourse.compositional (fun console => ⟨false, .refl console⟩)
    (fun _ nestedEnds invocation _ => dispatchAndFollow_leavesCourse nestedEnds invocation) bound
    job start

end Eval

end MachineConsole
