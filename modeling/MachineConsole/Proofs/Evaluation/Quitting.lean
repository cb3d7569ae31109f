import MachineConsole.Proofs.Evaluation.CurrentMachine

/-!
Contract: what is still dispatched once the session was asked to end.

Owns:
- `Event.IsOrderly`: histories in which, after the request, an invocation is dispatched only when it
  is the first one of a line or a text whose evaluation was begun after the request;
- `Event.AreFirst`, which says the same by way of places in the history;
- `quit_stops`: this is so of every evaluation; and a text of two lines in which something is
  dispatched after the request.

The request is looked for between the invocations of a line. It is not looked for between the lines
of a text, between reset macros, or before a text is read again.
-/

namespace MachineConsole

/-! ### Histories -/

namespace Event

/-- Whether an entry tells that the session was asked to end. -/
def isQuitRequest : Event → Bool
  | .quitRequested => true
  | _ => false

/-- The invocation that is due: the first one of what was begun last, when none was dispatched since
and the request to end is not more recent. -/
def dueAfter (due? : Option (List Token)) : Event → Option (List Token)
  | .begun invocations => invocations.head?
  | .dispatched _ | .quitRequested => none
  | _ => due?

/-- Whether an entry may be made: once the session is asked to end, only what is due is
dispatched. -/
def IsPermitted (quits : Bool) (due? : Option (List Token)) : Event → Prop
  | .dispatched invocation => quits = true → due? = some invocation
  | _ => True

/-- Whether entries may be made one after the other. -/
def IsOrderly (quits : Bool) (due? : Option (List Token)) : List Event → Prop
  | [] => True
  | event :: rest =>
    event.IsPermitted quits due? ∧
      IsOrderly (quits || event.isQuitRequest) (event.dueAfter due?) rest

/-- Whether the session is asked to end after some entries. -/
def quitsAfter (quits : Bool) (events : List Event) : Bool :=
  quits || events.any isQuitRequest

/-- Every invocation that is dispatched is the first one of what was begun last. -/
def AreFirst (events : List Event) : Prop :=
  ∀ between invocation rest, events = between ++ .dispatched invocation :: rest →
    ∃ earlier invocations later, between = earlier ++ .begun invocations :: later ∧
      invocations.head? = some invocation ∧ ∀ other, .dispatched other ∉ later

/-- It matters what is due only once the session is asked to end, and then something more may be. -/
theorem IsOrderly.of_due {quits : Bool} {due? otherDue? : Option (List Token)}
    {events : List Event} (orderly : IsOrderly quits due? events)
    (more : quits = true → due? = none ∨ otherDue? = due?) : IsOrderly quits otherDue? events := by
  induction events generalizing quits due? otherDue? with
  | nil => trivial
  | cons event rest inductionHypothesis =>
      obtain ⟨permitted, restOrderly⟩ := orderly
      cases event with
      | begun invocations => exact ⟨trivial, restOrderly⟩
      | quitRequested => exact ⟨trivial, restOrderly⟩
      | dispatched invocation =>
          refine ⟨fun asked => ?_, restOrderly⟩
          have isDue := permitted asked
          cases more asked with
          | inl nothing => exact absurd (nothing.symm.trans isDue) nofun
          | inr same => exact same.trans isDue
      | _ =>
          refine ⟨trivial, inductionHypothesis restOrderly ?_⟩
          intro asked
          exact more ((Bool.or_false quits).symm.trans asked)

theorem IsOrderly.append {quits : Bool} {due? : Option (List Token)} {first second : List Event}
    (firstOrderly : IsOrderly quits due? first)
    (secondOrderly : IsOrderly (quitsAfter quits first) none second) :
    IsOrderly quits due? (first ++ second) := by
  induction first generalizing quits due? with
  | nil =>
      have unchanged : quitsAfter quits [] = quits := Bool.or_false quits
      rw [unchanged] at secondOrderly
      exact secondOrderly.of_due fun _ => Or.inl rfl
  | cons event rest inductionHypothesis =>
      have together : quitsAfter quits (event :: rest) =
          quitsAfter (quits || event.isQuitRequest) rest := by
        unfold quitsAfter
        rw [List.any_cons, Bool.or_assoc]
      rw [together] at secondOrderly
      exact ⟨firstOrderly.1, inductionHypothesis firstOrderly.2 secondOrderly⟩

/-- Nothing is due when the request has just been made. -/
theorem IsOrderly.of_request {quits : Bool} {due? : Option (List Token)}
    {earlier later : List Event}
    (orderly : IsOrderly quits due? (earlier ++ .quitRequested :: later)) :
    IsOrderly true none later := by
  induction earlier generalizing quits due? with
  | nil =>
      have rest := orderly.2
      rw [isQuitRequest, Bool.or_true] at rest
      exact rest
  | cons event rest inductionHypothesis => exact inductionHypothesis orderly.2

theorem IsOrderly.first_or_due {due? : Option (List Token)} {between rest : List Event}
    {invocation : List Token}
    (orderly : IsOrderly true due? (between ++ .dispatched invocation :: rest)) :
    (∃ earlier invocations later, between = earlier ++ .begun invocations :: later ∧
      invocations.head? = some invocation ∧ ∀ other, .dispatched other ∉ later) ∨
    (due? = some invocation ∧ ∀ other, .dispatched other ∉ between) := by
  induction between generalizing due? with
  | nil => exact Or.inr ⟨orderly.1 rfl, fun _ => List.not_mem_nil⟩
  | cons event more inductionHypothesis =>
      obtain ⟨earlier, invocations, later, rfl, isFirst, none⟩ | ⟨isDue, none⟩ :=
        inductionHypothesis orderly.2
      · exact Or.inl ⟨event :: earlier, invocations, later, rfl, isFirst, none⟩
      · cases event with
        | begun invocations => exact Or.inl ⟨[], invocations, more, rfl, isDue, none⟩
        | dispatched other => cases isDue
        | quitRequested => cases isDue
        | _ =>
            refine Or.inr ⟨isDue, fun other member => ?_⟩
            cases List.mem_cons.mp member with
            | inl same => cases same
            | inr later => exact none other later

theorem IsOrderly.areFirst {events : List Event} (orderly : IsOrderly true none events) :
    AreFirst events := by
  rintro between invocation rest rfl
  cases orderly.first_or_due with
  | inl isFirst => exact isFirst
  | inr isDue => cases isDue.1

end Event

/-! ### Evaluations -/

namespace Eval

open Event (IsOrderly quitsAfter)

/-- What is entered into the history is orderly when an invocation is due, and the session is asked
to end exactly when an entry says so. -/
def KeepsOrder (due? : Option (List Token)) (before : Console) (_ : Option Stop)
    (after : Console) : Prop :=
  ∃ events, after.history = before.history ++ events ∧
    after.session.quitRequested = quitsAfter before.session.quitRequested events ∧
    IsOrderly before.session.quitRequested due? events

namespace KeepsOrder

variable {due? : Option (List Token)} {before between after : Console} {stop? : Option Stop}

theorem of_same (history : after.history = before.history)
    (quits : after.session.quitRequested = before.session.quitRequested) :
    KeepsOrder due? before stop? after :=
  ⟨[], by rw [history, List.append_nil], quits.trans (Bool.or_false _).symm, trivial⟩

theorem of_record (console : Console) {event : Event}
    (permitted : event.IsPermitted console.session.quitRequested due?)
    (isOther : event.isQuitRequest = false) :
    KeepsOrder due? console stop? (console.record event) := by
  refine ⟨[event], rfl, ?_, permitted, trivial⟩
  unfold quitsAfter
  rw [List.any_cons, isOther]
  exact (Bool.or_false _).symm

theorem trans {first? : Option Stop} (first : KeepsOrder due? before first? between)
    (second : KeepsOrder none between stop? after) : KeepsOrder due? before stop? after := by
  obtain ⟨firstEvents, firstHistory, firstQuits, firstOrderly⟩ := first
  obtain ⟨secondEvents, secondHistory, secondQuits, secondOrderly⟩ := second
  refine ⟨firstEvents ++ secondEvents, ?_, ?_, ?_⟩
  · rw [secondHistory, firstHistory, List.append_assoc]
  · rw [secondQuits, firstQuits]
    unfold quitsAfter
    rw [List.any_append, Bool.or_assoc]
  · rw [firstQuits] at secondOrderly
    exact firstOrderly.append secondOrderly

theorem of_due {otherDue? : Option (List Token)} (keeps : KeepsOrder due? before stop? after)
    (more : before.session.quitRequested = true → due? = none ∨ otherDue? = due?) :
    KeepsOrder otherDue? before stop? after := by
  obtain ⟨events, history, quits, orderly⟩ := keeps
  exact ⟨events, history, quits, orderly.of_due more⟩

/-- What is begun makes its first invocation due. -/
theorem of_begun {invocations : List (List Token)}
    (keeps : KeepsOrder invocations.head? (before.record (.begun invocations)) stop? after) :
    KeepsOrder due? before stop? after := by
  obtain ⟨events, history, quits, orderly⟩ := keeps
  refine ⟨.begun invocations :: events, ?_, quits, trivial, ?_⟩
  · rw [history]
    exact List.append_assoc before.history [.begun invocations] events
  · change IsOrderly (before.session.quitRequested || false) invocations.head? events
    rw [Bool.or_false]
    exact orderly

theorem change (change : Change before after) : KeepsOrder none before none after := by
  obtain ⟨event, enters, rfl⟩ | rfl | same := change.course
  · cases enters <;> exact of_record before trivial rfl
  · exact ⟨[.quitRequested], rfl, (Bool.or_true _).symm, trivial, trivial⟩
  · exact of_same same.history same.quits

theorem switched (console : Console) (machine? : Option MachineHandle) :
    KeepsOrder none console none (console.switchMachine machine?) := by
  cases machine? with
  | none => exact of_same rfl rfl
  | some machine =>
      have selected : KeepsOrder none console none (console.selectMachine machine) :=
        of_same rfl rfl
      exact selected.trans (of_record _ trivial rfl)

theorem descended (console : Console) : KeepsOrder none console none console.descend := by
  have deeper : KeepsOrder none console none { console with depth := console.depth + 1 } :=
    of_same rfl rfl
  exact deeper.trans (of_record _ trivial rfl)

theorem lawful : Lawful (KeepsOrder none) (KeepsOrder none) where
  refl _ := of_same rfl rfl
  sequence := trans
  deeper {before _ _} inside := ((descended before).trans inside).trans (of_same rfl rfl)
  failed _ _ := of_same rfl rfl
  change changes _ := change changes
  reentered {before _ _} inside := by
    have entered : KeepsOrder none before none (before.record .reentered) :=
      of_record before trivial rfl
    exact entered.trans inside
  script _ inside := inside
  effect := change
  recovered := id

theorem compositional : Compositional (KeepsOrder none) (KeepsOrder none) := by
  apply lawful.compositional
  intro start before after machine stop? earlier _ inside
  exact ((earlier.trans (switched before (some machine))).trans inside).trans
    (switched after before.session.currentMachine?)

theorem following (due? : Option (List Token)) :
    Following (KeepsOrder due?) (KeepsOrder none) :=
  ⟨trans, id⟩

end KeepsOrder

variable {nested : Nested}

section Levels

variable (nestedEnds : ∀ job run, EndsBy (KeepsOrder none) run (nested job))

include nestedEnds

/-- An invocation that is due is dispatched once. -/
theorem evaluateInvocation_keepsOrder {invocation : List Token}
    (isInvocation : Token.IsInvocation invocation) (run : Run) :
    EndsBy (KeepsOrder (some invocation)) run (evaluateInvocation nested invocation) := by
  have ofNothing {before after : Console} {stop? : Option Stop}
      (keeps : KeepsOrder none before stop? after) :
      KeepsOrder (some invocation) before stop? after :=
    keeps.of_due fun _ => Or.inl rfl
  by_cases deep : Console.nestingBound ≤ run.console.depth
  · unfold EndsBy
    rw [evaluateInvocation_of_le invocation deep]
    exact ofNothing (EndsBy.handleFailure KeepsOrder.compositional _ _)
  · apply evaluateInvocation_endsBy_of_dispatch KeepsOrder.compositional
      KeepsOrder.lawful.toSequential nestedEnds ofNothing _ isInvocation (Nat.lt_of_not_le deep)
    intro _ after _ around
    have dispatched : EndsBy (KeepsOrder (some invocation)) after
        (dispatchAndFollow nested invocation) :=
      dispatchAndFollow_endsBy KeepsOrder.lawful KeepsOrder.compositional
        KeepsOrder.lawful.toSequential nestedEnds (KeepsOrder.following _)
        (fun console => KeepsOrder.of_record console (fun _ => rfl) rfl) after
    -- Files were asked for at most, so the invocation is still due.
    obtain ⟨world, same⟩ := around
    unfold EndsBy at dispatched
    rw [same] at dispatched
    exact dispatched

/-- Of several invocations, no second one is evaluated when the session is asked to end. -/
theorem evaluateInvocations_keepsOrder {invocations : List (List Token)}
    (areInvocations : ∀ invocation ∈ invocations, Token.IsInvocation invocation) (run : Run) :
    EndsBy (KeepsOrder invocations.head?) run (evaluateInvocations nested invocations) := by
  induction invocations generalizing run with
  | nil => exact KeepsOrder.of_same rfl rfl
  | cons invocation rest inductionHypothesis =>
      have first := evaluateInvocation_keepsOrder nestedEnds
        (areInvocations invocation List.mem_cons_self) run
      unfold EndsBy at first ⊢
      cases evaluated : evaluateInvocation nested invocation run with
      | mk result after =>
          rw [evaluated] at first
          unfold evaluateInvocations
          cases result with
          | error stop =>
              rw [bind_run_of_error evaluated]
              exact first
          | ok succeeded =>
              rw [bind_run_of_ok evaluated, session_bind_run]
              split
              · exact first
              · split
                · exact first
                · next unasked =>
                    have others := inductionHypothesis
                      (fun other member => areInvocations other (List.mem_cons_of_mem _ member))
                      after
                    exact first.trans (others.of_due fun asked => absurd asked unasked)

theorem evaluateTokens_keepsOrder (tokens : List Token) (run : Run) :
    EndsBy (KeepsOrder none) run (evaluateTokens nested tokens) := by
  have areInvocations : ∀ invocation ∈ Token.invocations tokens, Token.IsInvocation invocation :=
    fun _ => Token.isInvocation_of_mem_invocations
  have evaluated := evaluateInvocations_keepsOrder nestedEnds areInvocations
    (begun (Token.invocations tokens) run)
  unfold EndsBy at evaluated ⊢
  rw [evaluateTokens_run]
  exact KeepsOrder.of_begun evaluated

end Levels

theorem run_keepsOrder (bound : Nat) (job : Job) (start : Run) :
    EndsBy (KeepsOrder none) start (run bound job) :=
  run_endsBy_of_tokens KeepsOrder.lawful.toSequential KeepsOrder.compositional.fed
    (fun _ => KeepsOrder.of_same rfl rfl) (fun _ => evaluateTokens_keepsOrder) bound job start

/-- Unless the session was asked to end before, the computation leaves the session asked to end when
it entered the request into the history, and everything that it has dispatched after a request is
the first invocation of a line or a text whose evaluation was begun after the request. -/
def StopsOnRequest {α : Type} (action : Eval α) : Prop :=
  ∀ start : Run, start.console.session.quitRequested = false →
    ∃ events, (action start).2.console.history = start.console.history ++ events ∧
      ((action start).2.console.session.quitRequested = true ↔ Event.quitRequested ∈ events) ∧
      ∀ earlier later, events = earlier ++ .quitRequested :: later → Event.AreFirst later

theorem stopsOnRequest_of_keepsOrder {α : Type} {action : Eval α}
    (keeps : ∀ start, EndsBy (KeepsOrder none) start action) : StopsOnRequest action := by
  intro start unasked
  obtain ⟨events, history, quits, orderly⟩ := keeps start
  rw [unasked] at quits orderly
  refine ⟨events, history, ?_, ?_⟩
  · rw [quits]
    unfold quitsAfter
    rw [Bool.false_or, List.any_eq_true]
    constructor
    · rintro ⟨event, member, isRequest⟩
      cases event with
      | quitRequested => exact member
      | _ => cases isRequest
    · exact fun member => ⟨.quitRequested, member, rfl⟩
  · rintro earlier later rfl
    exact orderly.of_request.areFirst

/-- Once the session was asked to end, no other invocation of the line or the text that was being
evaluated is dispatched: not in a line or a text of several lines, nor in a script, a macro that is
run, or the macros that are played after an invocation. -/
theorem quit_stops (bound : Nat) :
    (∀ job, StopsOnRequest (run bound job)) ∧
    (∀ path, StopsOnRequest (runScript (run bound) path)) ∧
    (∀ arguments, StopsOnRequest (Builtin.playMacro (run bound) arguments)) ∧
    StopsOnRequest (afterInvocation (run bound)) := by
  have nestedEnds := run_keepsOrder bound
  have internal := KeepsOrder.lawful.toInternal
  refine ⟨fun job => ?_, fun path => ?_, fun arguments => ?_, ?_⟩
  · exact stopsOnRequest_of_keepsOrder fun start => nestedEnds job start
  · exact stopsOnRequest_of_keepsOrder fun start =>
      runScript_endsBy internal nestedEnds path start
  · exact stopsOnRequest_of_keepsOrder fun start =>
      Builtin.playMacro_endsBy internal nestedEnds arguments start
  · exact stopsOnRequest_of_keepsOrder fun start =>
      afterInvocation_endsBy KeepsOrder.compositional nestedEnds start

/-- A line that asks for more after the request. -/
def endingLine : String := "quit; mach create \"a\""

theorem quit_stops_ending_line :
    (evaluate (.line endingLine) (afterLines [])).2.console.session.quitRequested = true ∧
    (evaluate (.line endingLine) (afterLines [])).2.console.emulation.machines = [] ∧
    ∃ events, (evaluate (.line endingLine) (afterLines [])).2.console.history =
        (afterLines []).console.history ++ events ∧
      Event.quitRequested ∈ events ∧
      ∀ earlier later, events = earlier ++ .quitRequested :: later → Event.AreFirst later := by
  have unasked : (afterLines []).console.session.quitRequested = false := by decide +kernel
  have asked : (evaluate (.line endingLine) (afterLines [])).2.console.session.quitRequested =
      true := by
    decide +kernel
  have stops : StopsOnRequest (evaluate (.line endingLine)) :=
    (quit_stops recursionBound).1 (.line endingLine)
  obtain ⟨events, history, quits, areFirst⟩ := stops (afterLines []) unasked
  exact ⟨asked, by decide +kernel, events, history, quits.mp asked, areFirst⟩

/-- Whether something was dispatched after a request to end. -/
def dispatchesAfterRequest : List Event → Bool
  | [] => false
  | event :: rest =>
    event.isQuitRequest && rest.any Event.isDispatch || dispatchesAfterRequest rest

theorem split_of_dispatchesAfterRequest {events : List Event}
    (dispatches : dispatchesAfterRequest events = true) :
    ∃ earlier later invocation, events = earlier ++ .quitRequested :: later ∧
      Event.dispatched invocation ∈ later := by
  induction events with
  | nil => cases dispatches
  | cons event rest inductionHypothesis =>
      unfold dispatchesAfterRequest at dispatches
      rw [Bool.or_eq_true, Bool.and_eq_true, List.any_eq_true] at dispatches
      obtain ⟨isRequest, other, member, isDispatch⟩ | more := dispatches
      · cases event with
        | quitRequested =>
            cases other with
            | dispatched invocation => exact ⟨[], rest, invocation, rfl, member⟩
            | _ => cases isDispatch
        | _ => cases isRequest
      · obtain ⟨earlier, later, invocation, rfl, member⟩ := inductionHypothesis more
        exact ⟨event :: earlier, later, invocation, rfl, member⟩

/-- After the request, the next line of a text is evaluated all the same. -/
theorem quit_does_not_stop_lines :
    ¬ ∀ (start : Run) (text : String) (events earlier later : List Event),
      start.console.session.quitRequested = false →
      (evaluate (.lines text) start).2.console.history = start.console.history ++ events →
      events = earlier ++ .quitRequested :: later →
      ∀ invocation, Event.dispatched invocation ∉ later := by
  intro always
  have unasked : (afterLines []).console.session.quitRequested = false := by decide +kernel
  have dispatches : dispatchesAfterRequest (evaluate (.lines "quit\nmach create \"a\"")
      (afterLines [])).2.console.history = true := by
    decide +kernel
  have fresh : (afterLines []).console.history = [] := rfl
  obtain ⟨earlier, later, invocation, history, member⟩ :=
    split_of_dispatchesAfterRequest dispatches
  refine always (afterLines []) "quit\nmach create \"a\"" _ earlier later unasked ?_ rfl
    invocation member
  rw [history, fresh, List.nil_append]

end Eval

end MachineConsole
