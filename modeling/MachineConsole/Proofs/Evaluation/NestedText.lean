import MachineConsole.Proofs.Evaluation.CurrentMachine
import MachineConsole.Proofs.Evaluation.Quiescence

/-!
Contract: captures and the texts that are evaluated on account of an invocation.

Owns:
- `Session.absorb`: what an active capture takes from the front of some lines;
- `captures_absorb_nested_text`: the text of a substitution and the lines of a reset macro are
  evaluated as what a capture leaves of them, which is all of them exactly when none is active; and
  a line with a substitution whose text becomes part of a value.

Substitutions and reset macros are evaluated as lines of input are. Texts that are read again are
not offered to a capture.
-/

namespace MachineConsole

/-! ### What a capture takes -/

namespace Session

/-- What a capture leaves of some lines, and the session after it has taken the others. -/
def absorb (session : Session) : List String → List String × Session
  | [] => ([], session)
  | line :: rest =>
    match session.feed line with
    | (none, fed) => fed.absorb rest
    | (some _, fed) => (line :: rest, fed)

variable {session : Session}

/-- A line that is not taken is passed on as it is, and no capture is active any more. -/
theorem of_feed_passed {line text : String} {fed : Session}
    (passed : session.feed line = (some text, fed)) : text = line ∧ fed.capture = .off := by
  unfold feed at passed
  split at passed
  · next off =>
      cases passed
      exact ⟨rfl, off⟩
  · split at passed
    · cases passed
      exact ⟨rfl, capture_updateStore _ _ _⟩
    · split at passed
      · cases passed
      · cases passed
  · cases passed

theorem absorb_suffix (session : Session) (lines : List String) :
    ∃ taken, lines = taken ++ (session.absorb lines).1 := by
  induction lines generalizing session with
  | nil => exact ⟨[], rfl⟩
  | cons line rest inductionHypothesis =>
      unfold absorb
      cases session.feed line with
      | mk text? fed =>
          cases text? with
          | some text => exact ⟨[], rfl⟩
          | none =>
              obtain ⟨taken, split⟩ := inductionHypothesis fed
              exact ⟨line :: taken, congrArg (line :: ·) split⟩

/-- All lines are left, and the session is as it was, exactly when no capture is active. -/
theorem absorb_eq_self_iff {lines : List String} (nonempty : lines ≠ []) :
    session.absorb lines = (lines, session) ↔ session.capture = .off := by
  cases lines with
  | nil => exact absurd rfl nonempty
  | cons line rest =>
      constructor
      · intro unchanged
        unfold absorb at unchanged
        cases fed : session.feed line with
        | mk text? after =>
            rw [fed] at unchanged
            cases text? with
            | some text =>
                cases unchanged
                exact (of_feed_passed fed).2
            | none =>
                -- The line was taken, so fewer are left.
                obtain ⟨taken, split⟩ := after.absorb_suffix rest
                dsimp only at unchanged
                rw [unchanged] at split
                have lengths := congrArg List.length split
                rw [List.length_append, List.length_cons] at lengths
                omega
      · intro off
        unfold absorb
        rw [session.feed_off off]

end Session

namespace Eval

/-! ### Lines -/

/-- The evaluation of lines the first of which no capture may take. -/
def executeLines (bound : Nat) : List String → Eval Bool
  | [] => return true
  | line :: rest => do
    if ← evaluateCommands (run bound) line then evaluateLines (run (bound + 1)) rest
    else return false

/-- A capture takes what it does from the front of the lines, and what it leaves is executed. -/
theorem evaluateLines_absorb (bound : Nat) (lines : List String) (start : Run) :
    evaluateLines (run (bound + 1)) lines start =
      executeLines bound (start.console.session.absorb lines).1
        (offered (start.console.session.absorb lines).2 start) := by
  induction lines generalizing start with
  | nil => rfl
  | cons line rest inductionHypothesis =>
      unfold evaluateLines Session.absorb
      cases fed : start.console.session.feed line with
      | mk text? session =>
          cases text? with
          | none =>
              have taken : run (bound + 1) (.line line) start = (.ok true, offered session start) :=
                evaluateLine_of_taken fed
              rw [bind_run_of_ok taken]
              exact inductionHypothesis (offered session start)
          | some text =>
              obtain ⟨rfl, _⟩ := Session.of_feed_passed fed
              have passed : run (bound + 1) (.line text) start =
                  evaluateCommands (run bound) text (offered session start) :=
                evaluateLine_of_passed fed
              dsimp only
              rw [executeLines, bind_run, bind_run, passed]

theorem evaluateLines_single (nested : Nested) (line : String) (start : Run) :
    evaluateLines nested [line] start = nested (.line line) start := by
  unfold evaluateLines
  rw [bind_run]
  cases nested (.line line) start with
  | mk outcome after =>
      cases outcome with
      | error stop => rfl
      | ok succeeded =>
          cases succeeded with
          | true => rfl
          | false => rfl

/-! ### Substitutions -/

/-- The run in which the text of a substitution is evaluated. -/
def withinSubstitution (command : String) (start : Run) : Run :=
  ⟨(start.console.record (.substituted command)).descend, Sink.empty⟩

/-- A substitution depends on the evaluator only by way of the evaluation of its text. -/
theorem substitute_congr {nested other : Nested} {command : String} {start otherStart : Run}
    (sameSink : start.sink = otherStart.sink)
    (same : nested (.line command) (withinSubstitution command start) =
      other (.line command) (withinSubstitution command otherStart)) :
    substitute nested command start = substitute other command otherStart := by
  have within (nested : Nested) (start : Run) :
      onOwnSink (deeper (nested (.line command)))
        { start with console := start.console.record (.substituted command) } =
      let inside := nested (.line command) (withinSubstitution command start)
      (inside.1.map fun succeeded => (succeeded, inside.2.sink),
        ⟨inside.2.console.ascend, start.sink⟩) := by
    have below : deeper (nested (.line command))
        ⟨start.console.record (.substituted command), Sink.empty⟩ =
        let inside := nested (.line command) (withinSubstitution command start)
        (inside.1, { inside.2 with console := inside.2.console.ascend }) := rfl
    unfold onOwnSink
    rw [below]
    cases nested (.line command) (withinSubstitution command start) with
    | mk outcome after =>
        cases outcome with
        | ok succeeded => rfl
        | error stop => rfl
  have recorded (start : Run) : record (.substituted command) start =
      (.ok (), { start with console := start.console.record (.substituted command) }) := rfl
  unfold substitute
  rw [bind_run_of_ok (recorded start), bind_run_of_ok (recorded otherStart), bind_run, bind_run,
    within, within, same, sameSink]

theorem substitute_absorb (bound : Nat) (command : String) (start : Run) :
    substitute (run (bound + 1)) command start =
      substitute (fun _ => executeLines bound (start.console.session.absorb [command]).1) command
        (offered (start.console.session.absorb [command]).2 start) := by
  have sameSink : start.sink =
      (offered (start.console.session.absorb [command]).2 start).sink := rfl
  have absorbed := evaluateLines_absorb bound [command] (withinSubstitution command start)
  rw [evaluateLines_single] at absorbed
  exact substitute_congr sameSink absorbed

/-! ### Reset macros -/

/-- What is done a level deeper depends on an action only by way of what it does there. -/
theorem deeper_congr {α : Type} {action other : Eval α} {start otherStart : Run}
    (same : action { start with console := start.console.descend } =
      other { otherStart with console := otherStart.console.descend }) :
    deeper action start = deeper other otherStart := by
  have below (action : Eval α) (start : Run) : deeper action start =
      let inside := action { start with console := start.console.descend }
      (inside.1, { inside.2 with console := inside.2.console.ascend }) := rfl
  rw [below, below, same]

theorem deeper_absorb (bound : Nat) (text : String) (start : Run) :
    let absorbed := start.console.session.absorb (Script.logicalLines text)
    deeper (run (bound + 2) (.lines text)) start =
      deeper (executeLines bound absorbed.1) (offered absorbed.2 start) :=
  deeper_congr (evaluateLines_absorb bound (Script.logicalLines text)
    { start with console := start.console.descend })

/-- The name that the reset macro of a machine is stored under. -/
def resetMacroName (machine : MachineHandle) : String :=
  Scopes.inScope (scopeName machine.name) "reset"

theorem playResetMacro_absorb (bound : Nat) {machine : MachineHandle} {body : Token} {start : Run}
    (found : start.console.session.macroStore.get? (resetMacroName machine) = some body) :
    let playing := withMachine start machine
    let absorbed := playing.console.session.absorb (Script.logicalLines body.sourceText)
    let played := deeper (executeLines bound absorbed.1) (offered absorbed.2 playing)
    playResetMacro (run (bound + 2)) machine start =
      (played.1.map fun _ => (), { played.2 with
        console := played.2.console.switchMachine start.console.session.currentMachine? }) :=
  playResetMacro_of_some found
    ((deeper_absorb bound body.sourceText (withMachine start machine)).trans (Prod.eta _).symm)

/-! ### Nested texts -/

/-- The text of a substitution is evaluated as what a capture leaves of it, and so are the lines of
the macro of a machine that was reset. All of it is left, with the session as it is, exactly when no
capture is active. -/
theorem captures_absorb_nested_text (bound : Nat) (start : Run) :
    (∀ command,
      let absorbed := start.console.session.absorb [command]
      substitute (run (bound + 2)) command start =
        substitute (fun _ => executeLines (bound + 1) absorbed.1) command
          (offered absorbed.2 start)) ∧
    (∀ machine body,
      start.console.session.macroStore.get? (resetMacroName machine) = some body →
        let playing := withMachine start machine
        let absorbed := playing.console.session.absorb (Script.logicalLines body.sourceText)
        let played := deeper (executeLines bound absorbed.1) (offered absorbed.2 playing)
        playResetMacro (run (bound + 2)) machine start =
          (played.1.map fun _ => (), { played.2 with
            console := played.2.console.switchMachine start.console.session.currentMachine? })) ∧
    ∀ (session : Session) (lines : List String), lines ≠ [] →
      (session.absorb lines = (lines, session) ↔ session.capture = .off) :=
  ⟨fun command => substitute_absorb (bound + 1) command start,
    fun _ _ found => playResetMacro_absorb bound found,
    fun _ _ nonempty => Session.absorb_eq_self_iff nonempty⟩

/-- A console with a machine that has a reset macro. -/
@[irreducible]
def macroRun : Run :=
  afterLines ["macro reset \"numbersMode\"", "mach create \"a\""]

/-- Without a capture, the text of a substitution and the line of a reset macro are executed. -/
theorem captures_absorb_nested_text_unless_active :
    macroRun.console.session.capture = .off ∧
      substitute (run 4) "numbersMode" macroRun =
        substitute (fun _ => executeLines 3 ["numbersMode"]) "numbersMode" macroRun ∧
      let played := deeper (executeLines 2 ["numbersMode"]) (withMachine macroRun ⟨0, "a"⟩)
      playResetMacro (run 4) ⟨0, "a"⟩ macroRun =
        (played.1.map fun _ => (), { played.2 with
          console := played.2.console.switchMachine
            macroRun.console.session.currentMachine? }) := by
  have off : macroRun.console.session.capture = .off := by decide +kernel
  obtain ⟨substituted, played, unchanged⟩ := captures_absorb_nested_text 2 macroRun
  have left (session : Session) (isOff : session.capture = .off) :=
    (unchanged session ["numbersMode"] (List.cons_ne_nil _ _)).mpr isOff
  have isBody : (macroRun.console.session.macroStore.get? (resetMacroName ⟨0, "a"⟩)).map
      (fun body => Script.logicalLines body.sourceText) = some ["numbersMode"] := by
    decide +kernel
  obtain ⟨body, found, lines⟩ := Option.map_eq_some_iff.mp isBody
  refine ⟨off, ?_, ?_⟩
  · have substitution := substituted "numbersMode"
    rw [left _ off] at substitution
    exact substitution
  · have playing := played ⟨0, "a"⟩ body found
    dsimp only at playing
    rw [lines, left (withMachine macroRun ⟨0, "a"⟩).console.session off] at playing
    exact playing

/-- The text of a substitution, when it is one that was run. -/
def commandText? : Event → Option String
  | .substituted command => some command
  | _ => none

/-- A line that opens a block and then has a substitution. -/
def openingLine : String := "set x \"\"\"; set y `numbersMode`"

/-- A substitution behind the opening of a block becomes a line of the block. -/
theorem substitution_becomes_block_line :
    ¬ ∀ (start : Run) (line command : String),
      start.console.session.capture = .off →
      Event.substituted command ∈ (evaluate (.line line) start).2.console.history →
      ∀ name kind lines,
        (evaluate (.line line) start).2.console.session.capture = .body name kind lines →
        command ∉ lines := by
  intro always
  have off : (afterLines []).console.session.capture = .off := by decide +kernel
  have substituted : Event.substituted "numbersMode" ∈
      (evaluate (.line openingLine) (afterLines [])).2.console.history := by
    have texts : ((evaluate (.line openingLine) (afterLines [])).2.console.history.filterMap
        commandText?) = ["numbersMode"] := by
      decide +kernel
    obtain ⟨event, member, isText⟩ :=
      List.mem_filterMap.mp (texts ▸ List.mem_singleton_self "numbersMode")
    cases event with
    | substituted command =>
        cases isText
        exact member
    | _ => cases isText
  have isBody : (evaluate (.line openingLine) (afterLines [])).2.console.session.capture =
      .body "global.x" .variables ["numbersMode"] := by
    decide +kernel
  exact always (afterLines []) openingLine "numbersMode" off substituted _ _ _ isBody
    (List.mem_singleton_self _)

end Eval

end MachineConsole
