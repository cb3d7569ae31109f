import MachineConsole.Proofs.Evaluation.Origin
import MachineConsole.Proofs.Evaluation.Repetition

/-!
Contract: the directory of a script, as its lines find it.

Owns:
- `lineTurns` and `invocationTurns`: the lines of a text that are evaluated, and the invocations of a
  line, each with the run in which it is;
- `runScript_not_rebound`: to run a script is not to rebind the variable for its directory, whatever
  the script does to it;
- `script_origin`: a script leaves the variable as it was, and its lines and their invocations find
  the directory in it as long as it is not rebound; and a script with another one in it that has the
  emulation replaced.

A script that is included by another one is subject to the same theorem, with its own directory.
-/

namespace MachineConsole

namespace Eval

variable {nested : Nested}

/-! ### Lines and invocations -/

/-- Those lines of a text that are evaluated, each with the run in which it is. -/
def lineTurns (nested : Nested) : List String → Run → List (String × Run)
  | [], _ => []
  | line :: rest, run =>
    (line, run) ::
      match nested (.line line) run with
      | (.ok true, after) => lineTurns nested rest after
      | _ => []

/-- The last line that is evaluated of several decides how all of them end. -/
theorem evaluateLines_run (lines : List String) (run : Run) :
    evaluateLines nested lines run =
      match (lineTurns nested lines run).getLast? with
      | none => (.ok true, run)
      | some (last, start) => nested (.line last) start := by
  induction lines generalizing run with
  | nil => rfl
  | cons line rest inductionHypothesis =>
      unfold evaluateLines lineTurns
      cases outcome : nested (.line line) run with
      | mk result after =>
          cases result with
          | error stop =>
              rw [bind_run_of_error outcome]
              exact outcome.symm
          | ok succeeded =>
              rw [bind_run_of_ok outcome]
              cases succeeded with
              | false => exact outcome.symm
              | true =>
                  rw [if_pos rfl, inductionHypothesis]
                  dsimp only
                  cases lineTurns nested rest after with
                  | nil => exact outcome.symm
                  | cons next others => rw [List.getLast?_cons_cons, List.getLast?_cons]

theorem lineTurns_follow {ending : Ending} (laws : Sequential ending)
    (lineEnds : ∀ line run, EndsBy ending run (nested (.line line))) {lines : List String}
    {start : Run} {turn : String × Run} (isTurn : turn ∈ lineTurns nested lines start) :
    ending start.console none turn.2.console := by
  induction lines generalizing start with
  | nil => cases isTurn
  | cons line rest inductionHypothesis =>
      unfold lineTurns at isTurn
      cases isTurn with
      | head => exact laws.refl start.console
      | tail _ isLater =>
          have first := lineEnds line start
          unfold EndsBy at first
          cases outcome : nested (.line line) start with
          | mk result after =>
              rw [outcome] at first isLater
              match result, isLater with
              | .ok true, isLater => exact laws.sequence first (inductionHypothesis isLater)

theorem evaluated_follow {ending : Ending} (laws : Sequential ending)
    {invocations : List (List Token)}
    (invocationEnds : ∀ invocation ∈ invocations,
      ∀ run, EndsBy ending run (evaluateInvocation nested invocation))
    {start : Run} {turn : List Token × Run} (isTurn : turn ∈ evaluated nested invocations start) :
    ending start.console none turn.2.console := by
  induction invocations generalizing start with
  | nil => cases isTurn
  | cons invocation rest inductionHypothesis =>
      unfold evaluated at isTurn
      cases isTurn with
      | head => exact laws.refl start.console
      | tail _ isLater =>
          have first := invocationEnds invocation List.mem_cons_self start
          unfold EndsBy at first
          cases outcome : evaluateInvocation nested invocation start with
          | mk result after =>
              rw [outcome] at first isLater
              cases result with
              | error stop => cases isLater
              | ok succeeded =>
                  dsimp only at isLater
                  split at isLater
                  · cases isLater
                  · exact laws.sequence first (inductionHypothesis
                      (fun other member => invocationEnds other (List.mem_cons_of_mem _ member))
                      isLater)

/-- The invocations of a line that are evaluated, each with the run in which it is; there are none
when a capture takes the line or it cannot be read. -/
def invocationTurns (nested : Nested) (line : String) (turn : Run) : List (List Token × Run) :=
  match turn.console.session.feed line with
  | (none, _) => []
  | (some text, fed) =>
    match (offered fed turn).console.tokensOf text with
    | .error _ => []
    | .ok tokens =>
      evaluated nested (Token.invocations tokens)
        (begun (Token.invocations tokens) (offered fed turn))

theorem invocationTurns_follow (nestedEnds : ∀ job run, EndsBy LeavesCourse run (nested job))
    {line : String} {turn : Run} {place : List Token × Run}
    (isPlace : place ∈ invocationTurns nested line turn) :
    LeavesCourse turn.console none place.2.console := by
  have taken := LeavesCourse.compositional.fed turn.console line
  unfold invocationTurns at isPlace
  cases fed : turn.console.session.feed line with
  | mk text? session =>
      rw [fed] at isPlace
      cases text? with
      | none => cases isPlace
      | some text =>
          dsimp only at isPlace
          have offers : LeavesCourse turn.console none (offered session turn).console := by
            have same : offered session turn = offered (turn.console.session.feed line).2 turn := by
              rw [fed]
            rw [same]
            exact taken
          split at isPlace
          · cases isPlace
          · next tokens _ =>
              have begins := LeavesCourse.compositional.begun (offered session turn).console
                (Token.invocations tokens)
              have invocationEnds : ∀ invocation ∈ Token.invocations tokens,
                  ∀ run, EndsBy LeavesCourse run (evaluateInvocation nested invocation) :=
                fun _ member => evaluateInvocation_leavesCourse nestedEnds
                  (Token.isInvocation_of_mem_invocations member)
              exact offers.trans (begins.trans
                (evaluated_follow LeavesCourse.nesting.toSequential invocationEnds isPlace))

/-! ### Scripts -/

/-- The run in which the lines of a script are evaluated. -/
def scriptRun (directory : String) (start : Run) : Run :=
  { start with
    console := (start.console.withOrigin (some (Token.path directory))).record .reentered }

/-- A script is its text with the variable bound to its directory, and bound as before afterwards. -/
theorem runScript_run {path text : String} {start : Run}
    (readable : start.console.world.files.read path = .ok text) :
    runScript nested path start =
      (nested (.lines text)).thenRestore (Console.withOrigin start.console.origin?)
        (scriptRun (Path.directoryOf start.console.workingDirectory path) start) := by
  unfold runScript
  rw [console_bind_run, readable]
  rfl

/-- However a script ends, the variable stands for what it did before. -/
theorem runScript_origin? {path text : String} {start : Run}
    (readable : start.console.world.files.read path = .ok text) :
    (runScript nested path start).2.console.origin? = start.console.origin? := by
  rw [runScript_run readable]
  exact Console.origin?_withOrigin _ _

/-- Whatever the lines of a script do to the variable, to run the script is not to rebind it. -/
theorem runScript_not_rebound (nestedEnds : ∀ job run, EndsBy LeavesCourse run (nested job))
    {path text : String} {start : Run}
    (readable : start.console.world.files.read path = .ok text) :
    ¬ Rebound start.console (runScript nested path start).2.console := by
  let directory := Path.directoryOf start.console.workingDirectory path
  have inside : LeavesCourse (start.console.withOrigin (some (Token.path directory))) _
      (nested (.lines text) (scriptRun directory start)).2.console :=
    LeavesCourse.internal.reentered (nestedEnds (.lines text) (scriptRun directory start))
  obtain ⟨rebound, course⟩ := inside
  rw [runScript_run readable]
  exact (OriginCourse.script directory course).not_rebound

/-- What the variable stands for in a run: a directory, unless it was rebound on the way. -/
def FindsDirectory (entered : Run) (directory : String) (turn : Run) : Prop :=
  turn.console.origin? = some (Token.path directory) ∨ Rebound entered.console turn.console

theorem findsDirectory_of_leavesCourse {directory : String} {start turn : Run}
    (leaves : LeavesCourse (scriptRun directory start).console none turn.console) :
    FindsDirectory (scriptRun directory start) directory turn := by
  have atEntry : (scriptRun directory start).console.origin? = some (Token.path directory) :=
    Console.origin?_withOrigin _ _
  exact leaves.origin?_or_rebound.imp_left fun same => same.trans atEntry

/-- A script is its lines, evaluated in order. Over whatever evaluator, it leaves the variable for its
directory as it was, or absent if it was absent, and to run it is not to rebind the variable. Each of
its lines that is evaluated, and each invocation of these, finds the directory of the script in the
variable, unless the variable was rebound since the script was entered. -/
theorem script_origin (bound : Nat) (path text : String) (start : Run)
    (readable : start.console.world.files.read path = .ok text) :
    let directory := Path.directoryOf start.console.workingDirectory path
    let entered := scriptRun directory start
    let lines := Script.logicalLines text
    (∀ nested, (runScript nested path start).2.console.origin? = start.console.origin?) ∧
      ¬ Rebound start.console (runScript (run (bound + 2)) path start).2.console ∧
      runScript (run (bound + 2)) path start =
        (evaluateLines (run (bound + 1)) lines).thenRestore
          (Console.withOrigin start.console.origin?) entered ∧
      ∀ line turn, (line, turn) ∈ lineTurns (run (bound + 1)) lines entered →
        FindsDirectory entered directory turn ∧
        ∀ invocation place, (invocation, place) ∈ invocationTurns (run bound) line turn →
          FindsDirectory entered directory place := by
  intro directory entered lines
  refine ⟨fun _ => runScript_origin? readable,
    runScript_not_rebound (run_leavesCourse (bound + 2)) readable, runScript_run readable,
    fun line turn isTurn => ?_⟩
  have reaches : LeavesCourse entered.console none turn.console :=
    lineTurns_follow LeavesCourse.nesting.toSequential
      (fun line => run_leavesCourse (bound + 1) (.line line)) isTurn
  refine ⟨findsDirectory_of_leavesCourse reaches, fun invocation place isPlace => ?_⟩
  exact findsDirectory_of_leavesCourse
    (reaches.trans (invocationTurns_follow (run_leavesCourse bound) isPlace))

/-- A script that includes another one and then has the emulation replaced. -/
def outerText : String := "include @/work/sub/inner\nClear\nset seen $ORIGIN"

/-- A console in a directory with both scripts, the inner one with this text. -/
@[irreducible]
def scriptsRun (innerText : String) : Run :=
  let files := ((((FileTree.empty "/work").write "/work/outer" (.file (some outerText))).write
    "/work/sub" .directory).write "/work/sub/inner" (.file (some innerText)))
  Shell.freshRun (World.create files fun uri => .error (.fetch uri)) Settings.default

/-- The last line finds the directory again, which the script that was included and the replacement of
the emulation have left alone. -/
theorem script_origin_outer :
    let start := scriptsRun "numbersMode Decimal"
    (runScript (run 12) "/work/outer" start).2.console.origin? = none ∧
      ∃ turn,
        ("set seen $ORIGIN", turn) ∈ lineTurns (run 11) (Script.logicalLines outerText)
          (scriptRun "/work" start) ∧
        turn.console.session.numberMode = .decimal ∧ turn.console.generation = 1 ∧
        turn.console.origin? = some (Token.path "/work") := by
  intro start
  have read : (start.console.world.files.read "/work/outer").toOption = some outerText := by
    decide +kernel
  have unbound : start.console.origin? = none := by decide +kernel
  have directory : Path.directoryOf start.console.workingDirectory "/work/outer" = "/work" := by
    decide +kernel
  have uncaptured : (scriptRun "/work" start).console.session.capturesOrigin = false := by
    decide +kernel
  have last : ((lineTurns (run 11) (Script.logicalLines outerText) (scriptRun "/work" start))[2]?).map
      (fun turn => (turn.1, turn.2.console.session.numberMode, turn.2.console.generation,
        ((scriptRun "/work" start).console.dispatchedUntil turn.2.console).any
          ((scriptRun "/work" start).console.mayStore .variables))) =
        some ("set seen $ORIGIN", .decimal, 1, false) := by
    decide +kernel
  obtain ⟨restores, _, _, finds⟩ :=
    script_origin 10 "/work/outer" outerText start (eq_ok_of_toOption read)
  rw [directory] at finds
  obtain ⟨⟨line, turn⟩, isThird, found⟩ := Option.map_eq_some_iff.mp last
  obtain ⟨rfl, decimal, replaced, others⟩ := by simpa only [Prod.mk.injEq] using found
  have isTurn := List.mem_of_getElem? isThird
  have found : FindsDirectory (scriptRun "/work" start) "/work" turn := (finds _ _ isTurn).1
  exact ⟨(restores _).trans unbound, turn, isTurn, decimal, replaced,
    found.resolve_right (not_rebound_of_dispatched uncaptured others)⟩

/-- The inner script may even assign the variable. -/
example :
    ((lineTurns (run 11) (Script.logicalLines outerText)
        (scriptRun "/work" (scriptsRun "set ORIGIN \"lost\"")))[2]?).map
      (fun turn => (turn.1, turn.2.console.origin?)) =
        some ("set seen $ORIGIN", some (Token.path "/work")) := by
  decide +kernel

end Eval

end MachineConsole
