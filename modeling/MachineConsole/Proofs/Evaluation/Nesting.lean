import MachineConsole.Proofs.Evaluation.Bounds
import MachineConsole.Proofs.Evaluation.CurrentMachine
import MachineConsole.Proofs.Evaluation.Dispatch

/-!
Contract: how deeply an evaluation nests, and that it comes to its end.

Owns:
- `Returns`: an evaluation leaves the depth as it was, never goes deeper than the bound on nesting,
  and exhausts a sufficient recursion bound only by way of commands that have lines evaluated on
  their own level;
- `line_returns`, for every line.

Every way from one evaluation into another either raises the depth or is entered into the history,
and at the bound on nesting an invocation is refused. That is what bounds evaluations of texts that
the evaluator itself puts together.
-/

namespace MachineConsole

/-! ### Depth and history -/

namespace Eval

/-- The depth is as before, was never beyond the bound on nesting, and where the recursion bound was
`enough` for nesting, only lines evaluated on the same level exhausted it. -/
structure Returns (enough : Prop) (before : Console) (stop? : Option Stop) (after : Console) :
    Prop where
  depth : after.depth = before.depth
  entered : ∃ events, after.history = before.history ++ events ∧
    (∀ depth, Event.deepened depth ∈ events → depth ≤ Console.nestingBound) ∧
    (enough → stop? = some .exhausted → Event.reentered ∈ events)

namespace Returns

variable {enough : Prop}

theorem of_same {before after : Console} {stop? : Option Stop}
    (depth : after.depth = before.depth) (history : after.history = before.history)
    (answers : enough → stop? ≠ some .exhausted) : Returns enough before stop? after :=
  ⟨depth, [], by rw [history, List.append_nil], nofun,
    fun isEnough exhausted => absurd exhausted (answers isEnough)⟩

theorem of_record (console : Console) {event : Event}
    (shallow : ∀ depth, event = .deepened depth → depth ≤ Console.nestingBound) :
    Returns enough console none (console.record event) := by
  refine ⟨rfl, [event], rfl, ?_, nofun⟩
  intro depth deepened
  exact shallow depth (List.mem_singleton.mp deepened).symm

/-- One part after the other; the reason to stop is that of either. -/
theorem append {before between after : Console} {first? second? stop? : Option Stop}
    (first : Returns enough before first? between)
    (second : Returns enough between second? after)
    (either : stop? = first? ∨ stop? = second?) : Returns enough before stop? after := by
  obtain ⟨firstEvents, firstHistory, firstShallow, firstReentered⟩ := first.entered
  obtain ⟨secondEvents, secondHistory, secondShallow, secondReentered⟩ := second.entered
  refine ⟨second.depth.trans first.depth, firstEvents ++ secondEvents, ?_, ?_, ?_⟩
  · rw [secondHistory, firstHistory, List.append_assoc]
  · intro depth deepened
    cases List.mem_append.mp deepened with
    | inl early => exact firstShallow depth early
    | inr late => exact secondShallow depth late
  · intro isEnough exhausted
    cases either with
    | inl inFirst =>
        exact List.mem_append_left _ (firstReentered isEnough (inFirst.symm.trans exhausted))
    | inr inSecond =>
        exact List.mem_append_right _ (secondReentered isEnough (inSecond.symm.trans exhausted))

theorem weaken {stricter : Prop} {before after : Console} {stop? : Option Stop}
    (returns : Returns enough before stop? after) (sufficient : stricter → enough) :
    Returns stricter before stop? after := by
  obtain ⟨events, history, shallow, reentered⟩ := returns.entered
  exact ⟨returns.depth, events, history, shallow, fun isEnough => reentered (sufficient isEnough)⟩

theorem switched (console : Console) (machine? : Option MachineHandle) :
    Returns enough console none (console.switchMachine machine?) := by
  cases machine? with
  | none => exact of_same rfl rfl fun _ => nofun
  | some machine =>
      have selected : Returns enough console none (console.selectMachine machine) :=
        of_same rfl rfl fun _ => nofun
      exact selected.append (of_record _ nofun) (Or.inl rfl)

/-- What is done one level deeper. -/
theorem deeper {before after : Console} {stop? : Option Stop}
    (shallow : before.depth < Console.nestingBound)
    (inside : Returns enough before.descend stop? after) :
    Returns enough before stop? after.ascend := by
  obtain ⟨events, history, eventsShallow, reentered⟩ := inside.entered
  refine ⟨?_, .deepened (before.depth + 1) :: events, ?_, ?_, ?_⟩
  · change after.depth - 1 = before.depth
    rw [inside.depth]
    exact Nat.add_sub_cancel before.depth 1
  · change after.history = _
    rw [history]
    exact List.append_assoc before.history [.deepened (before.depth + 1)] events
  · intro depth deepened
    cases List.mem_cons.mp deepened with
    | inl same =>
        cases same
        exact shallow
    | inr later => exact eventsShallow depth later
  · exact fun isEnough exhausted => List.mem_cons_of_mem _ (reentered isEnough exhausted)

/-- What a command has evaluated on its own level, with whatever bound. -/
theorem reentered {before after : Console} {stop? : Option Stop} {anything : Prop}
    (inside : Returns enough (before.record .reentered) stop? after) :
    Returns anything before stop? after := by
  obtain ⟨events, history, shallow, _⟩ := inside.entered
  refine ⟨inside.depth, .reentered :: events, ?_, ?_, fun _ _ => List.mem_cons_self⟩
  · rw [history]
    exact List.append_assoc before.history [.reentered] events
  · intro depth deepened
    cases List.mem_cons.mp deepened with
    | inl other => cases other
    | inr later => exact shallow depth later

theorem change {before after : Console} (change : Change before after)
    (shallow : before.depth ≤ Console.nestingBound) : Returns enough before none after := by
  obtain ⟨event, enters, rfl⟩ | rfl | same := change.course
  · apply of_record before
    rintro depth rfl
    cases enters with
    | deepened => exact shallow
  · have asked : Returns enough before none before.withQuit := of_same rfl rfl fun _ => nofun
    have entered : Returns enough before.withQuit none before.requestQuit :=
      of_record before.withQuit nofun
    exact asked.append entered (Or.inl rfl)
  · exact of_same same.depth same.history fun _ => nofun

end Returns

/-! ### Dispatch -/

/-- Below a limit, what is begun returns; it has bound enough when two levels of recursion are left
for each level of nesting that is left, and some more. -/
def Nests (limit more bound : Nat) : Ending := fun before stop? after =>
  before.depth < limit →
    Returns (2 * (Console.nestingBound - before.depth) + more ≤ bound) before stop? after

/-- What holds of jobs: at the bound on nesting two levels are used, one for the lines of a text and
one for a line. -/
abbrev JobNests : Nat → Ending :=
  Nests (Console.nestingBound + 1) 2

/-- What holds of dispatch, below the bound on nesting. -/
abbrev DispatchNests : Nat → Ending :=
  Nests Console.nestingBound 0

theorem Nests.sequential (limit more bound : Nat) : Sequential (Nests limit more bound) where
  refl console _ := Returns.of_same rfl rfl fun _ => nofun
  sequence := by
    intro before between after stop? first second shallow
    have toBetween := first shallow
    unfold Nests at second
    rw [toBetween.depth] at second
    exact toBetween.append (second shallow) (Or.inr rfl)

theorem Nests.of_le {limit more bound more' bound' : Nat} {before after : Console}
    {stop? : Option Stop} (nests : Nests limit more bound before stop? after)
    (atLeast : bound' + more ≤ bound + more') : Nests limit more' bound' before stop? after :=
  fun shallow => (nests shallow).weaken (by omega)

theorem DispatchNests.lawful (bound : Nat) : Lawful (JobNests bound) (DispatchNests bound) where
  toSequential := Nests.sequential Console.nestingBound 0 bound
  deeper := by
    intro before after stop? inside shallow
    have depth : before.descend.depth = before.depth + 1 := rfl
    apply Returns.deeper shallow
    apply (inside (Nat.succ_lt_succ shallow)).weaken
    intro isEnough
    omega
  failed console fault _ := Returns.of_same rfl rfl fun _ => nofun
  change changes _ shallow := Returns.change changes (Nat.le_of_lt shallow)
  reentered inside shallow := (inside (Nat.lt_succ_of_lt shallow)).reentered
  script directory inside shallow := ⟨(inside shallow).depth, (inside shallow).entered⟩
  effect changes shallow := Returns.change changes (Nat.le_of_lt shallow)
  recovered inside shallow := by
    obtain ⟨events, history, eventsShallow, _⟩ := (inside shallow).entered
    exact ⟨(inside shallow).depth, events, history, eventsShallow, fun _ => nofun⟩

theorem DispatchNests.compositional (bound : Nat) :
    Compositional (JobNests bound) (DispatchNests bound) := by
  apply (DispatchNests.lawful bound).compositional
  intro start before after machine stop? earlier _ inside
  have sequential := Nests.sequential Console.nestingBound 0 bound
  have entered : DispatchNests bound before none (before.switchMachine (some machine)) :=
    fun _ => Returns.switched before (some machine)
  have played := sequential.sequence earlier (sequential.sequence entered inside)
  exact fun shallow => (played shallow).append
    (Returns.switched after before.session.currentMachine?) (Or.inl rfl)

theorem dispatchAndFollow_nests {bound : Nat}
    (nestedEnds : ∀ job start, EndsBy (JobNests bound) start (run bound job))
    (invocation : List Token) (start : Run) :
    EndsBy (DispatchNests bound) start (dispatchAndFollow (run bound) invocation) :=
  dispatchAndFollow_endsBy (DispatchNests.lawful bound) (DispatchNests.compositional bound)
    (Nests.sequential _ _ _) nestedEnds (DispatchNests.lawful bound).following
    (fun console _ => Returns.of_record console nofun) start

/-! ### The evaluator -/

/-- What holds of invocations and lines: at the bound on nesting nothing more is nested. -/
abbrev LineNests : Nat → Ending :=
  Nests (Console.nestingBound + 1) 0

theorem handleFailure_nests (bound : Nat) (command : String) (fault : Fault) (start : Run) :
    EndsBy (LineNests bound) start (handleFailure command fault) := by
  intro shallow
  unfold handleFailure
  rw [session_bind_run]
  split
  · exact Returns.of_record start.console nofun
  · exact Returns.of_same rfl rfl fun _ => nofun

theorem evaluateInvocation_nests {bound : Nat}
    (nestedEnds : ∀ job start, EndsBy (JobNests bound) start (run bound job))
    {invocation : List Token} (isInvocation : Token.IsInvocation invocation) (start : Run) :
    EndsBy (LineNests bound) start (evaluateInvocation (run bound) invocation) := by
  by_cases deep : Console.nestingBound ≤ start.console.depth
  · unfold EndsBy
    rw [evaluateInvocation_of_le invocation deep]
    exact handleFailure_nests bound _ _ start
  · have shallow := Nat.lt_of_not_le deep
    have ends := evaluateInvocation_endsBy_of_lt (DispatchNests.compositional bound)
      (Nests.sequential _ _ _) nestedEnds
      (fun invocation _ => dispatchAndFollow_nests nestedEnds invocation) isInvocation shallow
    exact fun _ => ends shallow

/-- Lines need one level of recursion more than invocations, and texts of lines one more still. -/
theorem run_nests (bound : Nat) :
    (∀ line start, EndsBy (Nests (Console.nestingBound + 1) 1 bound) start
      (run bound (.line line))) ∧
    ∀ job start, EndsBy (JobNests bound) start (run bound job) := by
  induction bound with
  | zero =>
      have never (more : Nat) (job : Job) (start : Run) (positive : 0 < more) :
          EndsBy (Nests (Console.nestingBound + 1) more 0) start (run 0 job) :=
        fun _ => Returns.of_same rfl rfl (by omega)
      exact ⟨fun line start => never 1 (.line line) start (by omega),
        fun job start => never 2 job start (by omega)⟩
  | succ bound inductionHypothesis =>
      obtain ⟨lineEnds, nestedEnds⟩ := inductionHypothesis
      have sequential := Nests.sequential (Console.nestingBound + 1) 0 bound
      have begun (console : Console) (invocations : List (List Token)) :
          LineNests bound console none (console.record (.begun invocations)) :=
        fun _ => Returns.of_record console nofun
      have tokensEnd : ∀ tokens start,
          EndsBy (LineNests bound) start (evaluateTokens (run bound) tokens) :=
        evaluateTokens_endsBy sequential begun fun _ => evaluateInvocation_nests nestedEnds
      have fed (console : Console) (line : String) : LineNests bound console none
          (console.updateSession fun session => (session.feed line).2) :=
        fun _ => Returns.of_same rfl rfl fun _ => nofun
      have lineReturns (line : String) (start : Run) :
          EndsBy (LineNests bound) start (run (bound + 1) (.line line)) :=
        evaluateLine_endsBy sequential fed tokensEnd line start
      refine ⟨fun line start => Nests.of_le (lineReturns line start) (by omega), ?_⟩
      intro job start
      cases job with
      | line line => exact Nests.of_le (lineReturns line start) (by omega)
      | tokens tokens => exact Nests.of_le (tokensEnd tokens start) (by omega)
      | lines text =>
          have linesEnd := evaluateLines_endsBy (Nests.sequential _ 1 bound) lineEnds
            (Script.logicalLines text) start
          exact Nests.of_le linesEnd (by omega)

/-- The recursion bound that a line needs at a depth. -/
def boundFor (depth : Nat) : Nat :=
  2 * (Console.nestingBound - depth) + 1

/-- A line leaves the depth as it found it, however it ends, and its evaluation never goes beyond the
bound on nesting. Unless a command has lines evaluated on its own level, it comes to an end of its
own, which no larger recursion bound changes: whatever variables, substitutions and reset macros
refer to. -/
theorem line_returns (line : String) (start : Run)
    (shallow : start.console.depth ≤ Console.nestingBound) (bound : Nat) :
    let ended := run bound (.line line) start
    ended.2.console.depth = start.console.depth ∧
    ∃ events, ended.2.console.history = start.console.history ++ events ∧
      (∀ depth, Event.deepened depth ∈ events → depth ≤ Console.nestingBound) ∧
      (boundFor start.console.depth ≤ bound → Event.reentered ∉ events →
        ended.1 ≠ .error .exhausted ∧
        ∀ larger, bound ≤ larger → run larger (.line line) start = ended) := by
  intro ended
  obtain ⟨depth, events, history, eventsShallow, reentered⟩ :=
    (run_nests bound).1 line start (Nat.lt_succ_of_le shallow)
  refine ⟨depth, events, history, eventsShallow, ?_⟩
  intro isEnough unreentered
  have finished : ended.1 ≠ .error .exhausted := by
    intro exhausted
    exact unreentered (reentered isEnough (congrArg stop? exhausted))
  exact ⟨finished, fun larger more => run_eq_of_le more finished⟩

/-- Two variables that stand for each other, one of them by way of a substitution. -/
def circularRun : Run :=
  afterLines ["set x \"$y\"", "set y \"`$x`\""]

/-- Whether an entry tells that a command had lines evaluated on its own level. -/
def isReentry : Event → Bool
  | .reentered => true
  | _ => false

theorem line_returns_circular :
    circularRun.console.depth ≤ Console.nestingBound ∧
      (run recursionBound (.line "$x") circularRun).1 ≠ .error .exhausted ∧
      (run recursionBound (.line "$x") circularRun).2.console.depth =
        circularRun.console.depth := by
  have shallow : circularRun.console.depth ≤ Console.nestingBound := by decide +kernel
  have isEnough : boundFor circularRun.console.depth ≤ recursionBound := by decide +kernel
  have throughout : (run recursionBound (.line "$x") circularRun).2.console.history.all
      (fun event => !isReentry event) = true := by
    decide +kernel
  obtain ⟨depth, events, history, _, finishes⟩ :=
    line_returns "$x" circularRun shallow recursionBound
  have unreentered : Event.reentered ∉ events := by
    intro reentered
    have entered := List.mem_append_right circularRun.console.history reentered
    rw [← history] at entered
    cases List.all_eq_true.mp throughout Event.reentered entered
  exact ⟨shallow, (finishes isEnough unreentered).1, depth⟩

end Eval

end MachineConsole
