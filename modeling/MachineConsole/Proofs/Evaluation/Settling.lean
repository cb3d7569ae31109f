import MachineConsole.Proofs.Evaluation.Levels
import MachineConsole.Proofs.Evaluation.Selection

/-!
Contract: when a replaced emulation is noticed.

Owns: `run_settles`: after an evaluation that came to its end, with a result or with a failure, no
replacement of the emulation has gone unnoticed, if none had before.

Within an invocation a replacement may go unnoticed; it is noticed before anything else is evaluated.
-/

namespace MachineConsole

namespace Console

theorem noticeReplacement_settled (console : Console) :
    console.noticeReplacement.selection.Settled := by
  unfold noticeReplacement
  dsimp only
  split
  · next unreplaced => exact unreplaced.symm
  · rfl

theorem settled_withWorld {console : Console} {world : World}
    (managers : world.managers = console.world.managers) (settled : console.selection.Settled) :
    (console.withWorld world).selection.Settled := by
  have kept : world.manager console.manager = console.world.manager console.manager := by
    unfold World.manager
    rw [managers]
  have before : console.generation = (console.world.manager console.manager).generation := settled
  exact before.trans (congrArg Manager.generation kept.symm)

end Console

namespace Eval

/-- Unless the recursion bound is exhausted, nothing has gone unnoticed at the end if nothing had at
the beginning. -/
def Settles (before : Console) (stop? : Option Stop) (after : Console) : Prop :=
  before.selection.Settled → stop? ≠ some .exhausted → after.selection.Settled

theorem Settles.compositional : Compositional Settles Settles where
  refl _ settled _ := settled
  sequence first second settled ended := second (first settled nofun) ended
  begun _ _ settled _ := settled
  substituted _ _ settled _ := settled
  fetched console uri settled _ := by
    rw [World.fetch_world]
    exact Console.settled_withWorld rfl settled
  fed _ _ settled _ := settled
  noticed console _ _ := console.noticeReplacement_settled
  resetTaken _ _ settled _ := Console.settled_withWorld rfl settled
  reported _ _ _ _ settled _ := settled
  handedBack _ _ _ settled _ := settled
  deeper inside := inside
  resetMacro := by
    intro start before after machine stop? earlier _ inside settled ended
    have inMacro : (before.switchMachine (some machine)).selection.Settled :=
      earlier settled nofun
    cases before.session.currentMachine? with
    | none => exact inside inMacro ended
    | some previous => exact inside inMacro ended

variable {nested : Nested}

/-- What follows an invocation settles the console, however the invocation left it. -/
theorem afterInvocation_settles (nestedEnds : ∀ job run, EndsBy Settles run (nested job))
    (run : Run) (ended : stop? (afterInvocation nested run).1 ≠ some .exhausted) :
    (afterInvocation nested run).2.console.selection.Settled := by
  rw [afterInvocation_run] at ended ⊢
  exact playResetMacros_endsBy Settles.compositional nestedEnds
    (Settles.compositional.refl run.console.noticeReplacement) (fun _ present => present)
    run.console.noticeReplacement_settled ended

theorem dispatchAndFollow_settles (nestedEnds : ∀ job run, EndsBy Settles run (nested job))
    (invocation : List Token) (run : Run) :
    EndsBy Settles run (dispatchAndFollow nested invocation) := by
  -- Dispatch may leave a replacement unnoticed, so nothing is asked of the console before.
  intro _ ended
  unfold dispatchAndFollow at ended ⊢
  rw [bind_run] at ended ⊢
  cases attempted : attempt (dispatchReporting nested invocation) run with
  | mk outcome dispatched =>
      rw [attempted] at ended
      cases outcome with
      | error stop =>
          cases attempt_stops attempted
          exact absurd rfl ended
      | ok result =>
          dsimp only at ended ⊢
          rw [bind_run] at ended ⊢
          have followed := afterInvocation_settles nestedEnds dispatched
          cases following : afterInvocation nested dispatched with
          | mk followOutcome after =>
              rw [following] at ended followed
              cases followOutcome with
              | error stop => exact followed ended
              | ok _ =>
                  dsimp only
                  rw [(Silent.ofExcept result).run after]
                  exact followed nofun

theorem run_settles (bound : Nat) (job : Job) (start : Run) :
    EndsBy Settles start (run bound job) :=
  run_endsBy Settles.compositional (fun _ _ ended => absurd rfl ended)
    (fun _ nestedEnds invocation _ => dispatchAndFollow_settles nestedEnds invocation)
    bound job start

end Eval

end MachineConsole
