import MachineConsole.World.Basic

/-!
Contract: what it means to do one thing after another, where things have a state and may fail.

Owns:
- the equations of sequencing for actions on the world, actions of extensions and computations of a
  console alike;
- `mapM_eq_ok_iff`: when an action that may fail succeeds for every item of a list.
-/

namespace MachineConsole

variable {ε σ α β : Type}

theorem bind_run (action : ExceptT ε (StateM σ) α) (next : α → ExceptT ε (StateM σ) β)
    (state : σ) :
    (action >>= next) state =
      match action state with
      | (.ok value, after) => next value after
      | (.error cause, after) => (.error cause, after) := by
  simp only [bind, ExceptT.bind, ExceptT.mk, StateT.bind]
  cases action state with
  | mk result after =>
      cases result with
      | ok value => rfl
      | error cause => rfl

theorem bind_run_of_ok {action : ExceptT ε (StateM σ) α} {state after : σ} {value : α}
    (first : action state = (.ok value, after)) (next : α → ExceptT ε (StateM σ) β) :
    (action >>= next) state = next value after := by
  rw [bind_run, first]

theorem bind_run_of_error {action : ExceptT ε (StateM σ) α} {state after : σ} {cause : ε}
    (first : action state = (.error cause, after)) (next : α → ExceptT ε (StateM σ) β) :
    (action >>= next) state = (.error cause, after) := by
  rw [bind_run, first]

/-- What has a result had one in its first part. -/
theorem of_bind_run {action : ExceptT ε (StateM σ) α} {next : α → ExceptT ε (StateM σ) β}
    {state after : σ} {value : β} (ended : (action >>= next) state = (.ok value, after)) :
    ∃ result between, action state = (.ok result, between) ∧
      next result between = (.ok value, after) := by
  rw [bind_run] at ended
  cases first : action state with
  | mk outcome between =>
      rw [first] at ended
      cases outcome with
      | ok result => exact ⟨result, between, rfl, ended⟩
      | error cause => cases ended

/-- Actions without a state that are done for one item after the other succeed exactly when each of
them does. -/
theorem mapM_eq_ok_iff {action : α → Except ε β} {items : List α} {results : List β} :
    items.mapM action = .ok results ↔ items.map action = results.map .ok := by
  induction items generalizing results with
  | nil =>
      rw [List.mapM_nil, List.map_nil]
      cases results with
      | nil => exact ⟨fun _ => rfl, fun _ => rfl⟩
      | cons result others => exact ⟨nofun, nofun⟩
  | cons item rest inductionHypothesis =>
      rw [List.mapM_cons, List.map_cons]
      cases results with
      | nil =>
          cases action item with
          | error cause => exact ⟨nofun, nofun⟩
          | ok value => cases rest.mapM action <;> exact ⟨nofun, nofun⟩
      | cons result others =>
          rw [List.map_cons, List.cons.injEq, ← inductionHypothesis]
          cases action item with
          | error cause => exact ⟨nofun, fun both => nomatch both.1⟩
          | ok value =>
              cases rest.mapM action with
              | error cause => exact ⟨nofun, fun both => nomatch both.2⟩
              | ok values => simp [bind, Except.bind, pure, Except.pure]

theorem mem_of_mapM {action : α → Except ε β} {items : List α} {results : List β}
    (succeeded : items.mapM action = .ok results) :
    ∀ result ∈ results, ∃ item ∈ items, action item = .ok result := by
  intro result member
  rw [← List.mem_map, mapM_eq_ok_iff.mp succeeded]
  exact List.mem_map_of_mem member

theorem get_bind_run (next : σ → ExceptT ε (StateM σ) β) (state : σ) :
    ((get : ExceptT ε (StateM σ) σ) >>= next) state = next state state :=
  rfl

theorem set_bind_run (given : σ) (next : PUnit → ExceptT ε (StateM σ) β) (state : σ) :
    ((set given : ExceptT ε (StateM σ) PUnit) >>= next) state = next ⟨⟩ given :=
  rfl

end MachineConsole
