import GraphFacade.Proofs.Types.Clashes

/-!
# Reports have no effect

What mapping and assembling give does not depend on what was reported before.
So a run that assembles endpoints gives what plain functions give, and leaves
some log.
-/

namespace GraphFacade

namespace Run

open Steps

variable {α β : Type}

/-- A run that gives a certain result, whatever the log it starts with. -/
def Gives (run : Run α) (result : Except Fault α) : Prop :=
  ∀ log, ∃ log', run log =
    match result with
    | .ok a => .ok a log'
    | .error fault => .error fault log'

theorem gives_pure (a : α) : Gives (pure a) (pure a) :=
  fun log => ⟨log, rfl⟩

theorem gives_throw (fault : Fault) : Gives (throw fault : Run α) (throw fault) :=
  fun log => ⟨log, rfl⟩

theorem gives_ofExcept (result : Except Fault α) : Gives (MonadExcept.ofExcept result) result := by
  intro log
  refine ⟨log, ?_⟩
  rw [ofExcept_apply]
  cases result <;> rfl

theorem gives_report (event : Event) : Gives (Run.report event) (pure ()) :=
  fun log => ⟨log.push event, rfl⟩

theorem Gives.bind {run : Run α} {result : Except Fault α} {next : α -> Run β}
    {next' : α -> Except Fault β} (first : Gives run result)
    (later : ∀ a, Gives (next a) (next' a)) : Gives (run >>= next) (result >>= next') := by
  intro log
  obtain ⟨log', gives⟩ := first log
  rw [bind_apply, gives]
  cases result with
  | ok a => exact later a log'
  | error fault => exact ⟨log', rfl⟩

theorem Gives.ok {run : Run α} {result : Except Fault α} (h : Gives run result) {a : α}
    {log log' : Log} (ended : run log = .ok a log') : result = .ok a := by
  obtain ⟨log'', gives⟩ := h log
  rw [ended] at gives
  cases result with
  | ok b =>
      simp only [EStateM.Result.ok.injEq] at gives
      rw [gives.1]
  | error fault => simp at gives

theorem Gives.error {run : Run α} {result : Except Fault α} (h : Gives run result) {fault : Fault}
    {log log' : Log} (failed : run log = .error fault log') : result = .error fault := by
  obtain ⟨log'', gives⟩ := h log
  rw [failed] at gives
  cases result with
  | ok b => simp at gives
  | error fault' =>
      simp only [EStateM.Result.error.injEq] at gives
      rw [gives.1]

end Run

namespace Workshop

open Steps

variable {α β : Type}

def outcome : EStateM.Result Fault Workshop α -> Except Fault (α × Registry)
  | .ok a w => .ok (a, w.registry)
  | .error fault _ => .error fault

def Unlogged (step : Step α) : Prop :=
  ∀ r log log', outcome (step ⟨r, log⟩) = outcome (step ⟨r, log'⟩)

theorem Unlogged.bind {step : Step α} {next : α -> Step β} (first : Unlogged step)
    (later : ∀ a, Unlogged (next a)) : Unlogged (step >>= next) := by
  intro r log log'
  have same := first r log log'
  rw [bind_apply, bind_apply]
  cases result : step ⟨r, log⟩ with
  | ok a w =>
      cases result' : step ⟨r, log'⟩ with
      | ok a' w' =>
          rw [result, result'] at same
          simp only [outcome, Except.ok.injEq, Prod.mk.injEq] at same
          obtain ⟨rfl, registries⟩ := same
          rcases w with ⟨registry, more⟩
          rcases w' with ⟨registry', more'⟩
          simp only at registries
          subst registries
          exact later a registry more more'
      | error fault w' => simp [result, result', outcome] at same
  | error fault w =>
      cases result' : step ⟨r, log'⟩ with
      | ok a' w' => simp [result, result', outcome] at same
      | error fault' w' =>
          rw [result, result'] at same
          simpa [outcome] using same

theorem unlogged_composes : Composes (fun _ => True) Unlogged where
  pure _ _ _ _ := rfl
  throw _ _ _ _ := rfl
  bind := Unlogged.bind
  current _ _ _ := rfl
  change _ _ _ _ := rfl
  report _ _ _ _ := rfl

end Workshop

namespace Assembly

open Workshop

def assembled (realm : Option String) (endpoints : EndpointSet) :
    Except Fault (RootFields × Registry) :=
  outcome (assemble endpoints ⟨{ realm }, #[]⟩)

/-- What is assembled is what a run on a new registry ends with. -/
theorem assembled_eq_ok {realm : Option String} {endpoints : EndpointSet} {fields : RootFields}
    {registry : Registry} :
    assembled realm endpoints = .ok (fields, registry) ↔
      ∃ w, assemble endpoints ⟨{ realm }, #[]⟩ = .ok fields w ∧ w.registry = registry := by
  unfold assembled
  cases assemble endpoints ⟨{ realm }, #[]⟩ <;> simp [outcome]

theorem withRegistry_gives (realm : Option String) (endpoints : EndpointSet) :
    (withRegistry realm (assemble endpoints)).Gives (assembled realm endpoints) := by
  intro log
  rw [assembled, assemble_composes unlogged_composes (fun _ _ => trivial) endpoints _ #[] log]
  unfold withRegistry EStateM.run
  cases assemble endpoints ⟨{ realm }, log⟩ with
  | ok fields w => exact ⟨w.log, rfl⟩
  | error fault w => exact ⟨w.log, rfl⟩

/-- What is assembled in a realm: a registry in order, and fields of its types. -/
theorem assembled_keeps {realm : Option String} {endpoints : EndpointSet} {fields : RootFields}
    {registry : Registry} (h : assembled realm endpoints = .ok (fields, registry)) :
    registry.realm = realm ∧ Registry.Orderly registry ∧ Held registry fields.query ∧
      Held registry fields.mutation := by
  obtain ⟨log, gives⟩ := withRegistry_gives realm endpoints #[]
  rw [h] at gives
  exact withRegistry_assemble gives

/-- The facade of one set of endpoints is that of its fields and the types behind them. -/
theorem single_assembled {endpoints : EndpointSet} {facade : Facade} {log log' : Log}
    (h : single endpoints log = .ok facade log') :
    ∃ fields registry, assembled none endpoints = .ok (fields, registry) ∧
      facade = ⟨[registry], fields.query, fields.mutation⟩ := by
  rw [single_eq] at h
  cases ended : withRegistry none (assemble endpoints) log with
  | error fault log₁ => simp [ended] at h
  | ok result log₁ =>
      rcases result with ⟨fields, registry⟩
      have result := (withRegistry_gives none endpoints).ok ended
      obtain ⟨_, orderly, query, mutation⟩ := assembled_keeps result
      simp only [ended] at h
      split at h
      · simp at h
      · rename_i whole made
        simp only [EStateM.Result.ok.injEq] at h
        have closed := closed_of_orderly orderly query mutation
        exact ⟨fields, registry, result, h.1 ▸ ((Facade.make_eq_ok closed).mp made).1⟩

theorem assembled_fails {realm : Option String} {endpoints : EndpointSet} {fault : Fault}
    (h : assembled realm endpoints = .error fault) : Refuses fault := by
  unfold assembled outcome at h
  split at h
  · simp at h
  · rename_i cause w failed
    rw [← Except.error.inj h]
    exact assemble_fails endpoints _ _ _ failed

end Assembly

end GraphFacade
