import GraphFacade.Proofs.Types.Composition

/-!
# How assembling fails

The faults that mapping a schema can end in, and those that come on top when
endpoints are assembled.
-/

namespace GraphFacade

namespace Workshop

open Steps

def FailsWith {α : Type} (kind : Fault -> Prop) (step : Step α) : Prop :=
  ∀ w fault w', step w = .error fault w' -> kind fault

theorem failsWith_composes (kind : Fault -> Prop) : Composes kind (FailsWith kind) where
  pure _ _ _ _ h := by simp at h
  throw allowed _ _ _ h := (throw_eq_error.mp h).1 ▸ allowed
  bind first later w fault w' h := by
    rcases bind_eq_error.mp h with failed | ⟨a, w₁, _, failed⟩
    · exact first w fault w' failed
    · exact later a w₁ fault w' failed
  current _ _ _ h := by simp [current] at h
  change _ _ _ _ h := by simp [change] at h
  report _ _ _ _ h := by simp [report] at h

end Workshop

namespace Assembly

open Workshop

theorem assemble_fails (endpoints : EndpointSet) : FailsWith Refuses (assemble endpoints) :=
  assemble_composes (failsWith_composes Refuses) (fun _ => id) endpoints

end Assembly

end GraphFacade
