import GraphFacade.Proofs.Types.Composition
import GraphFacade.Proofs.Types.Order

/-!
# Work that is finished

Mapping a schema leaves a registry in order, and every type that was there
before as it was.  So does all that is assembled of mappings.
-/

namespace GraphFacade

namespace Registry

/-- A later stage of a registry, in which the types of the earlier one are as they were. -/
structure Continues (r r' : Registry) : Prop where
  grown : Extends r r'
  kept : ∀ index < r.types.size, r'.types[index]? = r.types[index]?

variable {r r₁ r₂ : Registry}

theorem Continues.refl (r : Registry) : Continues r r :=
  ⟨Extends.refl r, fun _ _ => rfl⟩

theorem Continues.trans (h : Continues r r₁) (h' : Continues r₁ r₂) : Continues r r₂ := by
  refine ⟨h.grown.trans h'.grown, fun index there => ?_⟩
  have there' : index < r₁.types.size := Nat.lt_of_lt_of_le there h.grown.types
  rw [h'.kept index there', h.kept index there]

theorem Continues.type?_eq (h : Continues r r₁) {id : TypeId} (there : (r.type? id).isSome) :
    r₁.type? id = r.type? id := by
  unfold type? at there ⊢
  rw [h.grown.realm]
  split at there
  · rename_i same
    rw [if_pos same, if_pos same]
    exact h.kept id.index (by simpa using there)
  · simp at there

end Registry

namespace Workshop

open Registry Steps

def Continuing {α : Type} (step : Step α) : Prop :=
  ∀ w a w', step w = .ok a w' -> Orderly w.registry ->
    Continues w.registry w'.registry ∧ Orderly w'.registry

theorem continuing_sequences : Sequences (fun _ => True) Continuing where
  pure a w b w' h orderly := by
    rw [(pure_eq_ok.mp h).2] at orderly ⊢
    exact ⟨Continues.refl _, orderly⟩
  throw _ w a w' h := by simp at h
  bind first later w b w' h orderly := by
    obtain ⟨a, w₁, start, rest⟩ := bind_eq_ok.mp h
    obtain ⟨continues, orderly₁⟩ := first w a w₁ start orderly
    obtain ⟨continues', orderly'⟩ := later a w₁ b w' rest orderly₁
    exact ⟨continues.trans continues', orderly'⟩
  current w r w' h orderly := by
    simp only [current, EStateM.Result.ok.injEq] at h
    rw [h.2] at orderly ⊢
    exact ⟨Continues.refl _, orderly⟩
  report event w a w' h orderly := by
    simp only [report, EStateM.Result.ok.injEq] at h
    rw [← h.2]
    exact ⟨Continues.refl _, orderly⟩

end Workshop

namespace Mapping

open Registry Workshop

/-- Mapping a schema touches no type that was made before. -/
theorem mapSchema_continuing (schema : Schema) (origin : Origin) (isInput : Bool) (hint : String)
    (required : Bool) : Continuing (mapSchema schema origin isInput hint required) := by
  intro w ref w' h orderly
  obtain ⟨grown, orderly', _⟩ := mapSchema_orderly h orderly
  obtain ⟨visits, type, _, maps⟩ := mapSchema_maps h
  exact ⟨⟨grown, fun index there => maps.kept there not_false⟩, orderly'⟩

end Mapping

namespace Assembly

open Workshop Mapping

theorem mapParameters_continuing (operationId : Json) (key : Atom) (part : Nat)
    (arguments : Entries Argument) (parameters : List Parameter) :
    Continuing (mapParameters operationId key part arguments parameters) :=
  mapParameters_sequences continuing_sequences (fun _ _ => trivial) mapSchema_continuing
    operationId key part arguments parameters

theorem responseType_continuing (key : Atom) (endpoint : Endpoint) :
    Continuing (responseType key endpoint) :=
  responseType_sequences continuing_sequences mapSchema_continuing trivial key endpoint

theorem fieldOf_continuing (key : Atom) (endpoint : Endpoint) :
    Continuing (fieldOf key endpoint) :=
  fieldOf_sequences continuing_sequences (fun _ _ => trivial) mapSchema_continuing key endpoint

theorem fieldsOf_continuing (fields : Entries Field) (endpoints : EndpointSet) :
    Continuing (fieldsOf fields endpoints) :=
  fieldsOf_sequences continuing_sequences (fun _ _ => trivial) mapSchema_continuing fields endpoints

theorem partition_continuing (endpoints : EndpointSet) (mutation : Bool) :
    Continuing (partition endpoints mutation) :=
  partition_sequences continuing_sequences (fun _ _ => trivial) mapSchema_continuing endpoints
    mutation

end Assembly

end GraphFacade
