import GraphFacade.Proofs.Entries
import GraphFacade.Proofs.Steps
import GraphFacade.Types.Assembly

/-!
# When assembling returns

What has happened when the loops over parameters and endpoints, and the passes
over the endpoints of one kind, end well.
-/

namespace GraphFacade

open Steps

variable {w w' : Workshop}

/-- A parameter that is mapped gives an argument of a name that is not there yet; its operation's
id has a text. -/
theorem Mapping.mapParameters_cons_ok {operationId : Json} {key : Atom} {part : Nat}
    {arguments arguments' : Entries Argument} {parameter : Parameter} {rest : List Parameter} :
    mapParameters operationId key part arguments (parameter :: rest) w = .ok arguments' w' ↔
      ∃ name, parameter.argument? = some name ∧ name ∉ arguments.map Prod.fst ∧
        operationId.longest ≤ Text.digitLimit ∧ ∃ type w₁,
        mapSchema parameter.schema ⟨key, part⟩ true (operationId.display ++ "_" ++ name)
          parameter.required w = .ok type w₁ ∧
        mapParameters operationId key (part + 1)
          (arguments ++ [(name, ⟨type, describe parameter.description⟩)]) rest w₁ =
            .ok arguments' w' := by
  rw [mapParameters]
  cases named : parameter.argument? with
  | none => simp
  | some name =>
      simp only [Option.some.injEq, exists_eq_left', ← Entries.has_iff]
      by_cases clash : Entries.has name arguments
      · simp [clash]
      · simp [clash, bind_eq_ok, ofExcept_eq_ok, Json.shown_eq_ok, and_assoc]

namespace Assembly

variable {fields fields' : Entries Field} {key : Atom} {endpoint : Endpoint}
  {endpoints rest : EndpointSet} {mutation : Bool}

/-- The type of an endpoint's answers is made where the endpoint's id has a text. -/
theorem responseType_eq_ok {type : TypeRef} :
    responseType key endpoint w = .ok type w' ↔
      endpoint.operationId.longest ≤ Text.digitLimit ∧
        match endpoint.response with
        | some schema =>
            Mapping.mapSchema schema ⟨key, 0⟩ false
              (endpoint.operationId.display ++ "_response") true w = .ok type w'
        | none => ∃ inner,
            Mapping.degrade (endpoint.operationId.display ++ "_response") "empty-object" w =
              .ok inner w' ∧ .nonNull inner = type := by
  unfold responseType
  cases endpoint.response with
  | some schema => simp [bind_eq_ok, ofExcept_eq_ok, Json.shown_eq_ok, and_assoc]
  | none => simp [bind_eq_ok, ofExcept_eq_ok, map_eq_ok, Json.shown_eq_ok, and_assoc]

/-- An endpoint gives a field of a name that is not there yet. -/
theorem fieldsOf_cons_ok :
    fieldsOf fields ((key, endpoint) :: rest) w = .ok fields' w' ↔
      ∃ name, Name.ofJson? (.atom key) = some name ∧ name ∉ fields.map Prod.fst ∧ ∃ field w₁,
        fieldOf key endpoint w = .ok field w₁ ∧
        fieldsOf (fields ++ [(name, field)]) rest w₁ = .ok fields' w' := by
  rw [fieldsOf]
  cases named : Name.ofJson? (.atom key) with
  | none => simp
  | some name =>
      simp only [Option.some.injEq, exists_eq_left', ← Entries.has_iff]
      by_cases clash : Entries.has name fields
      · simp [clash]
      · simp [clash, bind_eq_ok]

theorem partition_eq (endpoints : EndpointSet) (mutation : Bool) (w : Workshop) :
    partition endpoints mutation w =
      match endpoints.sorted with
      | .ok sorted => fieldsOf [] (sorted.filter fun entry => entry.2.mutation == mutation) w
      | .error fault => .error fault w := by
  rw [partition, bind_apply, ofExcept_apply]
  cases endpoints.sorted <;> rfl

/-- The endpoints of one kind are taken in the order of all of them. -/
theorem partition_eq_ok :
    partition endpoints mutation w = .ok fields w' ↔
      ∃ sorted, endpoints.sorted = .ok sorted ∧
        fieldsOf [] (sorted.filter fun entry => entry.2.mutation == mutation) w =
          .ok fields w' := by
  rw [partition_eq]
  cases endpoints.sorted <;> simp

/-- Mutations come after the queries, of which there are some. -/
theorem assemble_eq_ok {fields : RootFields} :
    assemble endpoints w = .ok fields w' ↔
      ∃ w₁, partition endpoints false w = .ok fields.query w₁ ∧ fields.query ≠ [] ∧
        partition endpoints true w₁ = .ok fields.mutation w' := by
  rcases fields with ⟨query, mutation⟩
  simp only [assemble, bind_eq_ok]
  constructor
  · rintro ⟨made, w₁, queries, h⟩
    split at h
    · simp [bind_eq_ok] at h
    · rename_i some'
      simp only [bind_eq_ok, pure_eq_ok, RootFields.mk.injEq] at h
      obtain ⟨_, _, mutations, ⟨rfl, rfl⟩, rfl⟩ := h
      exact ⟨w₁, queries, by simpa using some', mutations⟩
  · rintro ⟨w₁, queries, some', mutations⟩
    refine ⟨query, w₁, queries, ?_⟩
    rw [if_neg (by simpa using some')]
    exact bind_eq_ok.mpr ⟨mutation, w', mutations, rfl⟩

end Assembly

end GraphFacade
