import GraphFacade.Proofs.Types.Failing
import GraphFacade.Proofs.Types.Order
import GraphFacade.Proofs.Types.Reaching

/-!
# Clashes of names in one facade

What assembling a set of endpoints leaves is a registry in order, and fields
that lead to its types.  The facade made of them is refused exactly when two
different types that it reaches have one name; nothing checks that before.
-/

namespace GraphFacade

namespace Assembly

open Registry Workshop Steps

/-! ## Fields of endpoints -/

def Held (r : Registry) (fields : Entries Field) : Prop :=
  ∀ ref ∈ (NamedType.object "" .null fields).references, r.Holds ref

theorem Held.mono {r r' : Registry} {fields : Entries Field} (h : Held r fields)
    (extends' : Extends r r') : Held r' fields :=
  fun ref member => (h ref member).mono extends'

/-- What a step on a registry keeps, and what it gives. -/
structure Keeps (w w' : Workshop) : Prop where
  grown : Extends w.registry w'.registry
  orderly : Orderly w'.registry

theorem responseType_keeps {key : Atom} {endpoint : Endpoint} {w w' : Workshop} {type : TypeRef}
    (h : responseType key endpoint w = .ok type w') (orderly : Orderly w.registry) :
    Keeps w w' ∧ w'.registry.Holds type := by
  obtain ⟨_, h⟩ := responseType_eq_ok.mp h
  cases response : endpoint.response with
  | some schema =>
      rw [response] at h
      obtain ⟨grown, orderly', holds⟩ := Mapping.mapSchema_orderly h orderly
      exact ⟨⟨grown, orderly'⟩, holds⟩
  | none =>
      rw [response] at h
      obtain ⟨inner, degraded, rfl⟩ := h
      obtain ⟨rfl, same⟩ := Mapping.degrade_ok degraded
      refine ⟨⟨same ▸ Extends.refl _, same ▸ orderly⟩, ?_⟩
      rintro id named
      cases named

theorem fieldOf_keeps {key : Atom} {endpoint : Endpoint} {w w' : Workshop} {field : Field}
    (h : fieldOf key endpoint w = .ok field w') (orderly : Orderly w.registry) :
    Keeps w w' ∧ ∀ name, Held w'.registry [(name, field)] := by
  simp only [fieldOf, bind_eq_ok, pure_eq_ok] at h
  obtain ⟨type, w₁, mapped, arguments, w₂, others, rfl, rfl⟩ := h
  obtain ⟨first, holds⟩ := responseType_keeps mapped orderly
  obtain ⟨grown, orderly', holds'⟩ :=
    Mapping.mapParameters_orderly others first.orderly (by simp)
  refine ⟨⟨first.grown.trans grown, orderly'⟩, ?_⟩
  intro name ref member
  simp only [NamedType.references, List.flatMap_cons, List.flatMap_nil, List.append_nil,
    List.mem_cons, List.mem_map] at member
  rcases member with rfl | ⟨argument, there, rfl⟩
  · exact holds.mono grown
  · exact holds' argument there

theorem fieldsOf_keeps {fields fields' : Entries Field} {endpoints : EndpointSet}
    {w w' : Workshop} (h : fieldsOf fields endpoints w = .ok fields' w')
    (orderly : Orderly w.registry) (held : Held w.registry fields) :
    Keeps w w' ∧ Held w'.registry fields' := by
  induction endpoints generalizing fields w with
  | nil =>
      simp only [fieldsOf, pure_eq_ok] at h
      obtain ⟨rfl, rfl⟩ := h
      exact ⟨⟨Extends.refl _, orderly⟩, held⟩
  | cons entry rest ih =>
      rcases entry with ⟨key, endpoint⟩
      obtain ⟨name, _, _, field, w₁, made, others⟩ := fieldsOf_cons_ok.mp h
      obtain ⟨first, heldField⟩ := fieldOf_keeps made orderly
      have held₁ : Held w₁.registry (fields ++ [(name, field)]) := by
        intro ref member
        simp only [NamedType.references, List.flatMap_append, List.mem_append] at member
        rcases member with old | new
        · exact (held ref old).mono first.grown
        · exact heldField name ref new
      obtain ⟨later, held'⟩ := ih others first.orderly held₁
      exact ⟨⟨first.grown.trans later.grown, later.orderly⟩, held'⟩

theorem partition_keeps {endpoints : EndpointSet} {mutation : Bool} {w w' : Workshop}
    {fields : Entries Field} (h : partition endpoints mutation w = .ok fields w')
    (orderly : Orderly w.registry) : Keeps w w' ∧ Held w'.registry fields := by
  obtain ⟨sorted, _, made⟩ := partition_eq_ok.mp h
  exact fieldsOf_keeps made orderly (by simp [Held, NamedType.references])

theorem assemble_keeps {endpoints : EndpointSet} {w w' : Workshop} {fields : RootFields}
    (h : assemble endpoints w = .ok fields w') (orderly : Orderly w.registry) :
    Keeps w w' ∧ Held w'.registry fields.query ∧ Held w'.registry fields.mutation := by
  obtain ⟨w₁, queries, _, mutations⟩ := assemble_eq_ok.mp h
  obtain ⟨first, heldQuery⟩ := partition_keeps queries orderly
  obtain ⟨later, heldMutation⟩ := partition_keeps mutations first.orderly
  exact ⟨⟨first.grown.trans later.grown, later.orderly⟩, heldQuery.mono later.grown, heldMutation⟩

/-! ## The facade of one set of endpoints -/

section Single

variable {registry : Registry} {query mutation : Entries Field}

theorem known_of_holds {ref : TypeRef} {member : Member} (holds : registry.Holds ref)
    (leads : Facade.member? ref = some member) :
    Facade.Known ⟨[registry], query, mutation⟩ member := by
  rcases Facade.member?_cases leads with ⟨id, rfl, named⟩ | rfl
  · obtain ⟨realm, inside⟩ := holds id named
    simp [Facade.Known, Facade.type?, Registry.type?, realm, inside]
  · trivial

theorem closed_of_orderly (orderly : Orderly registry) (heldQuery : Held registry query)
    (heldMutation : Held registry mutation) : Facade.Closed ⟨[registry], query, mutation⟩ := by
  rintro member next leads
  obtain ⟨ref, there, leads⟩ := List.mem_filterMap.mp leads
  refine known_of_holds ?_ leads
  cases member with
  | query => exact heldQuery ref there
  | mutation => exact heldMutation ref there
  | json => simp [Facade.memberReferences] at there
  | named id =>
      simp only [Facade.memberReferences, Facade.type?, List.findSome?_singleton] at there
      cases found : registry.type? id with
      | none => simp [found] at there
      | some type =>
          simp only [found, Option.map_some, Option.getD_some] at there
          unfold Registry.type? at found
          split at found
          · exact orderly.closed found ref there
          · simp at found

/-- A named type that is there has one key, and is named after it. -/
theorem key_of_known (orderly : Orderly registry) {id : TypeId}
    (known : Facade.Known ⟨[registry], query, mutation⟩ (.named id)) :
    ∃ key, (key, .named id) ∈ registry.entries ∧
      (∀ other, (other, .named id) ∈ registry.entries -> other = key) ∧
      Facade.memberName ⟨[registry], query, mutation⟩ (.named id) =
        registry.typeName key.title key.role ∧
      registry.typeName key.title key.role ∉ reservedTypeNames := by
  rcases id with ⟨realm, index⟩
  simp only [Facade.Known, Facade.type?, List.findSome?_singleton] at known
  obtain ⟨type, found⟩ := Option.isSome_iff_exists.mp known
  have there := found
  unfold Registry.type? at there
  split at there
  · rename_i same
    simp only at same there
    subst same
    obtain ⟨key, entry, named, allowed⟩ := orderly.entry_of_type there
    refine ⟨key, List.mem_of_getElem? entry, ?_, ?_, named ▸ allowed⟩
    · intro key' member
      obtain ⟨i, place⟩ := List.mem_iff_getElem?.mp member
      obtain ⟨_, same, _⟩ := orderly.entries place
      simp only [TypeRef.named.injEq, TypeId.mk.injEq, true_and] at same
      subst same
      rw [entry, Option.some.injEq, Prod.mk.injEq] at place
      exact place.1.symm
    · simp [Facade.memberName, Facade.nameOf, Facade.type?, found, named]
  · simp at there

theorem single_eq (endpoints : EndpointSet) (log : Log) :
    single endpoints log =
      match withRegistry none (assemble endpoints) log with
      | .error fault log' => .error fault log'
      | .ok (fields, registry) log' =>
          match Facade.make [registry] fields.query fields.mutation with
          | .error fault => .error fault log'
          | .ok facade => .ok facade (log'.push
              (.schemaAssembled fields.query.length fields.mutation.length registry.size)) := by
  simp only [single, bind_apply, ofExcept_apply]
  cases withRegistry none (assemble endpoints) log with
  | error fault log' => rfl
  | ok result log' =>
      rcases result with ⟨fields, registry⟩
      cases made : Facade.make [registry] fields.query fields.mutation with
      | error fault => simp only [made]
      | ok facade =>
          simp only [made]
          rfl

end Single

/-- A registry that assembling leaves is in order, and the fields lead to its types. -/
theorem withRegistry_assemble {endpoints : EndpointSet} {realm : Option String} {log log' : Log}
    {fields : RootFields} {registry : Registry}
    (h : withRegistry realm (assemble endpoints) log = .ok (fields, registry) log') :
    registry.realm = realm ∧ Orderly registry ∧ Held registry fields.query ∧
      Held registry fields.mutation := by
  unfold withRegistry at h
  split at h
  · rename_i w assembled
    simp only [EStateM.Result.ok.injEq, Prod.mk.injEq] at h
    obtain ⟨⟨rfl, rfl⟩, _⟩ := h
    obtain ⟨keeps, held⟩ := assemble_keeps assembled (orderly_new realm)
    exact ⟨keeps.grown.realm, keeps.orderly, held⟩
  · simp at h

/--
The facade of one set of endpoints.  If assembling fails, then in one of the
ways that are known, and making the facade fails likewise.  If it ends well, the
facade is made if and only if no two different types that it reaches have one
name; otherwise the type system refuses it for such a name, which is not a fault
of construction.  Every named type that is reached has a key of its own, and is
named after the title and the role of that key alone, since there is no realm.
-/
theorem single_clashes (endpoints : EndpointSet) (log : Log) :
    (∀ fault log', withRegistry none (assemble endpoints) log = .error fault log' ->
      single endpoints log = .error fault log' ∧ Refuses fault) ∧
    ∀ fields registry log',
      withRegistry none (assemble endpoints) log = .ok (fields, registry) log' ->
      let facade : Facade := ⟨[registry], fields.query, fields.mutation⟩
      ((∃ made log'', single endpoints log = .ok made log'') ↔ facade.NamesApart) ∧
      (∀ made log'', single endpoints log = .ok made log'' -> made = facade) ∧
      (∀ fault log'', single endpoints log = .error fault log'' ->
        fault.family = .other ∧ ∃ name first second, fault = .repeatedType name ∧
          first ≠ second ∧ facade.Reachable first ∧ facade.Reachable second ∧
          facade.memberName first = name ∧ facade.memberName second = name) ∧
      (∀ id, facade.Reachable (.named id) -> ∃ key, (key, .named id) ∈ registry.entries ∧
        (∀ other, (other, .named id) ∈ registry.entries -> other = key) ∧
        facade.memberName (.named id) = registry.typeName key.title key.role ∧
        registry.typeName key.title key.role ∉ reservedTypeNames) ∧
      registry.realm = none ∧ (registry.entries.map Prod.fst).Nodup := by
  constructor
  · intro fault log' failed
    rw [single_eq, failed]
    refine ⟨rfl, ?_⟩
    unfold withRegistry at failed
    split at failed
    · simp at failed
    · rename_i w refused
      simp only [EStateM.Result.error.injEq] at failed
      exact failed.1 ▸ assemble_fails endpoints _ _ _ refused
  · intro fields registry log' assembled facade
    obtain ⟨realm, orderly, heldQuery, heldMutation⟩ := withRegistry_assemble assembled
    have closed : facade.Closed := closed_of_orderly orderly heldQuery heldMutation
    rw [single_eq, assembled]
    dsimp only
    cases made : Facade.make [registry] fields.query fields.mutation with
    | ok whole =>
        obtain ⟨rfl, apart⟩ := (Facade.make_eq_ok closed).mp made
        refine ⟨by simpa using apart, ?_, by simp, ?_, realm, orderly.keys⟩
        · intro other log'' same
          simp only [EStateM.Result.ok.injEq] at same
          exact same.1.symm
        · exact fun id reached => key_of_known orderly (Facade.known_of_reachable closed reached)
    | error fault =>
        obtain ⟨name, first, second, rfl, clash⟩ := Facade.make_eq_error closed made
        refine ⟨?_, by simp, ?_, ?_, realm, orderly.keys⟩
        · constructor
          · simp
          · intro apart
            rw [(Facade.make_eq_ok closed).mpr ⟨rfl, apart⟩] at made
            simp at made
        · intro other log'' same
          simp only [EStateM.Result.error.injEq] at same
          obtain ⟨rfl, _⟩ := same
          exact ⟨rfl, name, first, second, rfl, clash⟩
        · exact fun id reached => key_of_known orderly (Facade.known_of_reachable closed reached)

/-- An endpoint whose answers are objects of the same title as an enumeration in them. -/
def pets : EndpointSet :=
  let kind : Node := .enum ⟨1, some (.text "Pet"), .null⟩ (some .string) [.text "cat"]
  [(.text "pet", {
    operationId := .text "pet", method := some .get, path := some "/pet", mutation := false
    description := .null
    response := some ⟨.object ⟨0, some (.text "Pet"), .null⟩ 0, #[⟨[], [("kind", kind)]⟩]⟩
    parameters := [], baseUrl := .null })]

/-- Assembling accepts the object and the enumeration; it is the type system that refuses them. -/
theorem single_clashes_pets :
    ∃ fields registry log', withRegistry none (assemble pets) #[] = .ok (fields, registry) log' ∧
      ∃ first second, first ≠ second ∧
        Facade.Reachable ⟨[registry], fields.query, fields.mutation⟩ first ∧
        Facade.Reachable ⟨[registry], fields.query, fields.mutation⟩ second ∧
        Facade.memberName ⟨[registry], fields.query, fields.mutation⟩ first = "Pet" ∧
        Facade.memberName ⟨[registry], fields.query, fields.mutation⟩ second = "Pet" := by
  have refused : (match single pets #[] with
      | .error fault _ => decide (fault = .repeatedType "Pet")
      | .ok _ _ => false) = true := by decide +kernel
  cases result : single pets #[] with
  | ok made log' => simp [result] at refused
  | error fault log' =>
      simp only [result, decide_eq_true_eq] at refused
      subst refused
      cases assembled : withRegistry none (assemble pets) #[] with
      | error fault log'' =>
          obtain ⟨same, known⟩ := (single_clashes pets #[]).1 fault log'' assembled
          rw [result, EStateM.Result.error.injEq] at same
          rw [← same.1] at known
          rcases known with family | long | kind | endless | ⟨_, _, reserved⟩
          · cases family
          · cases long
          · cases kind
          · cases endless
          · cases reserved
      | ok found log'' =>
          rcases found with ⟨fields, registry⟩
          have clashes := (single_clashes pets #[]).2 fields registry log'' assembled
          obtain ⟨_, name, first, second, same, clash⟩ := clashes.2.2.1 _ _ result
          cases same
          exact ⟨fields, registry, log'', rfl, first, second, clash⟩

end Assembly

end GraphFacade
