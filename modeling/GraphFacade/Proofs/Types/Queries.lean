import GraphFacade.Proofs.Types.Fields
import GraphFacade.Proofs.Types.Reporting

/-!
# What queries show

The types that the query root leads to are finished before the first field of a
mutation is made.  So endpoints that change something have no part in what can
be seen through the query root.
-/

namespace GraphFacade

namespace Facade

variable {facade facade' : Facade}

/-- Facades that define what is there alike lead the same ways. -/
theorem path_congr (closed : facade.Closed)
    (alike : ∀ member, facade.Known member ->
      facade'.memberReferences member = facade.memberReferences member)
    {start member : Member} (known : facade.Known start) :
    Relation.ReflTransGen facade'.Leads start member ↔
      Relation.ReflTransGen facade.Leads start member := by
  have step : ∀ {from' next}, facade.Known from' ->
      (facade'.Leads from' next ↔ facade.Leads from' next) := by
    intro from' next there
    rw [Leads, Leads, alike from' there]
  have met : ∀ {from'}, Relation.ReflTransGen facade.Leads start from' -> facade.Known from' := by
    intro from' path
    cases path with
    | refl => exact known
    | tail _ leads => exact closed _ _ leads
  constructor
  · intro path
    induction path with
    | refl => exact .refl
    | tail _ leads ih => exact ih.tail ((step (met ih)).mp leads)
  · intro path
    induction path with
    | refl => exact .refl
    | tail before leads ih => exact ih.tail ((step (met before)).mpr leads)

end Facade

namespace Assembly

open Registry Workshop Mapping

def queryView (registry : Registry) (query : Entries Field) : Facade :=
  ⟨[registry], query, []⟩

variable {r r' : Registry} {query : Entries Field} {realm : Option String}

theorem reachable_queryView {member : Member} :
    (queryView r query).Reachable member ↔
      Relation.ReflTransGen (queryView r query).Leads .query member := by
  simp [Facade.Reachable, queryView, Facade.roots]

theorem type?_queryView (id : TypeId) : (queryView r query).type? id = r.type? id := by
  simp [queryView, Facade.type?]

/-- Work on a registry that goes on does not show in what the query root led to. -/
theorem queryView_continues (orderly : Orderly r) (held : Held r query)
    (continues : Continues r r') :
    (∀ member, (queryView r' query).Reachable member ↔ (queryView r query).Reachable member) ∧
      ∀ id, (queryView r query).Reachable (.named id) ->
        (r.type? id).isSome ∧ r'.type? id = r.type? id := by
  have closed : (queryView r query).Closed :=
    closed_of_orderly orderly held (by simp [Held, NamedType.references])
  have there : ∀ id, (queryView r query).Known (.named id) -> (r.type? id).isSome := by
    intro id known
    rwa [Facade.Known, type?_queryView] at known
  constructor
  · intro member
    rw [reachable_queryView, reachable_queryView]
    refine Facade.path_congr closed ?_ trivial
    intro other known
    cases other with
    | named id =>
        simp only [Facade.memberReferences, type?_queryView, continues.type?_eq (there id known)]
    | _ => rfl
  · intro id reached
    have known := there id (Facade.known_of_reachable closed reached)
    exact ⟨known, continues.type?_eq known⟩

theorem partition_unlogged (endpoints : EndpointSet) (mutation : Bool) :
    Unlogged (partition endpoints mutation) :=
  partition_sequences unlogged_composes.toSequences (fun _ _ => trivial)
    (mapSchema_composes unlogged_composes fun _ _ => trivial) endpoints mutation

/-- Sets with the same queries have them in the same order. -/
theorem Made.queries_eq {endpoints endpoints' sorted sorted' : EndpointSet}
    {fields fields' : RootFields} (made : Made r endpoints sorted fields)
    (made' : Made r' endpoints' sorted' fields')
    (same : ∀ entry, entry.2.mutation = false -> (entry ∈ endpoints ↔ entry ∈ endpoints')) :
    (sorted.filter fun entry => entry.2.mutation == false) =
      sorted'.filter fun entry => entry.2.mutation == false := by
  have distinct := keys_nodup (made.each false) (made.distinct false)
  have distinct' := keys_nodup (made'.each false) (made'.distinct false)
  refine EndpointSet.eq_of_strict ?_
    (EndpointSet.sorted_strict made.order made.ranked List.filter_sublist distinct)
    (EndpointSet.sorted_strict made'.order made'.ranked List.filter_sublist distinct')
  refine (List.perm_ext_iff_of_nodup (List.Nodup.of_map _ distinct)
    (List.Nodup.of_map _ distinct')).mpr fun entry => ?_
  simp only [List.mem_filter, beq_iff_eq, (EndpointSet.sorted_perm made.order).mem_iff,
    (EndpointSet.sorted_perm made'.order).mem_iff]
  exact and_congr_left fun query => same entry query

/-- The query pass: what it gives, and the stage of the registry at which it ends. -/
theorem assemble_query {endpoints : EndpointSet} {fields : RootFields} {log : Log} {w : Workshop}
    (h : assemble endpoints ⟨{ realm }, log⟩ = .ok fields w) :
    ∃ w₁, partition endpoints false ⟨{ realm }, log⟩ = .ok fields.query w₁ ∧
      Orderly w₁.registry ∧ Held w₁.registry fields.query ∧
      Continues w₁.registry w.registry := by
  obtain ⟨w₁, queries, _, mutations⟩ := assemble_eq_ok.mp h
  obtain ⟨keeps, held⟩ := partition_keeps queries (orderly_new realm)
  obtain ⟨continues, _⟩ := partition_continuing _ _ _ _ _ mutations keeps.orderly
  exact ⟨w₁, queries, keeps.orderly, held, continues⟩

/--
Two sets of endpoints with the same queries, each assembled in a new registry of
one realm, have the same query fields, which lead to the same members, and every
named type among these is there and the same in both.  So nothing that can be
seen through the query root depends on what the endpoints change.
-/
theorem query_unaffected (realm : Option String) {endpoints endpoints' : EndpointSet}
    {log log' : Log} {fields fields' : RootFields} {w w' : Workshop}
    (same : ∀ entry, entry.2.mutation = false -> (entry ∈ endpoints ↔ entry ∈ endpoints'))
    (returns : assemble endpoints ⟨{ realm }, log⟩ = .ok fields w)
    (returns' : assemble endpoints' ⟨{ realm }, log'⟩ = .ok fields' w') :
    fields.query = fields'.query ∧
    (∀ member, (queryView w.registry fields.query).Reachable member ↔
      (queryView w'.registry fields'.query).Reachable member) ∧
    ∀ id, (queryView w.registry fields.query).Reachable (.named id) ->
      ∃ type, w.registry.type? id = some type ∧ w'.registry.type? id = some type := by
  obtain ⟨sorted, made⟩ := assemble_made returns (orderly_new realm)
  obtain ⟨sorted', made'⟩ := assemble_made returns' (orderly_new realm)
  obtain ⟨w₁, queries, orderly, held, continues⟩ := assemble_query returns
  obtain ⟨w₁', queries', _, _, continues'⟩ := assemble_query returns'
  -- the two query passes are one step, and differ at most in what was reported before
  have passes : partition endpoints false = partition endpoints' false := by
    funext start
    rw [partition_eq, partition_eq, made.order, made'.order]
    dsimp only
    rw [made.queries_eq made' same]
  have one := partition_unlogged endpoints' false { realm } log log'
  rw [← passes, queries, passes, queries', outcome, outcome, Except.ok.injEq, Prod.mk.injEq] at one
  obtain ⟨query, registry⟩ := one
  rw [← registry] at continues'
  obtain ⟨members, types⟩ := queryView_continues orderly held continues
  obtain ⟨members', types'⟩ := queryView_continues orderly held continues'
  refine ⟨query, ?_, ?_⟩
  · intro member
    rw [← query, members, members']
  · intro id reached
    rw [members] at reached
    obtain ⟨there, kept⟩ := types id reached
    obtain ⟨type, found⟩ := Option.isSome_iff_exists.mp there
    exact ⟨type, kept.trans found, (types' id reached).2.trans found⟩

/-- An endpoint of a market, which answers with an object of a title. -/
def marketEndpoint (id : String) (method : Method) (title : String) (shapes : Array Shape) :
    Atom × Endpoint :=
  (.text id, {
    operationId := .text id, method := some method, path := some "/market"
    mutation := method != .get, description := .null
    response := some ⟨.object ⟨0, some (.text title), .null⟩ 0, shapes⟩
    parameters := [], baseUrl := .null })

def showcase : EndpointSet :=
  [marketEndpoint "items" .get "Item"
    #[⟨["price"], [("price", .scalar ⟨1, none, .null⟩ .number)]⟩]]

def market : EndpointSet :=
  showcase ++ [marketEndpoint "order" .post "Order"
    #[⟨[], [("item", .object ⟨1, some (.text "Item"), .null⟩ 1)]⟩,
      ⟨[], [("amount", .scalar ⟨2, none, .null⟩ .integer)]⟩]]

/-- Orders add a type, and the items look as they do without orders. -/
theorem query_unaffected_market :
    ∃ fields w fields' w', assemble market ⟨{}, #[]⟩ = .ok fields w ∧
      assemble showcase ⟨{}, #[]⟩ = .ok fields' w' ∧
      w.registry.types.map NamedType.name = #["Item", "Order"] ∧
      w'.registry.types.map NamedType.name = #["Item"] ∧ fields.query = fields'.query ∧
      (∀ member, (queryView w.registry fields.query).Reachable member ↔
        (queryView w'.registry fields'.query).Reachable member) ∧
      ∀ id, (queryView w.registry fields.query).Reachable (.named id) ->
        ∃ type, w.registry.type? id = some type ∧ w'.registry.type? id = some type := by
  have order : EndpointSet.sorted market = .ok market := by
    rw [EndpointSet.sorted_of_ranked (by decide +kernel), if_pos (by decide +kernel),
      List.mergeSort_of_pairwise (by decide +kernel)]
  have shown : (match assemble market ⟨{}, #[]⟩ with
      | .ok _ w => decide (w.registry.types.map NamedType.name = #["Item", "Order"])
      | .error _ _ => false) = true := by
    simp only [assemble, partition, order]
    decide +kernel
  have shown' : (match assemble showcase ⟨{}, #[]⟩ with
      | .ok _ w => decide (w.registry.types.map NamedType.name = #["Item"])
      | .error _ _ => false) = true := by
    decide +kernel
  have same : ∀ entry : Atom × Endpoint, entry.2.mutation = false ->
      (entry ∈ market ↔ entry ∈ showcase) := by
    intro entry query
    rw [market, List.mem_append, or_iff_left]
    intro member
    rw [List.mem_singleton.mp member] at query
    simp [marketEndpoint] at query
  cases returns : assemble market ⟨{}, #[]⟩ with
  | error fault w => simp [returns] at shown
  | ok fields w =>
      cases returns' : assemble showcase ⟨{}, #[]⟩ with
      | error fault w' => simp [returns'] at shown'
      | ok fields' w' =>
          simp only [returns, returns', decide_eq_true_eq] at shown shown'
          exact ⟨fields, w, fields', w', rfl, rfl, shown, shown',
            query_unaffected none same returns returns'⟩

end Assembly

end GraphFacade
