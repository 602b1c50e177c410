import GraphFacade.Proofs.Types.Fields
import GraphFacade.Proofs.Types.Naming
import GraphFacade.Proofs.Types.Reporting
import GraphFacade.Proofs.Types.Stability

/-!
# Assembling is mapping

When endpoints are assembled, the schemas of their answers and of their
parameters are mapped one after another on one new registry.  So what is known
of any number of mappings is known of a whole facade.
-/

namespace GraphFacade

open Steps

/-! ## Histories -/

namespace Mapping

variable {calls others : List Call} {r r₁ r₂ r' : Registry} {visits visits' : List Visit}

theorem History.append (first : History calls r visits r₁) (later : History others r₁ visits' r₂) :
    History (calls ++ others) r (visits ++ visits') r₂ := by
  induction first with
  | nil => exact later
  | cons maps _ ih =>
      rw [List.append_assoc]
      exact .cons maps (ih later)

theorem History.attempts (h : History calls r visits r') : Attempts calls r visits r' := by
  induction h with
  | nil => exact .nil
  | cons first _ ih => exact .mapped first ih

/-- A node is visited for a name, and has its role. -/
theorem Maps.roles {schema : Schema} {origin : Origin} {isInput : Bool} {job : Job}
    {type : TypeRef} (h : Maps schema origin isInput job r visits type r') :
    ∀ visit ∈ visits,
      role? visit.schema visit.isInput visit.node = some visit.key.role := by
  induction h with
  | direct => simp
  | list _ ih => exact ih
  | known named _ _ => exact List.forall_mem_singleton.mpr named
  | created named _ _ _ _ ih => exact List.forall_mem_cons.mpr ⟨named, ih⟩
  | done => simp
  | property _ _ ihFirst ihLater => exact List.forall_mem_append.mpr ⟨ihFirst, ihLater⟩

theorem History.roles (h : History calls r visits r') :
    ∀ visit ∈ visits,
      role? visit.schema visit.isInput visit.node = some visit.key.role := by
  induction h with
  | nil => simp
  | cons first _ ih => exact List.forall_mem_append.mpr ⟨first.roles, ih⟩

theorem History.registered (h : History calls r visits r') :
    ∀ visit ∈ visits, ∃ ref, r'.get? visit.key = some ref := by
  induction h with
  | nil => simp
  | cons first later ih =>
      refine List.forall_mem_append.mpr ⟨fun visit member => ?_, ih⟩
      obtain ⟨ref, found⟩ := Option.isSome_iff_exists.mp (first.registered visit member)
      exact ⟨ref, later.extends.get? found⟩

def Visit.type? (r : Registry) (visit : Visit) : Option TypeRef :=
  translate? r visit.schema visit.origin visit.isInput visit.node

theorem Recorded.type?_eq (h : Recorded r visits) {visit : Visit} (member : visit ∈ visits)
    (role : role? visit.schema visit.isInput visit.node = some visit.key.role) :
    visit.type? r = r.get? visit.key := by
  rw [Visit.type?, translate?_of_role role, h.given visit member, Option.bind_some, Registry.key,
    ← h.realm visit member]

/-- A node that needs a name is visited when it is mapped. -/
theorem Maps.visits_root {schema : Schema} {origin : Origin} {isInput : Bool} {node : Node}
    {hint : String} {type : TypeRef} {role : Role}
    (h : Maps schema origin isInput (.node node hint) r visits type r')
    (named : role? schema isInput node = some role) :
    ∃ key, key.role = role ∧ ⟨schema, origin, isInput, node, key⟩ ∈ visits := by
  cases h with
  | direct direct => simp [role?_of_direct direct] at named
  | list => simp [role?] at named
  | known named' =>
      exact ⟨_, Option.some.inj (named'.symm.trans named), List.mem_cons_self⟩
  | created named' =>
      exact ⟨_, Option.some.inj (named'.symm.trans named), List.mem_cons_self⟩

theorem History.visits_root (h : History calls r visits r') {call : Call} (among : call ∈ calls)
    {role : Role} (named : role? call.schema call.isInput call.schema.root = some role) :
    ∃ key, key.role = role ∧
      ⟨call.schema, call.origin, call.isInput, call.schema.root, key⟩ ∈ visits := by
  induction h with
  | nil => simp at among
  | cons first _ ih =>
      rcases List.mem_cons.mp among with rfl | later
      · obtain ⟨key, role, member⟩ := first.visits_root named
        exact ⟨key, role, List.mem_append_left _ member⟩
      · obtain ⟨key, role, member⟩ := ih later
        exact ⟨key, role, List.mem_append_right _ member⟩

def parameterCalls (operationId : Json) (key : Atom) (part : Nat) (parameters : List Parameter) :
    List Call :=
  (parameters.zipIdx part).map fun numbered =>
    parameterCall operationId key numbered.2 (numbered.1.argument?.getD "") numbered.1

/-- Parameters that can all be arguments are mapped one after another. -/
theorem mapParameters_history {operationId : Json} {key : Atom} {part : Nat}
    {arguments arguments' : Entries Argument} {parameters : List Parameter} {w w' : Workshop}
    (h : mapParameters operationId key part arguments parameters w = .ok arguments' w') :
    ∃ visits, History (parameterCalls operationId key part parameters) w.registry visits
      w'.registry := by
  induction parameters generalizing part arguments w with
  | nil =>
      simp only [mapParameters, pure_eq_ok] at h
      rw [h.2]
      exact ⟨[], .nil⟩
  | cons parameter rest ih =>
      obtain ⟨name, named, _, _, type, w₁, mapped, others⟩ := mapParameters_cons_ok.mp h
      obtain ⟨visits, _, _, maps⟩ := mapSchema_maps mapped
      obtain ⟨more, later⟩ := ih others
      refine ⟨visits ++ more, ?_⟩
      rw [parameterCalls, List.zipIdx_cons, List.map_cons, named]
      exact .cons maps later

end Mapping

/-! ## Endpoints -/

namespace Assembly

open Registry Workshop Mapping

variable {key : Atom} {endpoint : Endpoint} {endpoints : EndpointSet} {w w' : Workshop}

def responseCall? (entry : Atom × Endpoint) : Option Call :=
  entry.2.response.map fun schema =>
    ⟨schema, ⟨entry.1, 0⟩, false, entry.2.operationId.display ++ "_response", true⟩

def callsOf (entry : Atom × Endpoint) : List Call :=
  (responseCall? entry).toList ++ parameterCalls entry.2.operationId entry.1 1 entry.2.parameters

/-- What holds of the schemas of an endpoint holds of its mappings. -/
theorem forall_mem_callsOf {entry : Atom × Endpoint} {P : Schema -> Prop}
    (response : ∀ schema, entry.2.response = some schema -> P schema)
    (parameters : ∀ parameter ∈ entry.2.parameters, P parameter.schema) :
    ∀ call ∈ callsOf entry, P call.schema := by
  intro call member
  rcases List.mem_append.mp member with answers | takes
  · obtain ⟨schema, there, rfl⟩ := Option.map_eq_some_iff.mp (Option.mem_toList.mp answers)
    exact response schema there
  · obtain ⟨⟨parameter, part⟩, numbered, rfl⟩ := List.mem_map.mp takes
    exact parameters parameter (List.fst_mem_of_mem_zipIdx numbered)

theorem fieldOf_history {field : Field} (h : fieldOf key endpoint w = .ok field w') :
    ∃ visits, History (callsOf (key, endpoint)) w.registry visits w'.registry := by
  simp only [fieldOf, bind_eq_ok, pure_eq_ok] at h
  obtain ⟨type, w₁, mapped, arguments, w₂, others, -, rfl⟩ := h
  obtain ⟨more, later⟩ := mapParameters_history others
  obtain ⟨_, mapped⟩ := responseType_eq_ok.mp mapped
  cases response : endpoint.response with
  | some schema =>
      rw [response] at mapped
      obtain ⟨visits, _, _, maps⟩ := mapSchema_maps mapped
      refine ⟨visits ++ more, ?_⟩
      rw [callsOf, responseCall?, response]
      exact .cons maps later
  | none =>
      rw [response] at mapped
      obtain ⟨inner, degraded, -⟩ := mapped
      refine ⟨more, ?_⟩
      rw [callsOf, responseCall?, response, ← (degrade_ok degraded).2]
      exact later

theorem fieldsOf_history {fields fields' : Entries Field}
    (h : fieldsOf fields endpoints w = .ok fields' w') :
    ∃ visits, History (endpoints.flatMap callsOf) w.registry visits w'.registry := by
  induction endpoints generalizing fields w with
  | nil =>
      simp only [fieldsOf, pure_eq_ok] at h
      rw [h.2]
      exact ⟨[], .nil⟩
  | cons entry rest ih =>
      rcases entry with ⟨key, endpoint⟩
      obtain ⟨name, _, _, field, w₁, made, others⟩ := fieldsOf_cons_ok.mp h
      obtain ⟨visits, first⟩ := fieldOf_history made
      obtain ⟨more, later⟩ := ih others
      exact ⟨visits ++ more, first.append later⟩

/-- The visits of the mappings of all endpoints, in some order, on a new registry. -/
def Visited (realm : Option String) (endpoints : EndpointSet) (visits : List Visit)
    (r : Registry) : Prop :=
  ∃ order : EndpointSet, order.Perm endpoints ∧
    History (order.flatMap callsOf) { realm } visits r

/-- Endpoints are assembled by mapping all their schemas, those of queries first. -/
theorem assemble_visited {realm : Option String} {log : Log} {fields : RootFields}
    (h : assemble endpoints ⟨{ realm }, log⟩ = .ok fields w') :
    ∃ visits, Visited realm endpoints visits w'.registry := by
  obtain ⟨w₁, queries, _, mutations⟩ := assemble_eq_ok.mp h
  obtain ⟨sorted, result, queries⟩ := partition_eq_ok.mp queries
  obtain ⟨sorted', result', mutations⟩ := partition_eq_ok.mp mutations
  obtain rfl : sorted = sorted' := Except.ok.inj (result.symm.trans result')
  obtain ⟨visits, first⟩ := fieldsOf_history queries
  obtain ⟨more, later⟩ := fieldsOf_history mutations
  refine ⟨visits ++ more, _ ++ _, ?_, by rw [List.flatMap_append]; exact first.append later⟩
  have parted := List.filter_append_perm (fun entry : Atom × Endpoint => entry.2.mutation == false)
    sorted
  have others : ∀ entry : Atom × Endpoint,
      (!(entry.2.mutation == false)) = (entry.2.mutation == true) := by simp
  simp only [others] at parted
  exact parted.trans (EndpointSet.sorted_perm result)

theorem single_visited {facade : Facade} {log log' : Log}
    (h : single endpoints log = .ok facade log') :
    ∃ r visits, facade.realms = [r] ∧ Visited none endpoints visits r := by
  obtain ⟨fields, registry, result, rfl⟩ := single_assembled h
  obtain ⟨w, ended, rfl⟩ := assembled_eq_ok.mp result
  obtain ⟨visits, visited⟩ := assemble_visited ended
  exact ⟨w.registry, visits, rfl, visited⟩

end Assembly

end GraphFacade
