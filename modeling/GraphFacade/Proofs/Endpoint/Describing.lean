import GraphFacade.Proofs.Document.Expansion
import GraphFacade.Proofs.Endpoint.Carrying

/-!
# What the schemas of endpoints are read from

Every schema of an extracted endpoint is read from the graph of its document.
Only for a parameter that is described inline one cell is added, which holds
what the declaration says besides; no other cell changes.
-/

namespace GraphFacade

open Steps

namespace Document

def Offers (d : Document) (g : Graph) : Prop :=
  g = d.graph ∨ ∃ cell, g = (d.graph.push cell).1

def Describes (d : Document) (schema : Schema) : Prop :=
  ∃ g value, d.Offers g ∧ Schema.ofValue g value = .ok schema

variable {d : Document} {g : Graph}

theorem Offers.cell? (h : d.Offers g) {value : Value} {cell : Cell}
    (found : d.graph.cell? value = some cell) : g.cell? value = some cell := by
  rcases h with rfl | ⟨added, rfl⟩
  · exact found
  · cases value with
    | atom a => simp [Graph.cell?] at found
    | cell id =>
        have inside : id < d.graph.size := (Array.getElem?_eq_some_iff.mp found).choose
        rw [Graph.cell?_push_of_lt _ _ inside, found]

theorem Offers.entries? (h : d.Offers g) {value : Value} {entries : List (String × Value)}
    (found : d.graph.entries? value = some entries) : g.entries? value = some entries := by
  unfold Graph.entries? at found ⊢
  split at found
  · rename_i there
    rw [h.cell? there]
    exact found
  · simp at found

theorem Offers.form? (h : d.Offers g) {value : Value} {form : Form}
    (found : d.graph.form? value = some form) : g.form? value = some form := by
  cases value with
  | atom a => exact found
  | cell id =>
      obtain ⟨cell, there, same⟩ := Option.map_eq_some_iff.mp found
      exact Option.map_eq_some_iff.mpr ⟨cell, h.cell? there, same⟩

end Document

namespace Extraction

variable {d : Document}

theorem parameter_describes {declared : Value} {made : Parameter}
    (h : parameter d.graph declared = .ok made) : d.Describes made.schema := by
  unfold parameter at h
  dsimp only at h
  split at h
  · obtain ⟨schema, read, h⟩ := except_bind_eq_ok.mp h
    rw [← Except.ok.inj h]
    unfold parameterSchema at read
    dsimp only at read
    split at read
    · exact ⟨_, _, .inl rfl, read⟩
    · exact ⟨_, _, .inr ⟨_, rfl⟩, read⟩
  · obtain ⟨_, _, h⟩ := except_bind_eq_ok.mp h
    cases h

theorem bodyParameter_describes {operation : Value} {made : Parameter}
    (h : bodyParameter? d.graph operation = .ok (some made)) : d.Describes made.schema := by
  unfold bodyParameter? at h
  dsimp only at h
  split at h
  · split at h
    · simp at h
    · obtain ⟨schema, read, h⟩ := except_bind_eq_ok.mp h
      rw [← Option.some.inj (Except.ok.inj h)]
      exact ⟨_, _, .inl rfl, read⟩
  · simp at h

/-- The schemas of an extracted endpoint are read from its document. -/
theorem endpoints_describe {given : Option Json} {endpoints : EndpointSet} {log log' : Log}
    (h : d.endpoints given log = .ok endpoints log') {entry : Atom × Endpoint}
    (among : entry ∈ endpoints) :
    (∀ schema, entry.2.response = some schema -> d.Describes schema) ∧
      ∀ parameter ∈ entry.2.parameters, d.Describes parameter.schema := by
  obtain ⟨item, operation, response, made, _, read⟩ := endpoints_parts h among
  refine ⟨fun schema answers => ?_, fun parameter' member => ?_⟩
  · cases response with
    | none =>
        rw [answers] at read
        cases Except.ok.inj read
    | some value =>
        rw [answers] at read
        obtain ⟨schema', made', same⟩ := except_bind_eq_ok.mp read
        obtain rfl := Option.some.inj (Except.ok.inj same)
        exact ⟨_, value, .inl rfl, made'⟩
  · rcases mem_parameters made member with ⟨value, declared⟩ | isBody
    · exact parameter_describes declared
    · exact bodyParameter_describes isBody

end Extraction

end GraphFacade
