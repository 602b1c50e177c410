import GraphFacade.Endpoint.Extraction
import GraphFacade.Proofs.Endpoint.KeyOrder
import GraphFacade.Proofs.Entries
import GraphFacade.Proofs.Related
import GraphFacade.Proofs.Steps
import Mathlib.Data.List.Perm.Basic

/-!
# Collecting endpoints

Each operation of a document gives one endpoint under its id, whatever else is
in the document.  Extraction ends well if and only if all operations do and no
two of them have one id; so the order of the paths decides nothing but the order
of the endpoints.
-/

namespace GraphFacade

theorem EndpointSet.has_iff {key : Atom} {endpoints : EndpointSet} :
    EndpointSet.has key endpoints = true ↔ key.key ∈ endpoints.keys := by
  simp [EndpointSet.has, EndpointSet.keys, Atom.same]

namespace Extraction

open Steps

/-! ## Operations -/

/-- An operation of a document: a method of a path, and the item that it is in. -/
structure Operation where
  path : String
  item : Value
  method : Method
  deriving Repr, Inhabited

def Operation.value (g : Graph) (operation : Operation) : Value :=
  g.getD operation.item operation.method.name

def operationsAt (g : Graph) (path : String) (item : Value) (method : Method) : List Operation :=
  if g.isDict (g.getD item method.name) then [⟨path, item, method⟩] else []

def operationsOf (g : Graph) (path : String × Value) : List Operation :=
  if g.isDict path.2 then Method.all.flatMap (operationsAt g path.1 path.2) else []

/-- The endpoint of an operation, under its id. -/
structure Yields (g : Graph) (base : Json) (operation : Operation)
    (entry : Atom × Endpoint) : Prop where
  id : operationId g (operation.value g) operation.method operation.path = .ok entry.1
  endpoint : endpoint g base operation.path operation.item operation.method (operation.value g)
    entry.1 = .ok entry.2

/-- Operations whose endpoints are added to those there are, under ids that are new each time. -/
inductive Gathers (g : Graph) (base : Json) :
    List Operation -> EndpointSet -> EndpointSet -> Prop
  | nil {endpoints : EndpointSet} : Gathers g base [] endpoints endpoints
  | cons {operation : Operation} {rest : List Operation} {entry : Atom × Endpoint}
      {endpoints endpoints' : EndpointSet}
      (yields : Yields g base operation entry) (new : entry.1.key ∉ endpoints.keys)
      (others : Gathers g base rest (endpoints ++ [entry]) endpoints') :
      Gathers g base (operation :: rest) endpoints endpoints'

variable {g : Graph} {base : Json} {operations others : List Operation}
  {endpoints endpoints' : EndpointSet}

theorem gathers_append :
    Gathers g base (operations ++ others) endpoints endpoints' ↔
      ∃ middle, Gathers g base operations endpoints middle ∧
        Gathers g base others middle endpoints' := by
  induction operations generalizing endpoints with
  | nil =>
      constructor
      · exact fun h => ⟨endpoints, .nil, h⟩
      · rintro ⟨_, ⟨⟩, h⟩
        exact h
  | cons operation rest ih =>
      constructor
      · rintro (_ | ⟨yields, new, h⟩)
        obtain ⟨middle, first, later⟩ := ih.mp h
        exact ⟨middle, .cons yields new first, later⟩
      · rintro ⟨middle, _ | ⟨yields, new, first⟩, later⟩
        exact .cons yields new (ih.mpr ⟨middle, first, later⟩)

/-- What is gathered is an endpoint for each operation, all of different ids. -/
theorem gathers_iff (distinct : endpoints.keys.Nodup) :
    Gathers g base operations endpoints endpoints' ↔
      ∃ found, endpoints' = endpoints ++ found ∧ List.Forall₂ (Yields g base) operations found ∧
        endpoints'.keys.Nodup := by
  have snoc : ∀ {endpoints : EndpointSet} {entry : Atom × Endpoint},
      (endpoints ++ [entry]).keys = endpoints.keys ++ [entry.1.key] := by
    simp [EndpointSet.keys]
  induction operations generalizing endpoints with
  | nil =>
      constructor
      · rintro ⟨⟩
        exact ⟨[], by simp, .nil, distinct⟩
      · rintro ⟨found, rfl, ⟨⟩, _⟩
        rw [List.append_nil]
        exact .nil
  | cons operation rest ih =>
      constructor
      · rintro (_ | ⟨yields, new, h⟩)
        have distinct' := distinct.concat new
        rw [List.concat_eq_append, ← snoc] at distinct'
        obtain ⟨found, rfl, each, apart⟩ := (ih distinct').mp h
        exact ⟨_ :: found, List.append_assoc .., .cons yields each, apart⟩
      · rintro ⟨_, rfl, _ | ⟨yields, each⟩, apart⟩
        rename_i entry found
        have fewer : (endpoints ++ [entry]).keys.Nodup := by
          rw [List.append_cons] at apart
          exact apart.sublist ((List.sublist_append_left _ found).map _)
        have later := (ih fewer).mpr ⟨found, List.append_cons .., each, apart⟩
        rw [snoc, ← List.concat_eq_append, List.nodup_concat] at fewer
        exact .cons yields fewer.1 later

theorem Yields.genuine {operation : Operation} {entry : Atom × Endpoint}
    (yields : Yields g base operation entry) : entry.1.key.isText ∨ entry.1.truthy := by
  have named := yields.id
  unfold operationId at named
  dsimp only at named
  split at named
  · rename_i given
    split at named
    · rename_i id same
      rw [same] at given
      rw [← Except.ok.inj named]
      exact .inr given
    · simp at named
  · rw [← Except.ok.inj named]
    exact .inl rfl

/-! ## Runs -/

theorem addOperation_ok {path : String} {item : Value} {method : Method} {log : Log} :
    (∃ log', addOperation g base path item endpoints method log = .ok endpoints' log') ↔
      Gathers g base (operationsAt g path item method) endpoints endpoints' := by
  unfold addOperation operationsAt
  by_cases dict : g.isDict (g.getD item method.name)
  · simp only [dict, ↓reduceIte, bind_eq_ok, ofExcept_apply]
    constructor
    · rintro ⟨log', _, log₁, given, h⟩
      split at given
      · rename_i id named
        simp only [EStateM.Result.ok.injEq] at given
        obtain ⟨rfl, rfl⟩ := given
        split at h
        · simp [bind_eq_ok] at h
        · rename_i new
          simp only [bind_eq_ok, ofExcept_apply, pure_eq_ok] at h
          obtain ⟨_, log₂, made, _, log₃, _, rfl, rfl⟩ := h
          split at made
          · rename_i found built
            simp only [EStateM.Result.ok.injEq] at made
            obtain ⟨rfl, rfl⟩ := made
            have yields : Yields g base ⟨path, item, method⟩ (id, found) := ⟨named, built⟩
            exact .cons yields (fun taken => new (EndpointSet.has_iff.mpr taken)) .nil
          · simp at made
      · simp at given
    · rintro (_ | ⟨yields, new, _ | _⟩)
      rename_i entry
      have named : operationId g (g.getD item method.name) method path = .ok entry.1 := yields.id
      have built : endpoint g base path item method (g.getD item method.name) entry.1 =
          .ok entry.2 := yields.endpoint
      have free : EndpointSet.has entry.1 endpoints = false := by
        rw [Bool.eq_false_iff]
        exact fun taken => new (EndpointSet.has_iff.mp taken)
      let event : Event :=
        .endpointExtracted (.atom entry.1) method.title path entry.2.parameters.length
      refine ⟨log.push event, entry.1, log, by rw [named], ?_⟩
      rw [free, if_neg Bool.false_ne_true]
      simp only [bind_eq_ok, ofExcept_apply, built, pure_eq_ok]
      exact ⟨entry.2, log, rfl, (), _, rfl, rfl, rfl⟩
  · simp only [dict, Bool.false_eq_true, ↓reduceIte, pure_eq_ok, exists_eq_right']
    constructor
    · rintro rfl
      exact .nil
    · rintro ⟨⟩
      rfl

/-- Steps that gather the operations of single parts gather those of all of them. -/
theorem foldlM_ok {α : Type} {step : EndpointSet -> α -> Run EndpointSet}
    {parts : α -> List Operation}
    (steps : ∀ part endpoints endpoints' log,
      (∃ log', step endpoints part log = .ok endpoints' log') ↔
        Gathers g base (parts part) endpoints endpoints')
    (list : List α) {log : Log} :
    (∃ log', list.foldlM step endpoints log = .ok endpoints' log') ↔
      Gathers g base (list.flatMap parts) endpoints endpoints' := by
  induction list generalizing endpoints log with
  | nil =>
      simp only [List.foldlM_nil, pure_eq_ok, exists_eq_right', List.flatMap_nil]
      constructor
      · rintro rfl
        exact .nil
      · rintro ⟨⟩
        rfl
  | cons part rest ih =>
      simp only [List.foldlM_cons, bind_eq_ok, List.flatMap_cons, gathers_append]
      constructor
      · rintro ⟨log', middle, log₁, first, later⟩
        exact ⟨middle, (steps _ _ _ _).mp ⟨log₁, first⟩, ih.mp ⟨log', later⟩⟩
      · rintro ⟨middle, first, later⟩
        obtain ⟨log₁, first⟩ := (steps part endpoints middle log).mpr first
        obtain ⟨log', later⟩ := ih.mpr later
        exact ⟨log', middle, log₁, first, later⟩

theorem addPath_ok {path : String × Value} {log : Log} :
    (∃ log', addPath g base endpoints path log = .ok endpoints' log') ↔
      Gathers g base (operationsOf g path) endpoints endpoints' := by
  have steps : ∀ method endpoints endpoints' log,
      (∃ log', addOperation g base path.1 path.2 endpoints method log = .ok endpoints' log') ↔
        Gathers g base (operationsAt g path.1 path.2 method) endpoints endpoints' :=
    fun _ _ _ _ => addOperation_ok
  unfold addPath operationsOf
  split
  · exact foldlM_ok steps Method.all
  · simp only [pure_eq_ok, exists_eq_right']
    constructor
    · rintro rfl
      exact .nil
    · rintro ⟨⟩
      rfl

/-- The paths of a document give an endpoint for each operation, all of different ids. -/
theorem addPaths_ok {paths : List (String × Value)} {log : Log} :
    (∃ log', paths.foldlM (addPath g base) [] log = .ok endpoints log') ↔
      List.Forall₂ (Yields g base) (paths.flatMap (operationsOf g)) endpoints ∧
        endpoints.keys.Nodup := by
  have steps : ∀ path endpoints endpoints' log,
      (∃ log', addPath g base endpoints path log = .ok endpoints' log') ↔
        Gathers g base (operationsOf g path) endpoints endpoints' := fun _ _ _ _ => addPath_ok
  refine (foldlM_ok steps paths).trans ((gathers_iff (by simp [EndpointSet.keys])).trans ?_)
  constructor
  · rintro ⟨found, rfl, each, distinct⟩
    exact ⟨each, distinct⟩
  · rintro ⟨each, distinct⟩
    exact ⟨endpoints, rfl, each, distinct⟩

/-! ## Documents -/

def baseOr (d : Document) (base : Option Json) : Except Fault Json :=
  match base with
  | some base => .ok base
  | none => baseUrl d

/-- Two documents with the same entries, except that their paths may be in different orders. -/
structure Reordered (g : Graph) (root root' : Value) : Prop where
  entries : ∃ entries entries', g.entries? root = some entries ∧ g.entries? root' = some entries' ∧
    ∀ key, key ≠ "paths" -> entries.lookup key = entries'.lookup key
  paths : ∃ paths paths', g.entries? (g.getD root "paths") = some paths ∧
    g.entries? (g.getD root' "paths") = some paths' ∧ paths.Perm paths'

variable {root root' : Value}

theorem Reordered.getD_eq (h : Reordered g root root') {key : String} (other : key ≠ "paths") :
    g.getD root key = g.getD root' key := by
  obtain ⟨entries, entries', dict, dict', same⟩ := h.entries
  simp only [Graph.getD, Graph.get?, dict, dict', Option.bind_some, same key other]

theorem baseUrl_of_entries {entries : List (String × Value)}
    (dict : g.entries? root = some entries) :
    baseUrl ⟨g, root⟩ =
      if (entries.lookup "swagger").isSome then hostUrl g root else serverUrl g root := by
  have cell : g.cell? root = some (.dict entries) := by
    unfold Graph.entries? at dict
    split at dict
    · rename_i found
      rw [found, Option.some.inj dict]
    · simp at dict
  simp only [baseUrl, cell, Entries.has_eq_isSome]

theorem Reordered.baseUrl_eq (h : Reordered g root root') :
    baseUrl ⟨g, root⟩ = baseUrl ⟨g, root'⟩ := by
  obtain ⟨entries, entries', dict, dict', same⟩ := h.entries
  have host : hostUrl g root = hostUrl g root' := by
    simp only [hostUrl, h.getD_eq (show "host" ≠ "paths" by decide),
      h.getD_eq (show "basePath" ≠ "paths" by decide),
      h.getD_eq (show "schemes" ≠ "paths" by decide)]
  have server : serverUrl g root = serverUrl g root' := by
    simp only [serverUrl, h.getD_eq (show "servers" ≠ "paths" by decide)]
  rw [baseUrl_of_entries dict, baseUrl_of_entries dict', same _ (by decide), host, server]

/-- Extraction ends well if every operation has an endpoint and no two of these one id. -/
theorem endpoints_ok {entries paths : List (String × Value)} {given : Option Json} {log : Log}
    (dict : g.entries? root = some entries)
    (listed : g.entries? (g.getD root "paths") = some paths) :
    (∃ log', (⟨g, root⟩ : Document).endpoints given log = .ok endpoints log') ↔
      ∃ base, baseOr ⟨g, root⟩ given = .ok base ∧
        List.Forall₂ (Yields g base) (paths.flatMap (operationsOf g)) endpoints ∧
        endpoints.keys.Nodup := by
  have dict' : g.isDict root = true := by simp [Graph.isDict, dict]
  have section' : sectionEntries g (g.getD root "paths") = .ok paths := by
    rw [sectionEntries, listed]
  have run : ∀ base, (∃ log', (do
      if g.isDict root then
        let paths <- MonadExcept.ofExcept (sectionEntries g (g.getD root "paths"))
        paths.foldlM (addPath g base) []
      else
        throw .noEntries : Run EndpointSet) log = .ok endpoints log') ↔
      List.Forall₂ (Yields g base) (paths.flatMap (operationsOf g)) endpoints ∧
        endpoints.keys.Nodup := by
    intro base
    rw [if_pos dict', bind_apply, ofExcept_apply, section']
    exact addPaths_ok
  unfold Document.endpoints baseOr
  cases given with
  | some base =>
      simpa using run base
  | none =>
      simp only [bind_apply, ofExcept_apply]
      cases baseUrl ⟨g, root⟩ with
      | error fault => simp
      | ok base => simpa using run base

/-- Paths in another order give the same endpoints, perhaps in another order too. -/
theorem Reordered.endpoints_perm (h : Reordered g root root') {given : Option Json}
    {log log₁ : Log} (returns : (⟨g, root⟩ : Document).endpoints given log = .ok endpoints log₁) :
    endpoints.keys.Nodup ∧ (∀ entry ∈ endpoints, entry.1.key.isText ∨ entry.1.truthy) ∧
      ∀ log', ∃ endpoints' log₁',
        (⟨g, root'⟩ : Document).endpoints given log' = .ok endpoints' log₁' ∧
          endpoints.Perm endpoints' := by
  obtain ⟨entries, entries', dict, dict', _⟩ := h.entries
  obtain ⟨paths, paths', listed, listed', moved⟩ := h.paths
  obtain ⟨base, from', each, distinct⟩ := (endpoints_ok dict listed).mp ⟨log₁, returns⟩
  refine ⟨distinct, fun entry among => ?_, fun log' => ?_⟩
  · obtain ⟨operation, _, yields⟩ := exists_of_forall₂ (R := flip (Yields g base)) each.flip among
    exact yields.genuine
  · obtain ⟨endpoints', each', moved'⟩ :=
      List.perm_comp_forall₂ (moved.symm.flatMap_right (operationsOf g)) each
    have base' : baseOr ⟨g, root'⟩ given = .ok base := by
      rw [← from']
      unfold baseOr
      rw [h.baseUrl_eq]
    have distinct' : (EndpointSet.keys endpoints').Nodup :=
      (EndpointSet.keys_perm moved').nodup_iff.mpr distinct
    obtain ⟨log₁', returns'⟩ :=
      (endpoints_ok dict' listed').mpr ⟨base, base', each', distinct'⟩
    exact ⟨endpoints', log₁', returns', moved'.symm⟩

end Extraction

end GraphFacade
